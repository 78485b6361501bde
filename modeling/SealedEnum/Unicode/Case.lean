import SealedEnum.Unicode.CaseTable

namespace SealedEnum.Unicode

/-! Full case mappings of text. -/

def CaseRun.image? (run : CaseRun) (n : Nat) : Option Nat :=
  if run.first ≤ n && n ≤ run.last && (n - run.first) % run.stride == 0 then
    some (run.image + (n - run.first))
  else none

private def mapped (runs : List CaseRun) (expansions : List (Nat × List Nat)) (c : Char) :
    List Char :=
  match runs.findSome? (·.image? c.toNat) with
  | some n => [Char.ofNat n]
  | none =>
      match expansions.lookup c.toNat with
      | some images => images.map Char.ofNat
      | none => [c]

def lowerChar (c : Char) : List Char :=
  mapped lowerRuns lowerExpansions c

def upperChar (c : Char) : List Char :=
  mapped upperRuns upperExpansions c

/-- A character is moved by a run, spelled out, or left as it is. -/
theorem lowerChar_cases (c : Char) :
    (∃ run ∈ lowerRuns, ∃ n, run.image? c.toNat = some n ∧ lowerChar c = [Char.ofNat n]) ∨
      (∃ images, (c.toNat, images) ∈ lowerExpansions ∧ lowerChar c = images.map Char.ofNat) ∨
      lowerChar c = [c] := by
  unfold lowerChar mapped
  split
  · rename_i n found
    obtain ⟨run, member, image⟩ := List.exists_of_findSome?_eq_some found
    exact .inl ⟨run, member, n, image, rfl⟩
  · split
    · rename_i images found
      obtain ⟨before, after, entries, -⟩ := List.lookup_eq_some_iff.mp found
      exact .inr (.inl ⟨images, by simp [entries], rfl⟩)
    · exact .inr (.inr rfl)

theorem lowerChar_ne_nil (c : Char) : lowerChar c ≠ [] := by
  rcases lowerChar_cases c with ⟨run, -, n, -, moved⟩ | ⟨images, member, spelled⟩ | same
  · simp [moved]
  · have nonempty : ∀ expansion ∈ lowerExpansions, expansion.2 ≠ [] := by decide
    simpa [spelled] using nonempty _ member
  · simp [same]

private def meetsCased (neighbours : List Char) : Bool :=
  match neighbours.dropWhile fun c => caseIgnorables.contains c.toNat with
  | [] => false
  | c :: _ => casedLetters.contains c.toNat

/-- A capital sigma ends a word when a cased letter precedes it and none follows. -/
def endsWord (before after : List Char) : Bool :=
  meetsCased before && !meetsCased after

private def lowerAfter (before : List Char) : List Char → List Char
  | [] => []
  | c :: rest =>
      let image :=
        if c = 'Σ' then [if endsWord before rest then 'ς' else 'σ'] else lowerChar c
      image ++ lowerAfter (c :: before) rest

def lowerText (text : List Char) : List Char :=
  lowerAfter [] text

private theorem mem_lowerAfter {before text : List Char} {c : Char}
    (member : c ∈ lowerAfter before text) :
    (∃ d ∈ text, c ∈ lowerChar d) ∨ c = 'σ' ∨ c = 'ς' := by
  induction text generalizing before with
  | nil => contradiction
  | cons d rest ih =>
      rw [lowerAfter, List.mem_append] at member
      rcases member with here | later
      · split at here
        · right
          split at here <;> simp_all
        · exact .inl ⟨d, List.mem_cons_self, here⟩
      · rcases ih later with ⟨e, inside, image⟩ | sigma
        · exact .inl ⟨e, List.mem_cons_of_mem d inside, image⟩
        · exact .inr sigma

/-- Only a sigma is lowered otherwise than by itself. -/
theorem mem_lowerText {text : List Char} {c : Char} (member : c ∈ lowerText text) :
    (∃ d ∈ text, c ∈ lowerChar d) ∨ c = 'σ' ∨ c = 'ς' :=
  mem_lowerAfter member

theorem lowerText_ne_nil {text : List Char} (nonempty : text ≠ []) : lowerText text ≠ [] := by
  obtain ⟨c, rest, rfl⟩ := List.exists_cons_of_ne_nil nonempty
  rw [lowerText, lowerAfter]
  split
  · simp
  · simp [lowerChar_ne_nil]

def upperText (text : List Char) : List Char :=
  text.flatMap upperChar

end SealedEnum.Unicode
