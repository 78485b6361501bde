import Mathlib.Logic.Relation
import SealedEnum.Path
import SealedEnum.Proofs.Text.Pieces

namespace SealedEnum.Path

open SealedEnum.Text

/-! Paths with the same components: those that differ in repeated slashes, in dots between slashes
and in slashes or dots at the end, and no others. -/

/-- One text is another one with a part that leaves no trace. -/
inductive Shortens : List Char → List Char → Prop where
  | repeatedSlash (before after : List Char) :
      Shortens (before ++ '/' :: '/' :: after) (before ++ '/' :: after)
  | dotInside (before after : List Char) :
      Shortens (before ++ '/' :: '.' :: '/' :: after) (before ++ '/' :: after)
  | slashAtEnd {text : List Char} (nonempty : text ≠ []) : Shortens (text ++ ['/']) text
  | dotAtEnd {text : List Char} (nonempty : text ≠ []) : Shortens (text ++ ['/', '.']) text

/-- Each path is a spelling of the other. -/
def Respells (left right : Path) : Prop :=
  Relation.EqvGen Shortens left.text.toList right.text.toList

/-- The pieces of a text that leave a trace. -/
def names (text : List Char) : List (List Char) :=
  (splitAt '/' text).filter fun piece => !isVoid piece

theorem names_append (first second : List Char) :
    names (first ++ '/' :: second) = names first ++ names second := by
  rw [names, splitAt_append, List.filter_append, names, names]

@[simp] theorem names_nil : names [] = [] := rfl

@[simp] theorem names_dot : names ['.'] = [] := by decide

@[simp] theorem names_slash (text : List Char) : names ('/' :: text) = names text :=
  names_append [] text

@[simp] theorem names_dot_slash (text : List Char) :
    names ('.' :: '/' :: text) = names text :=
  names_append ['.'] text

theorem start_cases (text : List Char) :
    (∃ rest, text = '/' :: rest) ∨ text = ['.'] ∨ (∃ rest, text = '.' :: '/' :: rest) ∨
      anchor text = [] := by
  by_cases root : startsAtRoot text = true
  · unfold startsAtRoot at root
    split at root
    · exact .inl ⟨_, rfl⟩
    · contradiction
  by_cases here : startsHere text = true
  · unfold startsHere at here
    split at here
    · exact .inr (.inl rfl)
    · exact .inr (.inr (.inl ⟨_, rfl⟩))
    · contradiction
  · exact .inr (.inr (.inr (by simp [anchor, root, here])))

theorem anchor_cases (text : List Char) :
    anchor text = ['/'] ∨ anchor text = ['.'] ∨ anchor text = [] := by
  rcases start_cases text with ⟨rest, rfl⟩ | rfl | ⟨rest, rfl⟩ | none
  · exact .inl rfl
  · exact .inr (.inl rfl)
  · exact .inr (.inl rfl)
  · exact .inr (.inr none)

theorem isAbsolute_iff_anchor {path : Path} :
    path.isAbsolute = true ↔ anchor path.text.toList = ['/'] := by
  rw [isAbsolute]
  rcases start_cases path.text.toList with ⟨rest, text⟩ | text | ⟨rest, text⟩ | none
  · simp [text, anchor, startsAtRoot]
  · simp [text, anchor, startsAtRoot, startsHere]
  · simp [text, anchor, startsAtRoot, startsHere]
  · cases root : startsAtRoot path.text.toList with
    | false => simp [none]
    | true => simp [anchor, root] at none

theorem filter_pieces (text : List Char) :
    ((pieces text).filter fun piece => !isVoid piece) = names text := by
  rcases start_cases text with ⟨rest, rfl⟩ | rfl | ⟨rest, rfl⟩ | none
  · exact (names_slash rest).symm
  · rfl
  · exact (names_slash rest).trans (names_dot_slash rest).symm
  · rw [pieces, none]
    rfl

/-- What a text leaves of itself in the components of a path. -/
structure SameTrace (left right : List Char) : Prop where
  anchor : anchor left = anchor right
  names : names left = names right

theorem SameTrace.symm {left right : List Char} (same : SameTrace left right) :
    SameTrace right left :=
  ⟨same.anchor.symm, same.names.symm⟩

theorem SameTrace.trans {left middle right : List Char} (first : SameTrace left middle)
    (second : SameTrace middle right) : SameTrace left right :=
  ⟨first.anchor.trans second.anchor, first.names.trans second.names⟩

def Component.isAnchor : Component → Bool
  | .root => true
  | .here => true
  | .up => false
  | .name _ => false

theorem isAnchor_componentOf (piece : List Char) : (componentOf piece).isAnchor = false := by
  unfold componentOf
  split <;> rfl

theorem componentOf_injective : Function.Injective componentOf := by
  intro first second same
  unfold componentOf at same
  split at same <;> split at same
  · simp_all
  · contradiction
  · contradiction
  · exact String.ofList_injective (Component.name.inj same)

/-- The components of a path that begins with an anchor, before its names. -/
def anchorComponents (anchor : List Char) : List Component :=
  if anchor = ['/'] then [.root] else if anchor = ['.'] then [.here] else []

theorem components_eq (path : Path) :
    path.components =
      anchorComponents (anchor path.text.toList) ++ (names path.text.toList).map componentOf := by
  have start : (if startsAtRoot path.text.toList then [Component.root]
      else if startsHere path.text.toList then [.here] else []) =
        anchorComponents (anchor path.text.toList) := by
    unfold anchor
    split
    · rfl
    · split <;> rfl
  rw [← start, ← filter_pieces]
  rfl

theorem isAnchor_of_mem_anchorComponents {anchor : List Char} {component : Component}
    (member : component ∈ anchorComponents anchor) : component.isAnchor = true := by
  unfold anchorComponents at member
  split at member
  · rw [List.mem_singleton.mp member]
    rfl
  · split at member
    · rw [List.mem_singleton.mp member]
      rfl
    · contradiction

theorem anchorComponents_injOn {left right : List Char}
    (same : anchorComponents (anchor left) = anchorComponents (anchor right)) :
    anchor left = anchor right := by
  rcases anchor_cases left with found | found | found <;>
    rcases anchor_cases right with other | other | other <;>
      simp [anchorComponents, found, other] at same ⊢

theorem filter_isAnchor (text : List Char) (pieces : List (List Char)) :
    (anchorComponents text ++ pieces.map componentOf).filter Component.isAnchor =
      anchorComponents text := by
  have named : ∀ component ∈ pieces.map componentOf, ¬ component.isAnchor = true := by
    intro component member
    obtain ⟨piece, -, rfl⟩ := List.mem_map.mp member
    simp [isAnchor_componentOf]
  rw [List.filter_append, List.filter_eq_nil_iff.mpr named, List.append_nil]
  exact List.filter_eq_self.mpr fun _ => isAnchor_of_mem_anchorComponents

/-- Names make no anchors, so that the one can be told from the others. -/
theorem components_eq_iff {left right : Path} :
    left.components = right.components ↔ SameTrace left.text.toList right.text.toList := by
  rw [components_eq, components_eq]
  constructor
  · intro same
    have anchors := congrArg (List.filter Component.isAnchor) same
    rw [filter_isAnchor, filter_isAnchor] at anchors
    rw [anchors] at same
    exact ⟨anchorComponents_injOn anchors,
      (List.map_inj_right fun _ _ => @componentOf_injective _ _).mp (List.append_cancel_left same)⟩
  · rintro ⟨anchor, names⟩
    rw [anchor, names]

/-! What stands before a slash decides how a text starts. -/

/-- Two texts that start alike have one anchor. -/
structure StartsAlike (left right : List Char) : Prop where
  root : startsAtRoot left = startsAtRoot right
  here : startsHere left = startsHere right

theorem StartsAlike.anchor_eq {left right : List Char} (alike : StartsAlike left right) :
    anchor left = anchor right := by
  rw [anchor, anchor, alike.root, alike.here]

theorem startsAtRoot_cons (c : Char) (rest : List Char) :
    startsAtRoot (c :: rest) = decide (c = '/') := by
  unfold startsAtRoot
  split <;> simp_all

theorem startsHere_single (c : Char) : startsHere [c] = decide (c = '.') := by
  unfold startsHere
  split <;> simp_all

theorem startsHere_cons_cons (c d : Char) (rest : List Char) :
    startsHere (c :: d :: rest) = (decide (c = '.') && decide (d = '/')) := by
  unfold startsHere
  split <;> simp_all

theorem anchor_append_slash (before after : List Char) :
    anchor (before ++ '/' :: after) = anchor (before ++ ['/']) := by
  apply StartsAlike.anchor_eq
  rcases before with - | ⟨c, - | ⟨d, rest⟩⟩
  · exact ⟨rfl, rfl⟩
  · constructor <;> simp [startsAtRoot_cons, startsHere_cons_cons]
  · constructor <;> simp [startsAtRoot_cons, startsHere_cons_cons]

theorem anchor_slash {text : List Char} (nonempty : text ≠ []) :
    anchor (text ++ ['/']) = anchor text := by
  apply StartsAlike.anchor_eq
  rcases text with - | ⟨c, - | ⟨d, rest⟩⟩
  · contradiction
  · constructor <;> simp [startsAtRoot_cons, startsHere_cons_cons, startsHere_single]
  · constructor <;> simp [startsAtRoot_cons, startsHere_cons_cons]

theorem sameTrace_append {before first second : List Char} (same : names first = names second) :
    SameTrace (before ++ '/' :: first) (before ++ '/' :: second) where
  anchor := by rw [anchor_append_slash, anchor_append_slash before second]
  names := by rw [names_append, names_append, same]

theorem sameTrace_slash {text : List Char} (nonempty : text ≠ []) :
    SameTrace (text ++ ['/']) text where
  anchor := anchor_slash nonempty
  names := by rw [names_append, names_nil, List.append_nil]

theorem sameTrace_of_shortens {long short : List Char} (shortens : Shortens long short) :
    SameTrace long short := by
  cases shortens with
  | repeatedSlash before after => exact sameTrace_append (names_slash after)
  | dotInside before after => exact sameTrace_append (names_dot_slash after)
  | slashAtEnd nonempty => exact sameTrace_slash nonempty
  | dotAtEnd nonempty =>
      exact (sameTrace_append names_dot).trans (sameTrace_slash nonempty)

theorem sameTrace_of_eqvGen {left right : List Char}
    (respells : Relation.EqvGen Shortens left right) : SameTrace left right := by
  induction respells with
  | rel long short shortens => exact sameTrace_of_shortens shortens
  | refl text => exact ⟨rfl, rfl⟩
  | symm left right _ ih => exact ih.symm
  | trans left middle right _ _ first second => exact first.trans second

/-! Each text has a shortest spelling, which its anchor and its names tell. -/

/-- Pieces below a text, each behind a slash of its own. -/
def below (base : List Char) (pieces : List (List Char)) : List Char :=
  base ++ pieces.flatMap ('/' :: ·)

theorem below_cons (base piece : List Char) (pieces : List (List Char)) :
    below base (piece :: pieces) = below (base ++ '/' :: piece) pieces := by
  simp [below]

theorem withSlashes_cons (piece : List Char) (pieces : List (List Char)) :
    withSlashes (piece :: pieces) = below piece pieces := by
  induction pieces generalizing piece with
  | nil => simp [withSlashes, below]
  | cons next rest ih =>
      have tail : withSlashes (piece :: next :: rest) =
          piece ++ '/' :: withSlashes (next :: rest) := by
        simp [withSlashes]
      rw [tail, ih]
      simp [below]

theorem withSlashes_splitAt (text : List Char) : withSlashes (splitAt '/' text) = text := by
  induction text with
  | nil => rfl
  | cons c rest ih =>
      obtain ⟨piece, pieces, split⟩ := List.exists_cons_of_ne_nil (splitAt_ne_nil '/' rest)
      rw [split, withSlashes_cons] at ih
      by_cases slash : c = '/'
      · subst c
        rw [splitAt_separator, split, withSlashes_cons, below_cons, ← ih]
        rfl
      · rw [splitAt_cons slash split, withSlashes_cons, ← ih]
        rfl

/-- A void piece can be left out, unless it is all there is. -/
theorem eqvGen_below_void {base piece : List Char} {rest : List (List Char)}
    (void : isVoid piece = true) (placed : base ≠ [] ∨ rest ≠ []) :
    Relation.EqvGen Shortens (below base (piece :: rest)) (below base rest) := by
  have cases : piece = [] ∨ piece = ['.'] := by simpa [isVoid] using void
  apply Relation.EqvGen.rel
  cases rest with
  | nil =>
      have nonempty : base ≠ [] := by simpa using placed
      rcases cases with rfl | rfl
      · simpa [below] using Shortens.slashAtEnd nonempty
      · simpa [below] using Shortens.dotAtEnd nonempty
  | cons next later =>
      rcases cases with rfl | rfl
      · simpa [below] using Shortens.repeatedSlash base (next ++ later.flatMap ('/' :: ·))
      · simpa [below] using Shortens.dotInside base (next ++ later.flatMap ('/' :: ·))

theorem eqvGen_below {base : List Char} (nonempty : base ≠ []) (pieces : List (List Char)) :
    Relation.EqvGen Shortens (below base pieces)
      (below base (pieces.filter fun piece => !isVoid piece)) := by
  induction pieces generalizing base with
  | nil => exact .refl _
  | cons piece rest ih =>
      by_cases void : isVoid piece = true
      · rw [List.filter_cons_of_neg (by simp [void])]
        exact (eqvGen_below_void void (.inl nonempty)).trans _ _ _ (ih nonempty)
      · rw [List.filter_cons_of_pos (by simp [void]), below_cons, below_cons]
        exact ih (by simp)

/-- The shortest text with an anchor and names. -/
def shortest (anchor : List Char) (names : List (List Char)) : List Char :=
  if anchor = ['/'] then '/' :: withSlashes names
  else if anchor = ['.'] then below ['.'] names
  else withSlashes names

theorem below_eq (base : List Char) {pieces : List (List Char)} (nonempty : pieces ≠ []) :
    below base pieces = base ++ '/' :: withSlashes pieces := by
  obtain ⟨piece, rest, rfl⟩ := List.exists_cons_of_ne_nil nonempty
  rw [withSlashes_cons]
  simp [below]

theorem slash_withSlashes_cons (piece : List Char) (pieces : List (List Char)) :
    '/' :: withSlashes (piece :: pieces) = below [] (piece :: pieces) :=
  (below_eq [] (by simp)).symm

theorem eqvGen_slash_dot : Relation.EqvGen Shortens ['/', '.'] ['/'] := by
  have longer : Shortens ['/', '.', '/'] ['/', '.'] :=
    .slashAtEnd (List.cons_ne_nil '/' ['.'])
  have shorter : Shortens ['/', '.', '/'] ['/'] := .dotInside [] []
  -- The text has to get longer before it can get shorter.
  exact .trans _ _ _ (.symm _ _ (.rel _ _ longer)) (.rel _ _ shorter)

theorem eqvGen_root {pieces : List (List Char)} (nonempty : pieces ≠ []) :
    Relation.EqvGen Shortens ('/' :: withSlashes pieces)
      ('/' :: withSlashes (pieces.filter fun piece => !isVoid piece)) := by
  induction pieces with
  | nil => contradiction
  | cons piece rest ih =>
      by_cases void : isVoid piece = true
      · rw [List.filter_cons_of_neg (by simp [void])]
        cases rest with
        | nil =>
            have cases : piece = [] ∨ piece = ['.'] := by simpa [isVoid] using void
            rcases cases with rfl | rfl
            · exact .refl _
            · exact eqvGen_slash_dot
        | cons next later =>
            refine .trans _ _ _ ?_ (ih (by simp))
            rw [slash_withSlashes_cons, slash_withSlashes_cons]
            exact eqvGen_below_void void (.inr (by simp))
      · rw [List.filter_cons_of_pos (by simp [void]), slash_withSlashes_cons,
          slash_withSlashes_cons, below_cons, below_cons]
        exact eqvGen_below (by simp) rest

/-- A text without an anchor starts with a name, or is empty. -/
theorem eqvGen_shortest_of_name {text : List Char} (start : anchor text = []) :
    Relation.EqvGen Shortens text (shortest (anchor text) (names text)) := by
  obtain ⟨piece, pieces, split⟩ := List.exists_cons_of_ne_nil (splitAt_ne_nil '/' text)
  have whole := withSlashes_splitAt text
  rw [split, withSlashes_cons] at whole
  have notDot : piece ≠ ['.'] := by
    rintro rfl
    cases pieces <;> simp [← whole, below, anchor, startsAtRoot, startsHere] at start
  have short : shortest (anchor text) (names text) =
      withSlashes ((piece :: pieces).filter fun piece => !isVoid piece) := by
    simp [shortest, names, start, split]
  rw [short]
  by_cases empty : piece = []
  · subst empty
    cases pieces with
    | nil =>
        rw [← whole]
        exact .refl _
    | cons next later => simp [← whole, below, anchor, startsAtRoot] at start
  · rw [List.filter_cons_of_pos (by simp [isVoid, empty, notDot]), withSlashes_cons]
    simpa only [whole] using eqvGen_below empty pieces

theorem eqvGen_shortest (text : List Char) :
    Relation.EqvGen Shortens text (shortest (anchor text) (names text)) := by
  rcases start_cases text with ⟨rest, rfl⟩ | rfl | ⟨rest, rfl⟩ | none
  · have spelled := eqvGen_root (splitAt_ne_nil '/' rest)
    rwa [withSlashes_splitAt] at spelled
  · exact .refl _
  · have spelled := eqvGen_below (List.cons_ne_nil '.' []) (splitAt '/' rest)
    rw [below_eq _ (splitAt_ne_nil '/' rest), withSlashes_splitAt] at spelled
    rw [names_dot_slash]
    exact spelled
  · exact eqvGen_shortest_of_name none

/-- Components tell paths apart by nothing but their spelling. -/
theorem components_eq_iff_respells {left right : Path} :
    left.components = right.components ↔ left.Respells right := by
  rw [components_eq_iff]
  constructor
  · rintro ⟨anchor, names⟩
    have leftward := eqvGen_shortest left.text.toList
    rw [anchor, names] at leftward
    exact leftward.trans _ _ _ (.symm _ _ (eqvGen_shortest right.text.toList))
  · exact sameTrace_of_eqvGen

example : Path.components ⟨"./a//b/./c/."⟩ = Path.components ⟨"./a/b/c"⟩ ∧
    Path.components ⟨"./a"⟩ ≠ Path.components ⟨"a"⟩ ∧
      Path.components ⟨"a/../b"⟩ ≠ Path.components ⟨"b"⟩ := by decide

end SealedEnum.Path
