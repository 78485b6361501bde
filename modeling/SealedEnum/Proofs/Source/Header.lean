import SealedEnum.Proofs.Source.Comment
import SealedEnum.Proofs.Source.Tokens

namespace SealedEnum

open SealedEnum.Source SealedEnum.Text

/-! The header of a file: the comment block of its license and a blank line. The code below it is
that of the file without a license. -/

def headerText : Option (List String) → String
  | none => ""
  | some block => String.join (block.map (· ++ "\n")) ++ "\n"

namespace Source

variable {block : List String}

theorem headerText_some (block : List String) :
    headerText (some block) = joined block ++ "\n" :=
  rfl

theorem File.text_eq (file : File) :
    file.text = headerText file.header ++ { file with header := none }.text := by
  obtain ⟨header, package, imports, declarations⟩ := file
  cases header with
  | none => simp [headerText]
  | some block =>
      simp only [File.text, File.lines, File.sections, headerText, Option.toList_some,
        Option.toList_none, List.nil_append, List.cons_append, List.intercalate_cons_cons,
        List.map_append, String.join_append, String.append_assoc]
      simp

theorem readFrom_joined_comments {rest : List Char}
    (comments : ∀ line ∈ block, isComment line = true)
    (whole : ∀ line ∈ block, '\n' ∉ line.toList) :
    readFrom .code ((joined block).toList ++ rest) = readFrom .code rest := by
  induction block with
  | nil => simp [joined]
  | cons line others ih =>
      rw [List.forall_mem_cons] at comments whole
      have spelled : (joined (line :: others)).toList ++ rest =
          line.toList ++ '\n' :: ((joined others).toList ++ rest) := by
        simp [joined]
      rw [spelled, readFrom_comment comments.1 whole.1, ih comments.2 whole.2]

/-- No token comes from a comment block. -/
theorem tokens_headerText_append (comments : ∀ line ∈ block, isComment line = true)
    (whole : ∀ line ∈ block, '\n' ∉ line.toList) (code : String) :
    tokens (headerText (some block) ++ code) = tokens code := by
  have blank : ∀ rest, readFrom .code ('\n' :: rest) = readFrom .code rest := fun _ => rfl
  rw [tokens, headerText_some, String.toList_append, String.toList_append, List.append_assoc,
    List.append_assoc, readFrom_joined_comments comments whole]
  exact congrArg Reading.found (blank _)

theorem linesOf_headerText_append (whole : ∀ line ∈ block, '\n' ∉ line.toList) (code : String) :
    linesOf (headerText (some block) ++ code) = block ++ "" :: linesOf code := by
  have feed : joined [""] = "\n" := by simp [joined]
  have blank : linesOf (joined [""] ++ code) = [""] ++ linesOf code :=
    linesOf_joined_append (List.forall_mem_singleton.mpr (by simp)) code
  rw [feed] at blank
  rw [headerText_some, String.append_assoc, linesOf_joined_append whole, blank]
  rfl

theorem isAllBlank_of_isComment {line : String} (comment : isComment line = true) :
    isAllBlank line.toList = false := by
  obtain ⟨content, spelled⟩ := List.isPrefixOf_iff_prefix.mp comment
  rw [← spelled]
  rfl

theorem getLast?_commentBlock {text : String} (made : commentBlock text = some block) :
    block.getLast? = some "//" := by
  simp only [commentBlock] at made
  split at made
  · contradiction
  · cases made
    simp

end Source

theorem render_ofSpec (spec : Spec) (license : Option String) :
    (Model.ofSpec spec license).render =
      headerText (license.bind commentBlock) ++ (Model.ofSpec spec none).render :=
  Source.File.text_eq (Model.ofSpec spec license).file

theorem tokens_render (spec : Spec) (license : Option String) :
    tokens (Model.ofSpec spec license).render = tokens (Model.ofSpec spec none).render := by
  rw [render_ofSpec]
  cases made : license.bind commentBlock with
  | none => simp [headerText]
  | some block =>
      obtain ⟨text, _, made⟩ := Option.bind_eq_some_iff.mp made
      exact tokens_headerText_append (isComment_of_mem_commentBlock made)
        (whole_of_mem_commentBlock made) _

/-- Whatever a license says, it stands above the code as whole lines of comment, and the code is the
same to the last character as without it. -/
theorem render_license (spec : Spec) (text : String) :
    let code := (Model.ofSpec spec none).render
    let whole := (Model.ofSpec spec (some text)).render
    (isAllBlank text.toList = true → whole = code) ∧
      (isAllBlank text.toList = false →
        ∃ block, commentBlock text = some block ∧
          whole = joined block ++ "\n" ++ code ∧
          linesOf (joined block) = block ∧
          (∀ line ∈ block, isComment line = true ∧ isAllBlank line.toList = false) ∧
          block.getLast? = some "//" ∧
          linesOf whole = block ++ "" :: linesOf code) ∧
      tokens whole = tokens code ∧
      blocks (linesOf whole) = blocks (linesOf code) := by
  intro code whole
  have spelled : whole = headerText (commentBlock text) ++ code := render_ofSpec spec (some text)
  have read : tokens whole = tokens code := tokens_render spec (some text)
  clear_value whole code
  cases visible : isAllBlank text.toList with
  | true =>
      have plain : whole = code := by
        simpa [commentBlock, visible, headerText] using spelled
      exact ⟨fun _ => plain, by simp, read, by rw [plain]⟩
  | false =>
      obtain ⟨block, made⟩ : ∃ block, commentBlock text = some block := by
        simp [commentBlock, visible]
      have comments := isComment_of_mem_commentBlock made
      have complete := whole_of_mem_commentBlock made
      rw [made] at spelled
      have separate : linesOf whole = block ++ "" :: linesOf code := by
        rw [spelled, linesOf_headerText_append complete]
      refine ⟨by simp, fun _ => ⟨block, made, ?_, linesOf_joined complete, ?_,
        getLast?_commentBlock made, separate⟩, read, ?_⟩
      · rw [spelled, headerText_some]
      · exact fun line member =>
          ⟨comments line member, isAllBlank_of_isComment (comments line member)⟩
      · rw [separate]
        exact (ReadsAs.comments comments _).trans (ReadsAs.skip (.inl rfl) _)

end SealedEnum
