import SealedEnum.Proofs.Generation.Repetition
import SealedEnum.Proofs.Source.Header

namespace SealedEnum

open SealedEnum.Source SealedEnum.Text

/-! A file generated over its own license: the file becomes the license of the next run, which
quotes all of it in its header. -/

theorem isAllBlank_render (model : Model) : isAllBlank model.render.toList = false := by
  obtain ⟨rest, lines⟩ := lines_eq_header model
  have package : s!"package {model.package}" ∈ model.file.lines := by
    rw [lines]
    split <;> simp
  refine List.all_eq_false.mpr ⟨'p', ?_, by decide⟩
  rw [Model.render, File.text_eq_joined, toList_joined]
  refine List.mem_flatMap.mpr ⟨_, List.mem_map_of_mem package, ?_⟩
  simp [toString]

theorem utf8ByteSize_quoted (block : List String) :
    (String.join (block.map (· ++ "\n"))).utf8ByteSize ≤
      (String.join ((block.map quotedLine).map (· ++ "\n"))).utf8ByteSize := by
  induction block with
  | nil => rfl
  | cons line rest ih =>
      simp only [List.map_cons, String.join_cons, String.utf8ByteSize_append, quotedLine]
      omega

/-- A header that quotes a text is longer than the header the text has. -/
theorem headerText_lt {license : Option String} {code : String}
    (visible : isAllBlank code.toList = false) :
    (headerText (license.bind commentBlock)).utf8ByteSize <
      (headerText (commentBlock
        (headerText (license.bind commentBlock) ++ code))).utf8ByteSize := by
  cases made : license.bind commentBlock with
  | none =>
      have blank : isAllBlank (headerText none ++ code).toList = false := by
        simpa [headerText] using visible
      have ends : 0 < "\n".utf8ByteSize := by decide
      simp only [commentBlock, blank, Bool.false_eq_true, if_false]
      simp only [headerText, String.utf8ByteSize_append, String.utf8ByteSize_empty]
      omega
  | some block =>
      obtain ⟨text, -, comment⟩ := Option.bind_eq_some_iff.mp made
      have below : isAllBlank ('\n' :: code.toList) = false := by
        simpa [isAllBlank] using fun _ => visible
      obtain ⟨others, quotes⟩ := commentBlock_append (headerText (some block) ++ code)
        comment below (by simp [headerText, List.flatMap_map])
      have longer := utf8ByteSize_quoted block
      have closes : 0 < ("//" ++ "\n").utf8ByteSize := by decide
      rw [quotes]
      simp only [headerText, List.map_append, String.join_append, String.utf8ByteSize_append,
        List.map_cons, List.map_nil, String.join_cons] at longer closes ⊢
      omega

theorem render_lt (spec : Spec) (license : Option String) :
    (Model.ofSpec spec license).render.utf8ByteSize <
      (Model.ofSpec spec (some (Model.ofSpec spec license).render)).render.utf8ByteSize := by
  rw [render_ofSpec spec (some _), String.utf8ByteSize_append, render_ofSpec spec license,
    String.utf8ByteSize_append]
  exact Nat.add_lt_add_right (headerText_lt (isAllBlank_render _)) _

namespace Session

variable {session after : Session} {spec : Spec} {file : GeneratedFile} {rendered : RenderedFile}
  {disk : Disk}

theorem outcome_generate_ok (renders : session.rendering spec = .ok rendered)
    (replaced : session.disk.replace session.directory rendered.path rendered.bytes = .ok disk) :
    ∃ events, session.outcome (generate spec) =
      (.ok rendered.generated, { session with disk, events }) := by
  obtain ⟨events, generates⟩ := outcome_generate session spec
  rw [renders] at generates
  dsimp only at generates
  rw [replaced] at generates
  exact ⟨events, generates⟩

theorem generate_eq_ok (generated : session.outcome (generate spec) = (.ok file, after)) :
    ∃ rendered disk events, session.rendering spec = .ok rendered ∧
      session.disk.replace session.directory rendered.path rendered.bytes = .ok disk ∧
        file = rendered.generated ∧ after = { session with disk, events } := by
  obtain ⟨events, generates⟩ := outcome_generate session spec
  rw [generated] at generates
  cases renders : session.rendering spec with
  | error failure => simp [renders] at generates
  | ok rendered =>
      rw [renders] at generates
      dsimp only at generates
      cases replaced : session.disk.replace session.directory rendered.path rendered.bytes with
      | error failure => simp [replaced] at generates
      | ok disk =>
          rw [replaced] at generates
          cases generates
          exact ⟨rendered, disk, events, rfl, replaced, rfl, rfl⟩

/-- The file a specification is written to is the one its license is read from. -/
def OverwritesLicense (session : Session) (spec : Spec) : Prop :=
  ∃ license ∈ spec.licenseFile,
    session.disk.Overwrites session.directory spec.destination license

theorem generate_again_of_apart (apart : ¬ session.OverwritesLicense spec)
    (generated : session.outcome (generate spec) = (.ok file, after)) :
    after.outcome (check spec) = (.ok .upToDate, after) ∧
      ∃ events, after.outcome (generate spec) = (.ok file, { after with events }) := by
  obtain ⟨rendered, disk, events, renders, replaced, rfl, rfl⟩ := generate_eq_ok generated
  have settled := Disk.settled_of_replace replaced
  obtain ⟨parent, name, replaceable, rfl⟩ := Disk.replace_eq_ok_iff.mp replaced
  have path := path_of_rendering renders
  have again : Session.rendering
      { session with disk := session.disk.put (parent ++ [name]) (.file rendered.bytes), events }
      spec = .ok rendered := by
    refine rendering_of_frame replaceable.frame rfl ?_ renders
    rintro license named place resolves rfl
    exact apart ⟨license, named, _, path ▸ replaceable.goal?_eq, resolves⟩
  constructor
  · rw [outcome_check, again]
    exact congrArg (·, _) (status_eq_upToDate_iff.mpr settled.read_eq)
  · exact outcome_generate_ok again settled.replace_eq

/-- What was written over the license is the license from then on. -/
theorem license_of_overwrites {parent : Place} {name : String}
    (overwrites : session.OverwritesLicense spec)
    (replaceable :
      session.disk.Replaceable session.directory spec.destination parent name)
    (renders : session.rendering spec = .ok rendered)
    (written : after.disk = session.disk.put (parent ++ [name]) (.file rendered.bytes))
    (same : after.directory = session.directory) :
    after.license spec.licenseFile = .ok (some rendered.content) := by
  obtain ⟨license, named, place, leads, resolves⟩ := overwrites
  obtain rfl := Option.some.inj (replaceable.goal?_eq.symm.trans leads)
  have nonempty := Disk.isEmpty_of_resolve resolves
  obtain ⟨-, _, loaded, -⟩ := rendering_eq_ok_iff.mp renders
  rw [named] at loaded ⊢
  have text : Disk.holdsNul license = false := by
    rw [license_some session nonempty, readText] at loaded
    cases reads : session.disk.read session.directory license with
    | error error => simp [reads] at loaded
    | ok bytes => exact (Disk.read_eq_ok_iff.mp reads).1
  have reads : after.disk.read after.directory license = .ok rendered.bytes := by
    rw [written, same]
    refine Disk.read_eq_ok_iff.mpr ⟨text, parent ++ [name],
      replaceable.sameDirectories.resolve_ok resolves, ?_⟩
    rw [Disk.lookup_put (by simp), if_pos rfl]
  rw [license_some after nonempty, readText, reads]
  dsimp only
  rw [RenderedFile.bytes, fromUTF8?_toUTF8]

theorem status_eq_stale {path : Path} {content held : ByteArray}
    (reads : session.disk.read session.directory path = .ok held)
    (different : held.size < content.size) : session.status path content = .ok .stale := by
  have distinct : held.data ≠ content.data := by
    intro same
    rw [ByteArray.ext same] at different
    exact absurd different (Nat.lt_irrefl _)
  rw [status, reads]
  dsimp only
  rw [if_neg distinct]

/-- Where a shorter file is held, the check says so, and a generation replaces the file. -/
theorem generate_of_longer {next : RenderedFile} (renders : session.rendering spec = .ok next)
    (settled : session.disk.Settled session.directory rendered) (same : next.path = rendered.path)
    (longer : rendered.bytes.size < next.bytes.size) :
    session.outcome (check spec) = (.ok .stale, session) ∧
      ∃ after, session.outcome (generate spec) = (.ok next.generated, after) ∧
        after.disk ≠ session.disk := by
  have reads := settled.read_eq
  obtain ⟨parent, name, replaceable, holds⟩ := settled
  rw [← same] at reads replaceable
  constructor
  · rw [outcome_check, renders]
    exact congrArg (·, session) (status_eq_stale reads longer)
  · obtain ⟨events, generated⟩ := outcome_generate_ok renders
      (Disk.replace_eq_ok_iff.mpr ⟨parent, name, replaceable, rfl⟩)
    refine ⟨_, generated, ?_⟩
    intro (unchanged : session.disk.put (parent ++ [name]) (.file next.bytes) = session.disk)
    have put : (session.disk.put (parent ++ [name]) (.file next.bytes)).lookup (parent ++ [name]) =
        some (.file next.bytes) := by
      rw [Disk.lookup_put (by simp), if_pos rfl]
    rw [unchanged, holds.lookup_eq (by simp), Option.some.injEq,
      Entry.file.injEq] at put
    rw [put] at longer
    exact absurd longer (Nat.lt_irrefl _)

theorem generate_again_of_overwrites (overwrites : session.OverwritesLicense spec)
    (generated : session.outcome (generate spec) = (.ok file, after)) :
    after.outcome (check spec) = (.ok .stale, after) ∧
      ∃ again later, after.outcome (generate spec) = (.ok again, later) ∧
        file.bytesWritten < again.bytesWritten ∧ later.disk ≠ after.disk := by
  obtain ⟨rendered, disk, events, renders, replaced, rfl, rfl⟩ := generate_eq_ok generated
  obtain ⟨accepted, license, -, made⟩ := rendering_eq_ok_iff.mp renders
  have path := path_of_rendering renders
  have settled := Disk.settled_of_replace replaced
  obtain ⟨parent, name, replaceable, written⟩ := Disk.replace_eq_ok_iff.mp replaced
  rw [path] at replaceable
  obtain ⟨next, grown⟩ : ∃ next, next = RenderedFile.ofModel spec.destination
    (.ofSpec spec (some rendered.content)) := ⟨_, rfl⟩
  have renders' : Session.rendering { session with disk, events } spec = .ok next :=
    rendering_eq_ok_iff.mpr ⟨accepted, _,
      license_of_overwrites overwrites replaceable renders written rfl, grown⟩
  have longer : rendered.bytes.size < next.bytes.size := by
    rw [grown, made]
    exact render_lt spec license
  have same : next.path = rendered.path := (congrArg RenderedFile.path grown).trans path.symm
  obtain ⟨stale, later, again, changed⟩ := generate_of_longer renders' settled same longer
  exact ⟨stale, _, later, again, longer, changed⟩

/-- Generating again changes nothing, unless the file is written over its own license: then the file
is stale at once, and grows each time. -/
theorem generate_again (generated : session.outcome (generate spec) = (.ok file, after)) :
    (¬ session.OverwritesLicense spec →
        after.outcome (check spec) = (.ok .upToDate, after) ∧
          ∃ events, after.outcome (generate spec) = (.ok file, { after with events })) ∧
      (session.OverwritesLicense spec →
        after.outcome (check spec) = (.ok .stale, after) ∧
          ∃ again later, after.outcome (generate spec) = (.ok again, later) ∧
            file.bytesWritten < again.bytesWritten ∧ later.disk ≠ after.disk) :=
  ⟨fun apart => generate_again_of_apart apart generated,
    fun overwrites => generate_again_of_overwrites overwrites generated⟩

end Session

def ownLicenseSpec : Spec :=
  { licensedSpec with destination := ⟨"LICENSE"⟩ }

theorem generate_licensed (spec : Spec) (accepted : spec.validate = .ok ())
    (named : spec.licenseFile = some ⟨"LICENSE"⟩) {disk : Disk}
    (replaced : licensedSession.disk.replace [] spec.destination (licensedFile spec).bytes =
      .ok disk) :
    ∃ after, licensedSession.outcome (generate spec) =
      (.ok (licensedFile spec).generated, after) := by
  obtain ⟨events, generated⟩ :=
    Session.outcome_generate_ok (rendering_licensedSession accepted named) replaced
  exact ⟨_, generated⟩

theorem overwritesLicense_own : licensedSession.OverwritesLicense ownLicenseSpec :=
  ⟨⟨"LICENSE"⟩, rfl, ["LICENSE"], rfl, rfl⟩

theorem not_overwritesLicense_licensed : ¬ licensedSession.OverwritesLicense licensedSpec := by
  rintro ⟨license, named, overwrites⟩
  obtain rfl := Option.some.inj named
  exact not_overwrites_license (by decide) overwrites

theorem generate_again_licensed :
    (∃ file after, licensedSession.outcome (generate licensedSpec) = (.ok file, after) ∧
        ¬ licensedSession.OverwritesLicense licensedSpec ∧
          after.outcome (check licensedSpec) = (.ok .upToDate, after)) ∧
      ∃ file after again later,
        licensedSession.outcome (generate ownLicenseSpec) = (.ok file, after) ∧
          licensedSession.OverwritesLicense ownLicenseSpec ∧
            after.outcome (generate ownLicenseSpec) = (.ok again, later) ∧
              file.bytesWritten < again.bytesWritten := by
  constructor
  · obtain ⟨after, generated⟩ := generate_licensed licensedSpec rfl rfl rfl
    have apart := not_overwritesLicense_licensed
    exact ⟨_, after, generated, apart, ((Session.generate_again generated).1 apart).1⟩
  · obtain ⟨after, generated⟩ := generate_licensed ownLicenseSpec rfl rfl rfl
    have overwrites := overwritesLicense_own
    obtain ⟨-, again, later, next, longer, -⟩ := (Session.generate_again generated).2 overwrites
    exact ⟨_, after, again, later, generated, overwrites, next, longer⟩

/-- Regeneration over its own license is not idempotent. -/
theorem generate_own_license_stale :
    ∃ file after again later,
      licensedSession.outcome (generate ownLicenseSpec) = (.ok file, after) ∧
        (after.outcome (check ownLicenseSpec)).1 ≠ .ok .upToDate ∧
          after.outcome (generate ownLicenseSpec) = (.ok again, later) ∧
            again.bytesWritten ≠ file.bytesWritten ∧ later.disk ≠ after.disk := by
  obtain ⟨after, generated⟩ := generate_licensed ownLicenseSpec rfl rfl rfl
  obtain ⟨stale, again, later, next, longer, changed⟩ :=
    Session.generate_again_of_overwrites overwritesLicense_own generated
  refine ⟨_, after, again, later, generated, ?_, next, Nat.ne_of_gt longer, changed⟩
  rw [stale]
  exact fun same => CheckStatus.noConfusion (Except.ok.inj same)

end SealedEnum
