import SealedEnum.Proofs.Generation.Batch
import SealedEnum.Proofs.Generation.UpToDate

namespace SealedEnum

/-! Generating again what was just generated: every file is up to date, and nothing changes. -/

theorem fromUTF8?_toUTF8 (text : String) : String.fromUTF8? text.toUTF8 = some text := by
  unfold String.fromUTF8?
  split
  · rfl
  · rename_i invalid
    exact absurd text.isValidUTF8 (by simpa using invalid)

namespace Disk

variable {disk changed last : Disk} {directory place : Place} {entry : Entry}
  {file : RenderedFile} {files : List RenderedFile}

/-- A place is taken by an entry and by no other one. -/
structure Holds (disk : Disk) (place : Place) (entry : Entry) : Prop where
  taken : (disk.entries.lookup place).isSome = true
  only : ∀ old ∈ disk.entries, old.1 = place → old = (place, entry)

theorem put_of_holds (holds : disk.Holds place entry) : disk.put place entry = disk := by
  have kept : disk.entries.map (replaced place entry) = disk.entries := by
    have same : ∀ old ∈ disk.entries, replaced place entry old = id old := by
      intro old member
      unfold replaced
      split
      · rename_i here
        exact (holds.only old member here).symm
      · rfl
    rw [List.map_congr_left same, List.map_id]
  rw [put, if_pos holds.taken]
  exact congrArg Disk.mk kept

theorem Holds.lookup_eq (holds : disk.Holds place entry) (named : place ≠ []) :
    disk.lookup place = some entry := by
  obtain ⟨found, taken⟩ := Option.isSome_iff_exists.mp holds.taken
  obtain ⟨before, after, entries, -⟩ := List.lookup_eq_some_iff.mp taken
  have same := holds.only (place, found) (by simp [entries]) rfl
  rw [lookup, if_neg named, taken, (Prod.mk.inj same).2]

theorem holds_put (disk : Disk) (place : Place) (entry : Entry) :
    (disk.put place entry).Holds place entry := by
  constructor
  · rw [entries_put, Association.lookup_update, if_pos rfl]
    rfl
  · intro old member here
    rw [entries_put] at member
    exact (Association.mem_update member).resolve_right fun other => other.2 here

theorem Holds.put_of_ne (holds : disk.Holds place entry) {other : Place} (different : other ≠ place)
    (new : Entry) : (disk.put other new).Holds place entry := by
  constructor
  · rw [entries_put, Association.lookup_update, if_neg different.symm]
    exact holds.taken
  · intro old member here
    rw [entries_put] at member
    rcases Association.mem_update member with rfl | ⟨earlier, -⟩
    · exact absurd here different
    · exact holds.only old earlier here

/-- Writing a file would only put its content where it already is. -/
def Settled (disk : Disk) (directory : Place) (file : RenderedFile) : Prop :=
  ∃ parent name, disk.Replaceable directory file.path parent name ∧
    disk.Holds (parent ++ [name]) (.file file.bytes)

theorem Settled.replace_eq (settled : disk.Settled directory file) :
    disk.replace directory file.path file.bytes = .ok disk := by
  obtain ⟨parent, name, replaceable, holds⟩ := settled
  exact replace_eq_ok_iff.mpr ⟨parent, name, replaceable, (put_of_holds holds).symm⟩

theorem Settled.read_eq (settled : disk.Settled directory file) :
    disk.read directory file.path = .ok file.bytes := by
  obtain ⟨parent, name, replaceable, holds⟩ := settled
  exact replaceable.read_eq (holds.lookup_eq (by simp))

theorem settled_of_replace
    (replaced : disk.replace directory file.path file.bytes = .ok changed) :
    changed.Settled directory file := by
  obtain ⟨parent, name, replaceable, rfl⟩ := replace_eq_ok_iff.mp replaced
  exact ⟨parent, name, replaceable.sameDirectories.replaceable replaceable, holds_put _ _ _⟩

/-- Two paths lead to one place. -/
def Meet (disk : Disk) (directory : Place) (first second : Path) : Prop :=
  ∃ place, disk.goal? directory first = some place ∧ disk.goal? directory second = some place

theorem Settled.of_replace {path : Path} {content : ByteArray}
    (settled : disk.Settled directory file)
    (replaced : disk.replace directory path content = .ok changed)
    (apart : ¬ disk.Meet directory file.path path) : changed.Settled directory file := by
  obtain ⟨parent, name, replaceable, holds⟩ := settled
  obtain ⟨into, other, elsewhere, rfl⟩ := replace_eq_ok_iff.mp replaced
  refine ⟨parent, name, elsewhere.sameDirectories.replaceable replaceable,
    holds.put_of_ne ?_ _⟩
  intro same
  exact apart ⟨parent ++ [name], replaceable.goal?_eq, same ▸ elsewhere.goal?_eq⟩

theorem SameDirectories.meet_iff (same : SameDirectories disk changed) {first second : Path} :
    changed.Meet directory first second ↔ disk.Meet directory first second := by
  simp only [Meet, same.goal?_eq]

theorem replaceAll_nil : disk.replaceAll directory [] = .ok last ↔ disk = last := by
  rw [replaceAll, List.foldlM_nil]
  exact ⟨Except.ok.inj, congrArg Except.ok⟩

theorem replaceAll_cons_eq_ok_iff :
    disk.replaceAll directory (file :: files) = .ok last ↔
      ∃ changed, disk.replace directory file.path file.bytes = .ok changed ∧
        changed.replaceAll directory files = .ok last := by
  rw [replaceAll, List.foldlM_cons]
  cases disk.replace directory file.path file.bytes with
  | error failure => simp [bind, Except.bind]
  | ok changed =>
      simp only [Except.ok.injEq, exists_eq_left']
      rfl

theorem frame_of_replaceAll (replaced : disk.replaceAll directory files = .ok last) :
    disk.Frame last fun place => ∃ file ∈ files, disk.goal? directory file.path = some place := by
  induction files generalizing disk with
  | nil =>
      obtain rfl := replaceAll_nil.mp replaced
      exact .refl disk _
  | cons file rest ih =>
      obtain ⟨changed, first, others⟩ := replaceAll_cons_eq_ok_iff.mp replaced
      obtain ⟨parent, name, replaceable, rfl⟩ := replace_eq_ok_iff.mp first
      refine (replaceable.frame.trans (ih others)).mono ?_
      rintro place (rfl | ⟨later, member, leads⟩)
      · exact ⟨file, by simp, replaceable.goal?_eq⟩
      · rw [replaceable.sameDirectories.goal?_eq] at leads
        exact ⟨later, List.mem_cons_of_mem file member, leads⟩

/-- A file that was written keeps its content through all writes elsewhere. -/
theorem Settled.of_replaceAll (settled : disk.Settled directory file)
    (replaced : disk.replaceAll directory files = .ok last)
    (apart : ∀ other ∈ files, ¬ disk.Meet directory file.path other.path) :
    last.Settled directory file := by
  induction files generalizing disk with
  | nil =>
      obtain rfl := replaceAll_nil.mp replaced
      exact settled
  | cons other rest ih =>
      obtain ⟨changed, first, others⟩ := replaceAll_cons_eq_ok_iff.mp replaced
      have same := (replace_effect first).1
      refine ih (settled.of_replace first (apart other (by simp))) others ?_
      intro later member
      rw [same.meet_iff]
      exact apart later (List.mem_cons_of_mem other member)

/-- The invariant of the writes: each keeps what was settled before, and settles its own file. -/
theorem settled_of_replaceAll (replaced : disk.replaceAll directory files = .ok last)
    (apart : files.Pairwise fun first second => ¬ disk.Meet directory first.path second.path) :
    ∀ file ∈ files, last.Settled directory file := by
  induction files generalizing disk with
  | nil => simp
  | cons file rest ih =>
      obtain ⟨changed, first, others⟩ := replaceAll_cons_eq_ok_iff.mp replaced
      obtain ⟨away, among⟩ := List.pairwise_cons.mp apart
      have same := (replace_effect first).1
      rw [List.forall_mem_cons]
      constructor
      · refine (settled_of_replace first).of_replaceAll others ?_
        intro other member
        rw [same.meet_iff]
        exact away other member
      · refine ih others (among.imp ?_)
        intro left right away
        rwa [same.meet_iff]

theorem replaceAll_of_settled (settled : ∀ file ∈ files, disk.Settled directory file) :
    disk.replaceAll directory files = .ok disk := by
  induction files with
  | nil => rfl
  | cons file rest ih =>
      rw [List.forall_mem_cons] at settled
      exact replaceAll_cons_eq_ok_iff.mpr ⟨disk, settled.1.replace_eq, ih settled.2⟩

theorem StopsAfter.replaceAll_eq {done : List RenderedFile} {failure : Failure} {middle : Disk}
    (stops : disk.StopsAfter directory files done failure middle) :
    disk.replaceAll directory files = .error failure := by
  obtain ⟨file, later, rfl, fails⟩ := stops.fails
  have written := stops.written
  rw [replaceAll] at written
  rw [replaceAll, List.foldlM_append, written]
  change (middle.replace directory file.path file.bytes >>= _) = _
  rw [fails]
  rfl

/-- The file at one path is the one that another path is read from. -/
def Overwrites (disk : Disk) (directory : Place) (destination source : Path) : Prop :=
  ∃ place, disk.goal? directory destination = some place ∧
    disk.resolve directory source = .ok place

end Disk

namespace Session

variable {session after : Session} {spec : Spec} {specs : List Spec} {files : List RenderedFile}
  {disk : Disk}

theorem outcome_generate (session : Session) (spec : Spec) :
    ∃ events, session.outcome (generate spec) =
      match session.rendering spec with
      | .error failure => (.error failure, session)
      | .ok file =>
          match session.disk.replace session.directory file.path file.bytes with
          | .error failure => (.error failure, session)
          | .ok disk => (.ok file.generated, { session with disk, events }) := by
  unfold generate
  rw [outcome_bind _ (outcome_renderFile session spec)]
  cases session.rendering spec with
  | error failure => exact ⟨session.events, rfl⟩
  | ok file =>
      dsimp only
      cases replaced : session.disk.replace session.directory file.path file.bytes with
      | error failure => exact ⟨session.events, outcome_writeRendered_error replaced⟩
      | ok disk => exact outcome_writeRendered_ok replaced

/-- How a generation of many files ends. -/
inductive GeneratesAll (session : Session) (specs : List Spec) :
    Except Failure GenerationReport → Session → Prop where
  | unrendered {failure : Failure} {events : List Event}
      (rendered : specs.mapM session.rendering = .error failure) :
      GeneratesAll session specs (.error failure) { session with events }
  | finished {files : List RenderedFile} {disk : Disk} {events : List Event}
      (rendered : specs.mapM session.rendering = .ok files)
      (replaced : session.disk.replaceAll session.directory files = .ok disk) :
      GeneratesAll session specs (.ok ⟨files.map RenderedFile.generated, files.length⟩)
        { session with disk, events }
  | stopped {files done : List RenderedFile} {failure : Failure} {middle : Disk}
      {events : List Event} (rendered : specs.mapM session.rendering = .ok files)
      (stops : session.disk.StopsAfter session.directory files done failure middle) :
      GeneratesAll session specs (.error failure) { session with disk := middle, events }

theorem generatesAll (session : Session) (specs : List Spec) :
    session.GeneratesAll specs (session.outcome (generateAll specs)).1
      (session.outcome (generateAll specs)).2 := by
  obtain ⟨started, starts⟩ := outcome_inform session "Starting enum generation"
  have all := outcome_renderAll { session with events := started } specs
  have same : Session.rendering { session with events := started } = session.rendering := rfl
  unfold generateAll
  rw [outcome_bind _ starts]
  dsimp only
  rw [outcome_bind _ all, same]
  cases rendered : specs.mapM session.rendering with
  | error failure => exact .unrendered rendered
  | ok files =>
      dsimp only
      rcases outcome_writeAll { session with events := started } files with
        ⟨disk, logged, replaced, written⟩ | ⟨done, failure, middle, logged, stops, failed⟩
      · rw [outcome_bind _ written]
        exact .finished rendered replaced
      · rw [outcome_bind _ failed]
        exact .stopped rendered stops

theorem outcome_generateAll_ok (rendered : specs.mapM session.rendering = .ok files)
    (replaced : session.disk.replaceAll session.directory files = .ok disk) :
    ∃ events, session.outcome (generateAll specs) =
      (.ok ⟨files.map RenderedFile.generated, files.length⟩, { session with disk, events }) := by
  have ends := session.generatesAll specs
  generalize session.outcome (generateAll specs) = outcome at ends
  obtain ⟨result, after⟩ := outcome
  cases ends with
  | unrendered fails =>
      rw [rendered] at fails
      contradiction
  | finished rendered' replaced' =>
      obtain rfl := Except.ok.inj (rendered.symm.trans rendered')
      obtain rfl := Except.ok.inj (replaced.symm.trans replaced')
      exact ⟨_, rfl⟩
  | stopped rendered' stops =>
      obtain rfl := Except.ok.inj (rendered.symm.trans rendered')
      rw [stops.replaceAll_eq] at replaced
      contradiction

theorem generateAll_eq_error {failure : Failure}
    (rendered : specs.mapM session.rendering = .ok files)
    (fails : session.disk.replaceAll session.directory files = .error failure) :
    (session.outcome (generateAll specs)).1 = .error failure := by
  have ends := session.generatesAll specs
  generalize session.outcome (generateAll specs) = outcome at ends
  obtain ⟨result, after⟩ := outcome
  cases ends with
  | unrendered unrendered =>
      rw [rendered] at unrendered
      contradiction
  | finished rendered' replaced =>
      obtain rfl := Except.ok.inj (rendered.symm.trans rendered')
      rw [fails] at replaced
      contradiction
  | stopped rendered' stops =>
      obtain rfl := Except.ok.inj (rendered.symm.trans rendered')
      rw [stops.replaceAll_eq] at fails
      exact congrArg Except.error (Except.error.inj fails)

theorem generateAll_eq_ok {report : GenerationReport}
    (generated : session.outcome (generateAll specs) = (.ok report, after)) :
    ∃ files disk events, specs.mapM session.rendering = .ok files ∧
      session.disk.replaceAll session.directory files = .ok disk ∧
        report = ⟨files.map RenderedFile.generated, files.length⟩ ∧
          after = { session with disk, events } := by
  have ends := session.generatesAll specs
  rw [generated] at ends
  cases ends with
  | finished rendered replaced => exact ⟨_, _, _, rendered, replaced, rfl, rfl⟩

theorem outcome_checkRendered_settled (session : Session)
    (settled : ∀ file ∈ files, session.disk.Settled session.directory file) :
    session.outcome (checkRendered files) =
      (.ok (files.map fun file => ⟨file.path, file.typeName, .upToDate⟩), session) := by
  induction files with
  | nil => rfl
  | cons file rest ih =>
      rw [List.forall_mem_cons] at settled
      have checked := outcome_checkFile session file.path file.bytes
      rw [status_eq_upToDate_iff.mpr settled.1.read_eq] at checked
      exact (outcome_bind_ok checked _).trans (outcome_bind_ok (ih settled.2) _)

/-! A session renders as before if only places away from the licenses have changed. -/

variable {places : Place → Prop}

theorem license_of_frame {path : Option Path} {text : Option String}
    (frame : session.disk.Frame after.disk places) (same : after.directory = session.directory)
    (apart : ∀ file ∈ path, ∀ place,
      session.disk.resolve session.directory file = .ok place → ¬ places place)
    (loaded : session.license path = .ok text) : after.license path = .ok text := by
  unfold license at loaded ⊢
  cases named : path.filter fun path => !path.isEmpty with
  | none =>
      rw [named] at loaded
      exact loaded
  | some file =>
      rw [named] at loaded
      dsimp only at loaded ⊢
      have given := (Option.filter_eq_some_iff.mp named).1
      unfold readText at loaded ⊢
      cases reads : session.disk.read session.directory file with
      | error error => simp [reads] at loaded
      | ok bytes =>
          rw [reads] at loaded
          rw [same, frame.read_ok (apart file given) reads]
          exact loaded

theorem rendering_of_frame {file : RenderedFile}
    (frame : session.disk.Frame after.disk places) (same : after.directory = session.directory)
    (apart : ∀ license ∈ spec.licenseFile, ∀ place,
      session.disk.resolve session.directory license = .ok place → ¬ places place)
    (rendered : session.rendering spec = .ok file) : after.rendering spec = .ok file := by
  obtain ⟨accepted, text, loaded, rfl⟩ := rendering_eq_ok_iff.mp rendered
  exact rendering_eq_ok_iff.mpr ⟨accepted, text, license_of_frame frame same apart loaded, rfl⟩

theorem map_path_of_rendered (rendered : specs.mapM session.rendering = .ok files) :
    files.map RenderedFile.path = specs.map Spec.destination :=
  map_of_rendered (mapM_eq_ok_iff.mp rendered) fun _ _ => rfl

theorem map_checked_of_rendered (rendered : specs.mapM session.rendering = .ok files) :
    files.map (fun file => CheckedFile.mk file.path file.typeName .upToDate) =
      specs.map fun spec => ⟨spec.destination, spec.typeName, .upToDate⟩ :=
  map_of_rendered (mapM_eq_ok_iff.mp rendered) fun _ _ => rfl

/-- Destinations that are no two of them one file, and none of them a license, hold after a
generation what a check and a second generation would find there. -/
theorem generateAll_again {report : GenerationReport}
    (apart : specs.Pairwise fun first second =>
      ¬ session.disk.Meet session.directory first.destination second.destination)
    (kept : ∀ spec ∈ specs, ∀ other ∈ specs, ∀ license ∈ other.licenseFile,
      ¬ session.disk.Overwrites session.directory spec.destination license)
    (generated : session.outcome (generateAll specs) = (.ok report, after)) :
    after.outcome (checkAll specs) =
        (.ok (specs.map fun spec => ⟨spec.destination, spec.typeName, .upToDate⟩), after) ∧
      ∃ events, after.outcome (generateAll specs) = (.ok report, { after with events }) := by
  obtain ⟨files, disk, events, rendered, replaced, rfl, rfl⟩ := generateAll_eq_ok generated
  have paths := map_path_of_rendered rendered
  have settled : ∀ file ∈ files, disk.Settled session.directory file := by
    apply Disk.settled_of_replaceAll replaced
    rw [← List.pairwise_map (f := RenderedFile.path)
      (R := fun first second => ¬ session.disk.Meet session.directory first second), paths]
    exact List.pairwise_map.mpr apart
  have frame := Disk.frame_of_replaceAll replaced
  have again : specs.mapM (Session.rendering { session with disk, events }) = .ok files := by
    have each := (List.forall₂_and_left specs files).mpr
      ⟨fun _ member => member, mapM_eq_ok_iff.mp rendered⟩
    refine mapM_eq_ok_iff.mpr (each.imp ?_)
    rintro spec file ⟨member, renders⟩
    refine rendering_of_frame frame rfl ?_ renders
    rintro license named place resolves ⟨written, found, leads⟩
    obtain ⟨owner, owned, destination⟩ := List.mem_map.mp (paths ▸ List.mem_map_of_mem found)
    exact kept owner owned spec member license named ⟨place, destination ▸ leads, resolves⟩
  constructor
  · have all := outcome_renderAll { session with disk, events } specs
    rw [again] at all
    have checked := outcome_checkRendered_settled { session with disk, events } settled
    rw [map_checked_of_rendered rendered] at checked
    exact (outcome_bind_ok all _).trans checked
  · exact outcome_generateAll_ok again (Disk.replaceAll_of_settled settled)

end Session

def licensedSpec : Spec :=
  { bareSpec with licenseFile := some ⟨"LICENSE"⟩ }

def shapeSpec : Spec :=
  { licensedSpec with destination := ⟨"./shape.go"⟩, typeName := "Shape" }

def licensedSession : Session where
  disk := ⟨[(["LICENSE"], .file "MIT".toUTF8)]⟩
  directory := []
  environment := ⟨[]⟩

theorem license_licensedSession :
    licensedSession.license (some ⟨"LICENSE"⟩) = .ok (some "MIT") := by
  have holds : licensedSession.disk.read licensedSession.directory ⟨"LICENSE"⟩ =
      .ok "MIT".toUTF8 := rfl
  rw [Session.license_some licensedSession rfl, Session.readText, holds]
  dsimp only
  rw [fromUTF8?_toUTF8]

def licensedFile (spec : Spec) : RenderedFile :=
  .ofModel spec.destination (.ofSpec spec (some "MIT"))

theorem rendering_licensedSession {spec : Spec} (accepted : spec.validate = .ok ())
    (named : spec.licenseFile = some ⟨"LICENSE"⟩) :
    licensedSession.rendering spec = .ok (licensedFile spec) :=
  Session.rendering_eq_ok_iff.mpr
    ⟨accepted, some "MIT", named ▸ license_licensedSession, rfl⟩

theorem not_overwrites_license {destination : Path}
    (elsewhere : licensedSession.disk.goal? [] destination ≠ some ["LICENSE"]) :
    ¬ licensedSession.disk.Overwrites [] destination ⟨"LICENSE"⟩ := by
  rintro ⟨place, leads, resolves⟩
  have license : licensedSession.disk.resolve [] ⟨"LICENSE"⟩ = .ok ["LICENSE"] := rfl
  rw [license] at resolves
  exact elsewhere (leads.trans (congrArg some (Except.ok.inj resolves).symm))

/-- Two types with one license, the second named by way of the working directory. -/
theorem generateAll_again_licensed :
    ([licensedSpec, shapeSpec].Pairwise fun first second =>
        ¬ licensedSession.disk.Meet [] first.destination second.destination) ∧
      (∀ spec ∈ [licensedSpec, shapeSpec], ∀ other ∈ [licensedSpec, shapeSpec],
        ∀ license ∈ other.licenseFile,
          ¬ licensedSession.disk.Overwrites [] spec.destination license) ∧
      ∃ report after,
        licensedSession.outcome (generateAll [licensedSpec, shapeSpec]) = (.ok report, after) ∧
          after.outcome (checkAll [licensedSpec, shapeSpec]) =
            (.ok [⟨⟨"color.go"⟩, "Color", .upToDate⟩, ⟨⟨"./shape.go"⟩, "Shape", .upToDate⟩],
              after) ∧
          ∃ events, after.outcome (generateAll [licensedSpec, shapeSpec]) =
            (.ok report, { after with events }) := by
  have apart : [licensedSpec, shapeSpec].Pairwise fun first second =>
      ¬ licensedSession.disk.Meet [] first.destination second.destination := by
    refine List.pairwise_pair.mpr ?_
    rintro ⟨place, color, shape⟩
    have color' : licensedSession.disk.goal? [] licensedSpec.destination = some ["color.go"] := rfl
    have shape' : licensedSession.disk.goal? [] shapeSpec.destination = some ["shape.go"] := rfl
    rw [color'] at color
    rw [shape'] at shape
    exact absurd (color.trans shape.symm) (by decide)
  have kept : ∀ spec ∈ [licensedSpec, shapeSpec], ∀ other ∈ [licensedSpec, shapeSpec],
      ∀ license ∈ other.licenseFile,
        ¬ licensedSession.disk.Overwrites [] spec.destination license := by
    intro spec member other listed license named
    obtain rfl : license = ⟨"LICENSE"⟩ := by
      rcases List.mem_pair.mp listed with rfl | rfl <;> exact (Option.some.inj named).symm
    refine not_overwrites_license ?_
    rcases List.mem_pair.mp member with rfl | rfl <;> decide
  have rendered : [licensedSpec, shapeSpec].mapM licensedSession.rendering =
      .ok [licensedFile licensedSpec, licensedFile shapeSpec] :=
    mapM_eq_ok_iff.mpr (.cons (rendering_licensedSession rfl rfl)
      (.cons (rendering_licensedSession rfl rfl) .nil))
  obtain ⟨disk, replaced⟩ : ∃ disk, licensedSession.disk.replaceAll []
      [licensedFile licensedSpec, licensedFile shapeSpec] = .ok disk := ⟨_, rfl⟩
  obtain ⟨events, generated⟩ := Session.outcome_generateAll_ok rendered replaced
  obtain ⟨checked, again⟩ := Session.generateAll_again apart kept generated
  exact ⟨apart, kept, _, _, generated, checked, again⟩

end SealedEnum
