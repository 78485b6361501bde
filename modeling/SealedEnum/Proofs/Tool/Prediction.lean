import SealedEnum.Proofs.Generation.Selection
import SealedEnum.Proofs.Host.Readable
import SealedEnum.Proofs.Tool.Commands

namespace SealedEnum

/-! A check tells what a generation would do: nothing, where every file is up to date. -/

namespace Disk

variable {disk last : Disk} {directory : Place} {files : List RenderedFile}

theorem frame_of_replaceAll_read
    (reads : ∀ file ∈ files, disk.read directory file.path = .ok file.bytes)
    (replaced : disk.replaceAll directory files = .ok last) :
    disk.Frame last fun _ => False := by
  induction files generalizing disk with
  | nil =>
      obtain rfl := replaceAll_nil.mp replaced
      exact .refl disk _
  | cons file rest ih =>
      rw [List.forall_mem_cons] at reads
      obtain ⟨changed, first, others⟩ := replaceAll_cons_eq_ok_iff.mp replaced
      have same := frame_of_replace_read reads.1 first
      have later : changed.Frame last fun _ => False :=
        ih (fun other member => same.read_ok (fun _ _ => id) (reads.2 other member)) others
      exact (same.trans later).mono fun _ inside => inside.elim id id

theorem exists_replaceAll
    (replaceable : ∀ file ∈ files, ∃ parent name, disk.Replaceable directory file.path parent name) :
    ∃ last, disk.replaceAll directory files = .ok last := by
  induction files generalizing disk with
  | nil => exact ⟨disk, rfl⟩
  | cons file rest ih =>
      rw [List.forall_mem_cons] at replaceable
      obtain ⟨⟨parent, name, first⟩, others⟩ := replaceable
      have remaining : ∀ other ∈ rest, ∃ into called,
          (disk.put (parent ++ [name]) (.file file.bytes)).Replaceable directory other.path into
            called := by
        intro other member
        obtain ⟨into, called, next⟩ := others other member
        exact ⟨into, called, first.sameDirectories.replaceable next⟩
      obtain ⟨last, later⟩ := ih remaining
      exact ⟨last, replaceAll_cons_eq_ok_iff.mpr
        ⟨_, replace_eq_ok_iff.mpr ⟨parent, name, first, rfl⟩, later⟩⟩

/-- Where some files are written one after the other, each of them could have been the first. -/
theorem replaceable_of_replaceAll (replaced : disk.replaceAll directory files = .ok last) :
    ∀ file ∈ files, ∃ parent name, disk.Replaceable directory file.path parent name := by
  induction files generalizing disk with
  | nil => exact fun _ => nofun
  | cons file rest ih =>
      obtain ⟨changed, first, others⟩ := replaceAll_cons_eq_ok_iff.mp replaced
      obtain ⟨parent, name, replaceable, rfl⟩ := replace_eq_ok_iff.mp first
      refine List.forall_mem_cons.mpr ⟨⟨parent, name, replaceable⟩, fun other member => ?_⟩
      obtain ⟨into, called, later⟩ := ih others other member
      exact ⟨into, called, replaceable.sameDirectories.symm.replaceable later⟩

end Disk

namespace Session

variable {session : Session} {specs : List Spec} {spec : Spec}

/-- A specification renders, and its destination holds what it renders to. -/
def Fresh (session : Session) (spec : Spec) : Prop :=
  ∃ file, (session.outcome (renderFile spec)).1 = .ok file ∧
    session.disk.read session.directory spec.destination = .ok file.bytes

theorem fresh_iff : session.Fresh spec ↔
    ∃ file, session.rendering spec = .ok file ∧
      session.disk.read session.directory file.path = .ok file.bytes := by
  unfold Fresh
  rw [outcome_renderFile]
  refine exists_congr fun file => and_congr_right fun rendered => ?_
  rw [path_of_rendering rendered]

/-- What a check finds for a specification. -/
structure Finds (session : Session) (spec : Spec) (checked : CheckedFile) : Prop where
  path : checked.path = spec.destination
  upToDate_iff : checked.status = .upToDate ↔ session.Fresh spec

theorem finds_of_checkedFile {file : RenderedFile} {checked : CheckedFile}
    (rendered : session.rendering spec = .ok file)
    (checks : session.checkedFile file = .ok checked) : session.Finds spec checked := by
  unfold checkedFile at checks
  cases found : session.status file.path file.bytes with
  | error failure => simp [found, Except.map] at checks
  | ok status =>
      rw [found] at checks
      obtain rfl := Except.ok.inj checks
      refine ⟨path_of_rendering rendered, ?_⟩
      have upToDate : status = .upToDate ↔
          session.disk.read session.directory file.path = .ok file.bytes := by
        rw [← status_eq_upToDate_iff, found, Except.ok.injEq]
      rw [fresh_iff, rendered]
      simpa using upToDate

theorem finds_of_checked {checked : List CheckedFile}
    (checks : session.checked specs = .ok checked) :
    List.Forall₂ session.Finds specs checked := by
  unfold Session.checked at checks
  cases rendered : specs.mapM session.rendering with
  | error failure => simp [rendered, Except.bind] at checks
  | ok files =>
      rw [rendered] at checks
      have renders := mapM_eq_ok_iff.mp rendered
      have each := mapM_eq_ok_iff.mp checks
      clear rendered checks
      induction renders generalizing checked with
      | nil =>
          cases each
          exact .nil
      | cons first _ ih =>
          cases each with
          | cons here later => exact .cons (finds_of_checkedFile first here) (ih later)

theorem mem_rendered_iff {files : List RenderedFile} {file : RenderedFile}
    (rendered : specs.mapM session.rendering = .ok files) :
    file ∈ files ↔ ∃ spec ∈ specs, session.rendering spec = .ok file := by
  have each := mapM_eq_ok_iff.mp rendered
  clear rendered
  induction each with
  | nil => simp
  | cons first _ ih =>
      rw [List.mem_cons, List.exists_mem_cons_iff, first, Except.ok.injEq]
      exact or_congr eq_comm ih

/-- A destination that can be read, or where nothing is. -/
def Comparable (session : Session) (path : Path) : Prop :=
  (∃ content, session.disk.read session.directory path = .ok content) ∨
    session.disk.read session.directory path = .error .notFound

theorem exists_checkedFile {file : RenderedFile} (comparable : session.Comparable file.path) :
    ∃ checked, session.checkedFile file = .ok checked := by
  unfold checkedFile status
  rcases comparable with ⟨content, reads⟩ | missing
  · rw [reads]
    exact ⟨_, rfl⟩
  · rw [missing]
    exact ⟨_, rfl⟩

theorem exists_checked
    (renders : ∀ spec ∈ specs, ∃ file, (session.outcome (renderFile spec)).1 = .ok file)
    (comparable : ∀ spec ∈ specs, session.Comparable spec.destination) :
    ∃ checked, session.checked specs = .ok checked := by
  simp only [outcome_renderFile] at renders
  obtain ⟨files, rendered⟩ := exists_mapM_eq_ok_iff.mpr renders
  unfold Session.checked
  rw [rendered]
  apply exists_mapM_eq_ok_iff.mpr
  intro file member
  obtain ⟨spec, listed, renders⟩ := (mem_rendered_iff rendered).mp member
  apply exists_checkedFile
  rw [path_of_rendering renders]
  exact comparable spec listed

theorem freshness_cons (file : CheckedFile) (rest : List CheckedFile) :
    freshness (file :: rest) =
      if file.status = .upToDate then freshness rest else .error (.outOfDate file.path) := by
  unfold freshness
  by_cases upToDate : file.status = .upToDate
  · rw [List.find?_cons_of_neg (by simpa using upToDate), if_pos upToDate]
  · rw [List.find?_cons_of_pos (by simpa using upToDate), if_neg upToDate]

theorem freshness_eq_ok_iff {checked : List CheckedFile}
    (finds : List.Forall₂ session.Finds specs checked) :
    freshness checked = .ok () ↔ ∀ spec ∈ specs, session.Fresh spec := by
  induction finds with
  | nil => simp [freshness]
  | @cons spec file _ _ first _ ih =>
      rw [freshness_cons, List.forall_mem_cons, ← first.upToDate_iff, ← ih]
      by_cases upToDate : file.status = .upToDate <;> simp [upToDate]

theorem freshness_eq_outOfDate {before later : List Spec} {checked : List CheckedFile}
    (finds : List.Forall₂ session.Finds (before ++ spec :: later) checked)
    (fresh : ∀ earlier ∈ before, session.Fresh earlier) (stale : ¬ session.Fresh spec) :
    freshness checked = .error (.outOfDate spec.destination) := by
  induction before generalizing checked with
  | nil =>
      cases finds with
      | cons first _ =>
          rw [freshness_cons, if_neg (first.upToDate_iff.not.mpr stale), first.path]
  | cons earlier rest ih =>
      rw [List.forall_mem_cons] at fresh
      cases finds with
      | cons first others =>
          rw [freshness_cons, if_pos (first.upToDate_iff.mpr fresh.1)]
          exact ih others fresh.2

theorem comparable_of_fresh (fresh : session.Fresh spec) : session.Comparable spec.destination := by
  obtain ⟨file, -, reads⟩ := fresh
  exact .inl ⟨file.bytes, reads⟩

theorem checked_eq_ok_iff :
    (session.checked specs).bind freshness = .ok () ↔ ∀ spec ∈ specs, session.Fresh spec := by
  constructor
  · intro succeeds
    cases checks : session.checked specs with
    | error failure => simp [checks, Except.bind] at succeeds
    | ok checked =>
        rw [checks] at succeeds
        exact (freshness_eq_ok_iff (finds_of_checked checks)).mp succeeds
  · intro fresh
    obtain ⟨checked, checks⟩ : ∃ checked, session.checked specs = .ok checked :=
      exists_checked (fun spec member => (fresh spec member).imp fun _ => And.left)
        fun spec member => comparable_of_fresh (fresh spec member)
    rw [checks]
    exact (freshness_eq_ok_iff (finds_of_checked checks)).mpr fresh

theorem read_of_fresh {files : List RenderedFile}
    (rendered : specs.mapM session.rendering = .ok files)
    (fresh : ∀ spec ∈ specs, session.Fresh spec) :
    ∀ file ∈ files, session.disk.read session.directory file.path = .ok file.bytes := by
  intro file member
  obtain ⟨spec, listed, renders⟩ := (mem_rendered_iff rendered).mp member
  obtain ⟨other, rendersToo, reads⟩ := fresh_iff.mp (fresh spec listed)
  obtain rfl := Except.ok.inj (renders.symm.trans rendersToo)
  exact reads

/-- Generating what is there already changes nothing, even where it stops before its end. -/
theorem generateAll_frame (fresh : ∀ spec ∈ specs, session.Fresh spec) :
    session.disk.Frame (session.outcome (generateAll specs)).2.disk fun _ => False := by
  have ends := session.generatesAll specs
  generalize session.outcome (generateAll specs) = outcome at ends
  obtain ⟨result, after⟩ := outcome
  cases ends with
  | unrendered => exact .refl _ _
  | finished rendered replaced =>
      exact Disk.frame_of_replaceAll_read (read_of_fresh rendered fresh) replaced
  | stopped rendered stops =>
      obtain ⟨file, later, rfl, -⟩ := stops.fails
      refine Disk.frame_of_replaceAll_read (fun other member => ?_) stops.written
      exact read_of_fresh rendered fresh other (List.mem_append_left _ member)

/-- What is there already can be generated where temporary files can be made beside it. -/
theorem generateAll_succeeds_iff (fresh : ∀ spec ∈ specs, session.Fresh spec)
    (tree : session.disk.IsTree) :
    (∃ report, (session.outcome (generateAll specs)).1 = .ok report) ↔
      ∀ spec ∈ specs, session.disk.TakesTemporary session.directory spec.destination := by
  constructor
  · rintro ⟨report, generated⟩ spec member
    obtain ⟨files, disk, events, rendered, replaced, -, -⟩ :=
      generateAll_eq_ok (Prod.ext generated rfl)
    obtain ⟨file, renders, -⟩ := fresh_iff.mp (fresh spec member)
    obtain ⟨parent, name, replaceable⟩ := Disk.replaceable_of_replaceAll replaced file
      ((mem_rendered_iff rendered).mpr ⟨spec, member, renders⟩)
    rw [← path_of_rendering renders]
    exact replaceable.takesTemporary
  · intro room
    obtain ⟨files, rendered⟩ : ∃ files, specs.mapM session.rendering = .ok files := by
      apply exists_mapM_eq_ok_iff.mpr
      intro spec member
      exact (fresh_iff.mp (fresh spec member)).imp fun _ => And.left
    obtain ⟨disk, replaced⟩ :
        ∃ disk, session.disk.replaceAll session.directory files = .ok disk := by
      apply Disk.exists_replaceAll
      intro file member
      obtain ⟨spec, listed, renders⟩ := (mem_rendered_iff rendered).mp member
      refine Disk.replaceable_of_read tree ?_ (read_of_fresh rendered fresh file member)
      rw [path_of_rendering renders]
      exact room spec listed
    obtain ⟨events, generates⟩ := outcome_generateAll_ok rendered replaced
    exact ⟨_, congrArg Prod.fst generates⟩

/-- What a check of some specifications says of generating them. -/
structure CheckPredicts (session : Session) (config : Option Path) (names : List String)
    (specs : List Spec) : Prop where
  succeeds_iff :
    (session.outcome (runGenerate config { selected := names, check := true })).1 = .ok () ↔
      ∀ spec ∈ specs, session.Fresh spec
  outOfDate : ∀ before spec later, specs = before ++ spec :: later →
    (∀ other ∈ specs, ∃ file, (session.outcome (renderFile other)).1 = .ok file) →
    (∀ other ∈ specs, session.Comparable other.destination) →
    (∀ earlier ∈ before, session.Fresh earlier) → ¬ session.Fresh spec →
      (session.outcome (runGenerate config { selected := names, check := true })).1 =
        .error (.outOfDate spec.destination)
  unchanged :
    (session.outcome (runGenerate config { selected := names, check := true })).1 = .ok () →
      ∀ place, (session.outcome (runGenerate config { selected := names })).2.disk.lookup place =
        session.disk.lookup place
  generates_iff : session.disk.IsTree →
    (session.outcome (runGenerate config { selected := names, check := true })).1 = .ok () →
      ((session.outcome (runGenerate config { selected := names })).1 = .ok () ↔
        ∀ spec ∈ specs, session.disk.TakesTemporary session.directory spec.destination)

variable {config : Option Path} {names : List String}

theorem outcome_runGenerate_check (chosen : session.selected config names = .ok specs) :
    (session.outcome (runGenerate config { selected := names, check := true })).1 =
      (session.checked specs).bind freshness := by
  have wet : (GenerateOptions.mk names true false).dryRun = false := rfl
  obtain ⟨events, generates⟩ :=
    outcome_runGenerate session config { selected := names, check := true }
  obtain ⟨logged, checks⟩ :=
    outcome_runSelected_check { session.afterLoading config with events } specs wet rfl
  rw [generates, chosen]
  dsimp only
  rw [checks]
  rfl

theorem outcome_runGenerate_write (chosen : session.selected config names = .ok specs) :
    ∃ environment events,
      (session.outcome (runGenerate config { selected := names })).1 =
          (Session.outcome { session with environment, events } (generateAll specs)).1.map
            (fun _ => ()) ∧
        (session.outcome (runGenerate config { selected := names })).2.disk =
          (Session.outcome { session with environment, events } (generateAll specs)).2.disk := by
  have wet : (GenerateOptions.mk names false false).dryRun = false := rfl
  obtain ⟨events, generates⟩ := outcome_runGenerate session config { selected := names }
  obtain ⟨logged, writes⟩ :=
    outcome_runSelected_write { session.afterLoading config with events } specs wet rfl
  refine ⟨(session.afterLoading config).environment, events, ?_⟩
  rw [generates, chosen]
  dsimp only
  rw [writes]
  exact ⟨rfl, rfl⟩

theorem checkPredicts_of_selected (chosen : session.selected config names = .ok specs) :
    session.CheckPredicts config names specs := by
  have checks := outcome_runGenerate_check chosen
  obtain ⟨environment, events, results, leaves⟩ := outcome_runGenerate_write chosen
  have succeeds_iff :
      (session.outcome (runGenerate config { selected := names, check := true })).1 = .ok () ↔
        ∀ spec ∈ specs, session.Fresh spec := by
    rw [checks, checked_eq_ok_iff]
  have freshThere :
      (session.outcome (runGenerate config { selected := names, check := true })).1 = .ok () →
        ∀ spec ∈ specs, Session.Fresh { session with environment, events } spec := by
    -- Loading sets variables and writes to the log, which no rendering reads.
    intro succeeds spec member
    have fresh := fresh_iff.mp (succeeds_iff.mp succeeds spec member)
    exact fresh_iff.mpr fresh
  refine ⟨succeeds_iff, ?_, ?_, ?_⟩
  · rintro before spec later rfl renders comparable fresh stale
    obtain ⟨checked, finds⟩ := exists_checked renders comparable
    rw [checks, finds]
    exact freshness_eq_outOfDate (finds_of_checked finds) fresh stale
  · intro succeeds place
    rw [leaves]
    exact (generateAll_frame (freshThere succeeds)).elsewhere place id
  · intro tree succeeds
    have generates := generateAll_succeeds_iff (freshThere succeeds) tree
    rw [results, ← generates]
    cases (Session.outcome { session with environment, events } (generateAll specs)).1 <;>
      simp [Except.map]

/-- A check tells what a generation would do. It succeeds exactly where all files are up to date,
and fails with the first that is not. Where it succeeds, a generation leaves everything as it is,
and succeeds as well exactly where temporary files can be made beside the files. -/
theorem checkPredicts {loaded : LoadedConfig}
    (loads : (session.outcome (loadConfig config)).1 = .ok loaded)
    (resolves : loaded.specs = .ok specs)
    (known : ∀ name ∈ names, name ∈ specs.map Spec.typeName) :
    session.CheckPredicts config names
      (specs.filter fun spec => names.isEmpty || names.contains spec.typeName) := by
  apply checkPredicts_of_selected
  rw [selected, configured_eq_ok_iff.mpr ⟨loaded, loads, resolves⟩]
  exact selectOnly_eq_ok fun name member => List.mem_map.mp (known name member)

end Session

/-! Files that are up to date, as a configuration asks for them. -/

def freshSpec (destination : Path) : Spec :=
  { bareSpec with destination }

def freshContent : ByteArray :=
  (Model.ofSpec bareSpec none).render.toUTF8

/-- A configuration file and the file it asks for, which is up to date. -/
def freshSession : Session where
  disk := ⟨[(["enumerator.toml"], .file colorText.toUTF8), (["color.go"], .file freshContent)]⟩
  directory := []
  environment := ⟨[]⟩

def freshConfig : LoadedConfig where
  path := ⟨"enumerator.toml"⟩
  config := colorConfig

namespace Session

variable {session : Session} {destination : Path}

theorem rendering_freshSpec (accepted : (freshSpec destination).validate = .ok ()) :
    session.rendering (freshSpec destination) =
      .ok (.ofModel destination (.ofSpec bareSpec none)) :=
  rendering_eq_ok_iff.mpr ⟨accepted, none, rfl, rfl⟩

theorem fresh_freshSpec (accepted : (freshSpec destination).validate = .ok ())
    (reads : session.disk.read session.directory destination = .ok freshContent) :
    session.Fresh (freshSpec destination) :=
  fresh_iff.mpr ⟨_, rendering_freshSpec accepted, reads⟩

end Session

theorem isTree_freshSession : freshSession.disk.IsTree := by
  unfold Disk.IsTree freshSession
  decide

theorem checkPredicts_freshSession :
    (freshSession.outcome (loadConfig (some ⟨"enumerator.toml"⟩))).1 = .ok freshConfig ∧
      freshConfig.specs = .ok [freshSpec ⟨"./color.go"⟩] ∧
      (freshSession.outcome (runGenerate (some ⟨"enumerator.toml"⟩)
        { selected := ["Color"], check := true })).1 = .ok () ∧
      (freshSession.outcome (runGenerate (some ⟨"enumerator.toml"⟩)
        { selected := ["Color"] })).1 = .ok () ∧
      ∀ place, (freshSession.outcome (runGenerate (some ⟨"enumerator.toml"⟩)
        { selected := ["Color"] })).2.disk.lookup place = freshSession.disk.lookup place := by
  have loads : (freshSession.outcome (loadConfig (some ⟨"enumerator.toml"⟩))).1 =
      .ok freshConfig := loadConfig_colorText rfl
  have resolves : freshConfig.specs = .ok [freshSpec ⟨"./color.go"⟩] := by decide
  have known : ∀ name ∈ ["Color"], name ∈ [freshSpec ⟨"./color.go"⟩].map Spec.typeName := by
    decide
  have predicts := Session.checkPredicts loads resolves known
  have chosen : ([freshSpec ⟨"./color.go"⟩].filter fun spec =>
      ["Color"].isEmpty || ["Color"].contains spec.typeName) = [freshSpec ⟨"./color.go"⟩] := by
    decide
  rw [chosen] at predicts
  have reads : freshSession.disk.read freshSession.directory ⟨"./color.go"⟩ =
      .ok freshContent := rfl
  have fresh : freshSession.Fresh (freshSpec ⟨"./color.go"⟩) := Session.fresh_freshSpec rfl reads
  have succeeds := predicts.succeeds_iff.mpr (List.forall_mem_singleton.mpr fresh)
  have room : freshSession.disk.TakesTemporary freshSession.directory ⟨"./color.go"⟩ := by
    obtain ⟨parent, name, writable⟩ := Disk.writable_of_read isTree_freshSession reads
    exact writable.takesTemporary rfl (by decide)
  exact ⟨loads, resolves, succeeds,
    (predicts.generates_iff isTree_freshSession succeeds).mpr (List.forall_mem_singleton.mpr room),
    predicts.unchanged succeeds⟩

namespace Session

variable {session : Session} {destination : Path}

/-- A file that is up to date cannot be generated where its directory takes no temporary file. -/
theorem generate_fails_of_fresh {path above : Path} {parent : Place} {error : IoError}
    (configured : session.disk.read session.directory path = .ok colorText.toUTF8)
    (resolves : LoadedConfig.specs ⟨path, colorConfig⟩ = .ok [freshSpec destination])
    (accepted : (freshSpec destination).validate = .ok ())
    (reads : session.disk.read session.directory destination = .ok freshContent)
    (lies : destination.directory? = some above)
    (found : session.disk.directoryAt session.directory above = .ok parent)
    (refused : Disk.temporaryError? session.directory above = some error) :
    (session.outcome (runGenerate (some path) { check := true })).1 = .ok () ∧
      (session.outcome (runGenerate (some path) {})).1 = .error (.write destination error) := by
  have asked := configured_eq_ok_iff.mpr ⟨_, loadConfig_colorText configured, resolves⟩
  have chosen : session.selected (some path) [] = .ok [freshSpec destination] := by
    rw [selected, asked]
    rfl
  have fresh := fresh_freshSpec accepted reads
  refine ⟨(checkPredicts_of_selected chosen).succeeds_iff.mpr
    (List.forall_mem_singleton.mpr fresh), ?_⟩
  obtain ⟨environment, events, results, -⟩ := outcome_runGenerate_write chosen
  have rendered : [freshSpec destination].mapM
      (Session.rendering { session with environment, events }) =
        .ok [.ofModel destination (.ofSpec bareSpec none)] := by
    rw [List.mapM_cons, rendering_freshSpec accepted]
    rfl
  have fails : session.disk.replaceAll session.directory
      [.ofModel destination (.ofSpec bareSpec none)] = .error (.write destination error) := by
    rw [Disk.replaceAll, List.foldlM_cons]
    change (session.disk.replace session.directory destination _ >>= _) = _
    rw [Disk.replace_eq_error lies found refused]
    rfl
  rw [results, generateAll_eq_error rendered fails]
  rfl

end Session

/-- The working directory was removed, and the files beside it are up to date. -/
def removedSession : Session where
  disk := ⟨[([""], .directory), (["enumerator.toml"], .file colorText.toUTF8),
    (["color.go"], .file freshContent)]⟩
  directory := [""]
  environment := ⟨[]⟩

/-- A check that succeeds need not be followed by a generation that does: a temporary file is made
under an absolute path, and a directory that was removed has none. -/
theorem generate_removedSession :
    (removedSession.outcome (runGenerate (some ⟨"../enumerator.toml"⟩) { check := true })).1 =
        .ok () ∧
      (removedSession.outcome (runGenerate (some ⟨"../enumerator.toml"⟩) {})).1 =
        .error (.write ⟨"../color.go"⟩ .notFound) := by
  have resolves : LoadedConfig.specs ⟨⟨"../enumerator.toml"⟩, colorConfig⟩ =
      .ok [freshSpec ⟨"../color.go"⟩] := by decide
  have found : removedSession.disk.directoryAt removedSession.directory ⟨".."⟩ = .ok [] := rfl
  exact Session.generate_fails_of_fresh rfl resolves rfl rfl rfl found rfl

def deepName : String :=
  String.ofList (List.replicate 194 'd')

/-- A directory whose path is as long as a path can be. -/
def deepDirectory : Place :=
  List.replicate 21 deepName

/-- The working directory is that deep, and what it holds is up to date. -/
def deepSession : Session where
  disk := ⟨(deepDirectory, .directory)
    :: (deepDirectory ++ ["enumerator.toml"], .file colorText.toUTF8)
    :: (deepDirectory ++ ["color.go"], .file freshContent)
    :: (List.range 20).map fun depth => (List.replicate (depth + 1) deepName, .directory)⟩
  directory := deepDirectory
  environment := ⟨[]⟩

theorem utf8ByteSize_intercalate_replicate (name : String) (count : Nat) :
    (String.intercalate "/" (List.replicate (count + 1) name)).utf8ByteSize =
      count * (name.utf8ByteSize + 1) + name.utf8ByteSize := by
  have slash : ("/" : String).utf8ByteSize = 1 := by decide
  induction count with
  | zero => simp
  | succ count ih =>
      rw [List.replicate_succ] at ih ⊢
      rw [List.replicate_succ, String.intercalate_cons_cons, String.utf8ByteSize_append,
        String.utf8ByteSize_append, slash, ih, Nat.succ_mul]
      omega

theorem exists_pathTo_deepDirectory :
    ∃ here, Disk.pathTo deepDirectory = .ok here ∧ here.text.utf8ByteSize = 4095 := by
  have length : deepName.utf8ByteSize = 194 := by decide +kernel
  have slash : ("/" : String).utf8ByteSize = 1 := by decide
  have named : Disk.isRemoved deepDirectory = false := by
    have spelled : "" ≠ deepName := by
      intro empty
      rw [← empty] at length
      contradiction
    simp [Disk.isRemoved, deepDirectory, spelled]
  refine ⟨_, if_neg (by simp [named]), ?_⟩
  rw [String.utf8ByteSize_append, deepDirectory, utf8ByteSize_intercalate_replicate, length, slash]

theorem lookup_deepSession :
    deepSession.disk.lookup deepDirectory = some .directory ∧
      deepSession.disk.lookup (deepDirectory ++ ["enumerator.toml"]) =
        some (.file colorText.toUTF8) ∧
      deepSession.disk.lookup (deepDirectory ++ ["color.go"]) = some (.file freshContent) := by
  have named : deepDirectory ≠ [] := by simp [deepDirectory]
  have apart : ∀ name, (deepDirectory ++ [name] == deepDirectory) = false := by simp
  simp [Disk.lookup, deepSession, List.lookup_cons, named, apart]

theorem read_deepSession :
    deepSession.disk.read deepSession.directory ⟨"enumerator.toml"⟩ = .ok colorText.toUTF8 ∧
      deepSession.disk.read deepSession.directory ⟨"./color.go"⟩ = .ok freshContent ∧
      deepSession.disk.directoryAt deepSession.directory ⟨"."⟩ = .ok deepDirectory := by
  obtain ⟨inside, configuration, file⟩ := lookup_deepSession
  have walks : ∀ segments, deepSession.disk.walk deepDirectory ("." :: segments) =
      deepSession.disk.walk deepDirectory segments := by
    intro segments
    rw [Disk.walk, Disk.step, inside]
    rfl
  have enters : ∀ name ∈ ["enumerator.toml", "color.go"],
      deepSession.disk.walk deepDirectory [name] = .ok (deepDirectory ++ [name]) := by
    intro name member
    have short : name ≠ "." ∧ name ≠ ".." ∧ ¬ Disk.longestName < name.utf8ByteSize := by
      revert name
      decide
    simp [Disk.walk, Disk.step, inside, short]
  have configured : deepSession.disk.resolve deepDirectory ⟨"enumerator.toml"⟩ = _ :=
    enters "enumerator.toml" (by simp)
  have reads : deepSession.disk.resolve deepDirectory ⟨"./color.go"⟩ = _ :=
    (walks ["color.go"]).trans (enters "color.go" (by simp))
  have found : deepSession.disk.resolve deepDirectory ⟨"."⟩ = .ok deepDirectory := walks []
  exact ⟨Disk.read_eq_ok_iff.mpr ⟨by decide, _, configured, configuration⟩,
    Disk.read_eq_ok_iff.mpr ⟨by decide, _, reads, file⟩,
    Disk.directoryAt_eq_ok_iff.mpr ⟨by decide, found, inside⟩⟩

/-- The path of a temporary file can be too long where that of the file itself is not. -/
theorem generate_deepSession :
    (deepSession.outcome (runGenerate (some ⟨"enumerator.toml"⟩) { check := true })).1 =
        .ok () ∧
      (deepSession.outcome (runGenerate (some ⟨"enumerator.toml"⟩) {})).1 =
        .error (.write ⟨"./color.go"⟩ .nameTooLong) := by
  have resolves : LoadedConfig.specs ⟨⟨"enumerator.toml"⟩, colorConfig⟩ =
      .ok [freshSpec ⟨"./color.go"⟩] := by decide
  obtain ⟨here, there, size⟩ := exists_pathTo_deepDirectory
  have dot : (".": String).utf8ByteSize = 1 := by decide
  have refused : Disk.temporaryError? deepDirectory ⟨"."⟩ = some .nameTooLong :=
    Disk.temporaryError?_eq_nameTooLong there (by decide) (by rw [size, dot]; decide)
  obtain ⟨configured, reads, found⟩ := read_deepSession
  exact Session.generate_fails_of_fresh configured resolves rfl reads rfl found refused

end SealedEnum
