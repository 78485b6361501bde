import SealedEnum.Proofs.Host.Readable
import SealedEnum.Proofs.Tool.Commands

namespace SealedEnum

/-! What a command may write to, whether it succeeds or fails, and what many commands may. -/

namespace Disk

variable {disk after : Disk} {directory : Place} {paths : List Path}

/-- Some path leads to the place. -/
def IsGoal (disk : Disk) (directory : Place) (paths : List Path) (place : Place) : Prop :=
  ∃ path ∈ paths, disk.goal? directory path = some place

/-- At most some paths have been written to, and without any nothing has changed at all. -/
structure WrittenWithin (disk : Disk) (directory : Place) (paths : List Path) (after : Disk) :
    Prop where
  frame : disk.Frame after (disk.IsGoal directory paths)
  unchanged : paths = [] → after = disk

namespace WrittenWithin

theorem refl (disk : Disk) (directory : Place) (paths : List Path) :
    disk.WrittenWithin directory paths disk where
  frame := .refl disk _
  unchanged := fun _ => rfl

theorem of_replaceAll {files : List RenderedFile}
    (replaced : disk.replaceAll directory files = .ok after)
    (aimed : ∀ file ∈ files, file.path ∈ paths) : disk.WrittenWithin directory paths after where
  frame := by
    refine (frame_of_replaceAll replaced).mono ?_
    rintro place ⟨file, member, leads⟩
    exact ⟨file.path, aimed file member, leads⟩
  unchanged := by
    rintro rfl
    have none : files = [] := List.eq_nil_iff_forall_not_mem.mpr fun file member =>
      List.not_mem_nil (aimed file member)
    rw [none] at replaced
    exact (replaceAll_nil.mp replaced).symm

theorem of_writable {path : Path} {parent : Place} {name : String} {content : ByteArray}
    (writable : disk.Writable directory path parent name) :
    disk.WrittenWithin directory [path] (disk.put (parent ++ [name]) (.file content)) where
  frame := by
    refine writable.frame.mono ?_
    rintro place rfl
    exact ⟨path, by simp, writable.goal?_eq⟩
  unchanged := nofun

theorem isTree (written : disk.WrittenWithin directory paths after) (tree : disk.IsTree) :
    after.IsTree := by
  apply tree.of_frame written.frame
  rintro place ⟨path, -, leads⟩
  exact directory_above_of_goal? leads

end WrittenWithin

end Disk

def GenerateOptions.targets (options : GenerateOptions) (specs : List Spec) : List Path :=
  if options.dryRun || options.check then [] else specs.map Spec.destination

def EmitOptions.targets (options : EmitOptions) : List Path :=
  if options.dryRun then [] else [options.destination]

namespace Session

theorem generate_writtenWithin (session : Session) (spec : Spec) :
    session.disk.WrittenWithin session.directory [spec.destination]
      (session.outcome (generate spec)).2.disk := by
  obtain ⟨events, generates⟩ := outcome_generate session spec
  rw [generates]
  cases rendered : session.rendering spec with
  | error failure => exact .refl session.disk _ _
  | ok file =>
      rw [← path_of_rendering rendered]
      dsimp only
      cases replaced : session.disk.replace session.directory file.path file.bytes with
      | error failure => exact .refl session.disk _ _
      | ok disk =>
          obtain ⟨parent, name, replaceable, rfl⟩ := Disk.replace_eq_ok_iff.mp replaced
          exact .of_writable replaceable.toWritable

theorem generateAll_writtenWithin (session : Session) (specs : List Spec) :
    session.disk.WrittenWithin session.directory (specs.map Spec.destination)
      (session.outcome (generateAll specs)).2.disk := by
  have aimed : ∀ files, specs.mapM session.rendering = .ok files →
      ∀ file ∈ files, file.path ∈ specs.map Spec.destination := by
    intro files rendered
    rw [← map_path_of_rendered rendered]
    exact fun file member => List.mem_map_of_mem member
  have ends := session.generatesAll specs
  generalize session.outcome (generateAll specs) = outcome at ends
  obtain ⟨result, after⟩ := outcome
  cases ends with
  | unrendered _ => exact .refl session.disk _ _
  | finished rendered replaced => exact .of_replaceAll replaced (aimed _ rendered)
  | stopped rendered stops =>
      obtain ⟨failing, later, rfl, -⟩ := stops.fails
      exact .of_replaceAll stops.written fun file member =>
        aimed _ rendered file (List.mem_append_left _ member)

theorem runSelected_writtenWithin (session : Session) (options : GenerateOptions)
    (specs : List Spec) :
    session.disk.WrittenWithin session.directory (options.targets specs)
      (session.outcome (runSelected options specs)).2.disk := by
  unfold GenerateOptions.targets
  cases dry : options.dryRun with
  | true =>
      rw [outcome_runSelected_dryRun session specs dry]
      cases specs.mapM session.rendering <;> exact .refl session.disk _ _
  | false =>
      cases asked : options.check with
      | true =>
          obtain ⟨events, checks⟩ := outcome_runSelected_check session specs dry asked
          rw [checks]
          exact .refl session.disk _ _
      | false =>
          obtain ⟨events, generates⟩ := outcome_runSelected_write session specs dry asked
          rw [generates]
          exact generateAll_writtenWithin session specs

/-- The destinations that a generation may write to. -/
def generationTargets (session : Session) (config : Option Path) (options : GenerateOptions) :
    List Path :=
  match session.selected config options.selected with
  | .ok specs => options.targets specs
  | .error _ => []

theorem runGenerate_writtenWithin (session : Session) (config : Option Path)
    (options : GenerateOptions) :
    session.disk.WrittenWithin session.directory (session.generationTargets config options)
      (session.outcome (runGenerate config options)).2.disk := by
  obtain ⟨events, generates⟩ := outcome_runGenerate session config options
  rw [generates, generationTargets]
  cases session.selected config options.selected with
  | error failure => exact .refl session.disk _ _
  | ok specs =>
      exact runSelected_writtenWithin { session.afterLoading config with events } options specs

theorem runValidate_disk (session : Session) (config : Option Path) :
    (session.outcome (runValidate config)).2.disk = session.disk := by
  obtain ⟨events, validates⟩ := outcome_runValidate session config
  rw [validates]
  cases session.configured config <;> rfl

theorem runInspect_disk (session : Session) (config : Option Path) (format : SummaryFormat) :
    (session.outcome (runInspect config format)).2.disk = session.disk := by
  obtain ⟨events, inspects⟩ := outcome_runInspect session config format
  rw [inspects]
  cases ((session.configured config).bind Summary.ofSpecs).bind (session.shown format) <;> rfl

theorem runEmit_writtenWithin (session : Session) (options : EmitOptions) :
    session.disk.WrittenWithin session.directory options.targets
      (session.outcome (runEmit options)).2.disk := by
  unfold EmitOptions.targets
  cases dry : options.dryRun with
  | true =>
      rw [outcome_runEmit_dryRun session dry]
      cases (session.outcome (renderSpec options.spec)).1 <;> exact .refl session.disk _ _
  | false =>
      obtain ⟨events, emits⟩ := outcome_runEmit_write session dry
      rw [emits]
      exact generate_writtenWithin session options.spec

theorem writeStarterConfig_writtenWithin (session : Session) (path : Path) (force : Bool) :
    session.disk.WrittenWithin session.directory [path]
      (session.outcome (writeStarterConfig path force)).2.disk := by
  have looks : session.outcome (Host.exists? path) =
      (.ok (session.kind? path).isSome, session) := rfl
  have writes : session.outcome (Host.write path starterConfig.toUTF8) =
      Prod.map Except.ok id (session.changeDisk fun disk =>
        disk.write session.directory path starterConfig.toUTF8) := rfl
  unfold writeStarterConfig
  rw [outcome_bind _ looks]
  dsimp only
  split
  · exact .refl session.disk _ _
  · cases written : session.disk.write session.directory path starterConfig.toUTF8 with
    | error error =>
        rw [changeDisk, written] at writes
        rw [outcome_bind _ writes]
        exact .refl session.disk _ _
    | ok disk =>
        obtain ⟨parent, name, writable, -, rfl⟩ := Disk.write_eq_ok_iff.mp written
        rw [changeDisk, written] at writes
        rw [outcome_bind _ writes]
        exact .of_writable writable

theorem runInit_writtenWithin (session : Session) (config : Option Path) (force : Bool) :
    session.disk.WrittenWithin session.directory [config.getD ⟨configFileName⟩]
      (session.outcome (runInit config force)).2.disk := by
  have written := writeStarterConfig_writtenWithin session (config.getD ⟨configFileName⟩) force
  unfold runInit
  cases starts : session.outcome (writeStarterConfig (config.getD ⟨configFileName⟩) force) with
  | mk result after =>
      rw [starts] at written
      rw [outcome_bind _ starts]
      cases result <;> exact written

/-- The paths that a command line may write to. -/
def targets (session : Session) (commandLine : CommandLine) : List Path :=
  match commandLine.command with
  | none => session.generationTargets commandLine.config {}
  | some (.generate options) => session.generationTargets commandLine.config options
  | some (.emit options) => options.targets
  | some .validate => []
  | some (.inspect _) => []
  | some (.init _) => [commandLine.config.getD ⟨configFileName⟩]

theorem run_writtenWithin (session : Session) (commandLine : CommandLine) :
    session.disk.WrittenWithin session.directory (session.targets commandLine)
      (session.outcome commandLine.run).2.disk := by
  obtain ⟨config, verbosity, quiet, command⟩ := commandLine
  cases command with
  | none => exact runGenerate_writtenWithin session config {}
  | some command =>
      cases command with
      | generate options => exact runGenerate_writtenWithin session config options
      | emit options => exact runEmit_writtenWithin session options
      | validate => exact (runValidate_disk session config).symm ▸ .refl session.disk _ _
      | inspect format =>
          exact (runInspect_disk session config format).symm ▸ .refl session.disk _ _
      | init force => exact runInit_writtenWithin session config force

end Session

def CommandLine.isReadOnly (commandLine : CommandLine) : Bool :=
  match commandLine.command with
  | none => false
  | some (.generate options) => options.dryRun || options.check
  | some (.emit options) => options.dryRun
  | some .validate => true
  | some (.inspect _) => true
  | some (.init _) => false

theorem Session.targets_of_isReadOnly (session : Session) {commandLine : CommandLine}
    (readOnly : commandLine.isReadOnly = true) : session.targets commandLine = [] := by
  obtain ⟨config, verbosity, quiet, command⟩ := commandLine
  cases command with
  | none => contradiction
  | some command =>
      cases command with
      | generate options =>
          have none : ∀ specs, options.targets specs = [] := fun specs => if_pos readOnly
          simp only [targets, generationTargets, none]
          split <;> rfl
      | emit options => exact if_pos readOnly
      | validate => rfl
      | inspect format => rfl
      | init force => contradiction

/-- One use of the tool: its words, and where and with which variables it runs. -/
structure Invocation where
  words : List String
  directory : Place
  environment : Variables

namespace Invocation

def session (invocation : Invocation) (disk : Disk) : Session where
  disk := disk
  directory := invocation.directory
  environment := invocation.environment

/-- The words are read with a variable in view, and without a look at the disk. -/
def commandLine? (invocation : Invocation) : Except CommandLine.Rejection CommandLine :=
  let config := (invocation.session ⟨[]⟩).lookupPath? CommandLine.configVariable
  CommandLine.parse (config.map Path.text) invocation.words

/-- The disk that an invocation leaves behind, however it ends. -/
def apply (invocation : Invocation) (disk : Disk) : Disk :=
  match (readCommandLine invocation.words : StateM Session _).run (invocation.session disk) with
  | (.error _, after) => after.disk
  | (.ok commandLine, after) => (after.outcome commandLine.run).2.disk

def isReadOnly (invocation : Invocation) : Bool :=
  match invocation.commandLine? with
  | .error _ => true
  | .ok commandLine => commandLine.isReadOnly

def targets (invocation : Invocation) (disk : Disk) : List Path :=
  match invocation.commandLine? with
  | .error _ => []
  | .ok commandLine => (invocation.session disk).targets commandLine

theorem apply_writtenWithin (invocation : Invocation) (disk : Disk) :
    disk.WrittenWithin invocation.directory (invocation.targets disk) (invocation.apply disk) := by
  have reads : (readCommandLine invocation.words : StateM Session _).run
      (invocation.session disk) = (invocation.commandLine?, invocation.session disk) := rfl
  rw [apply, reads, targets]
  cases invocation.commandLine? with
  | error rejection => exact .refl disk _ _
  | ok commandLine => exact (invocation.session disk).run_writtenWithin commandLine

theorem apply_of_isReadOnly {invocation : Invocation} (readOnly : invocation.isReadOnly = true)
    (disk : Disk) : invocation.apply disk = disk := by
  refine (invocation.apply_writtenWithin disk).unchanged ?_
  unfold targets
  unfold isReadOnly at readOnly
  cases found : invocation.commandLine? with
  | error rejection => rfl
  | ok commandLine =>
      rw [found] at readOnly
      exact Session.targets_of_isReadOnly _ readOnly

/-- The disk after many invocations, one after the other. -/
def applyAll (invocations : List Invocation) (disk : Disk) : Disk :=
  invocations.foldl (fun disk invocation => invocation.apply disk) disk

/-- One of the invocations may write to the place when its turn comes. -/
def Reaches : List Invocation → Disk → Place → Prop
  | [], _, _ => False
  | invocation :: rest, disk, place =>
      disk.IsGoal invocation.directory (invocation.targets disk) place ∨
        Reaches rest (invocation.apply disk) place

theorem applyAll_frame (invocations : List Invocation) (disk : Disk) :
    disk.Frame (applyAll invocations disk) (Reaches invocations disk) := by
  induction invocations generalizing disk with
  | nil => exact .refl disk _
  | cons invocation rest ih =>
      exact (invocation.apply_writtenWithin disk).frame.trans (ih (invocation.apply disk))

theorem applyAll_of_isReadOnly {invocations : List Invocation} (disk : Disk)
    (readOnly : ∀ invocation ∈ invocations, invocation.isReadOnly = true) :
    applyAll invocations disk = disk := by
  induction invocations with
  | nil => rfl
  | cons invocation rest ih =>
      rw [List.forall_mem_cons] at readOnly
      rw [applyAll, List.foldl_cons, apply_of_isReadOnly readOnly.1]
      exact ih readOnly.2

/-- Every entry still lies in a directory, however the invocations end. -/
theorem applyAll_isTree (invocations : List Invocation) {disk : Disk} (tree : disk.IsTree) :
    (applyAll invocations disk).IsTree := by
  induction invocations generalizing disk with
  | nil => exact tree
  | cons invocation rest ih => exact ih ((invocation.apply_writtenWithin disk).isTree tree)

/-- Whether its commands succeed or fail, the tool changes the content of files at the paths they
are to write to and nothing else, and with commands that only read it changes nothing. -/
theorem invocations_footprint :
    (∀ (invocation : Invocation) (disk : Disk),
      disk.Frame (invocation.apply disk)
        (disk.IsGoal invocation.directory (invocation.targets disk)) ∧
      (invocation.isReadOnly = true → invocation.apply disk = disk)) ∧
    ∀ (invocations : List Invocation) (disk : Disk),
      disk.Frame (applyAll invocations disk) (Reaches invocations disk) ∧
      ((∀ invocation ∈ invocations, invocation.isReadOnly = true) →
        applyAll invocations disk = disk) :=
  ⟨fun invocation disk => ⟨(invocation.apply_writtenWithin disk).frame,
      fun readOnly => apply_of_isReadOnly readOnly disk⟩,
    fun invocations disk => ⟨applyAll_frame invocations disk, applyAll_of_isReadOnly disk⟩⟩

def checkInvocation : Invocation := ⟨["generate", "--check"], [], ⟨[]⟩⟩

def initInvocation : Invocation := ⟨["init"], [], ⟨[]⟩⟩

theorem invocations_footprint_bareSession :
    checkInvocation.isReadOnly = true ∧
      checkInvocation.apply bareSession.disk = bareSession.disk ∧
        initInvocation.targets bareSession.disk = [⟨"enumerator.toml"⟩] ∧
          bareSession.disk.Frame (initInvocation.apply bareSession.disk)
            (bareSession.disk.IsGoal [] [⟨"enumerator.toml"⟩]) := by
  have checks : checkInvocation.isReadOnly = true := by decide
  have parsed : initInvocation.commandLine? = .ok { command := some (.init false) } := by decide
  have initializes : initInvocation.targets bareSession.disk = [⟨"enumerator.toml"⟩] := by
    rw [targets, parsed]
    rfl
  have only := (invocations_footprint.1 checkInvocation bareSession.disk).2 checks
  have frame := (invocations_footprint.1 initInvocation bareSession.disk).1
  rw [initializes] at frame
  exact ⟨checks, only, initializes, frame⟩

end Invocation

end SealedEnum
