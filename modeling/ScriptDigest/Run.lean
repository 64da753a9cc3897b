import ScriptDigest.CommandLine
import ScriptDigest.Digest
import ScriptDigest.Discovery
import ScriptDigest.Text.Lines
import ScriptDigest.Text.Report

/-!
# A run of the program

A run checks that the source folder and the folder of the digest exist, reads the scripts, finds the entry point among
them or reads it by itself, and writes the digest. It reports its progress as events. It ends with success or with an error,
and in either case it leaves a workspace behind, which is the one it has changed up to there.
-/

namespace ScriptDigest

/-- How much an event matters. -/
inductive LogLevel where
  | debug | info | warning
  deriving DecidableEq, Repr

/-- The word for a level. -/
def LogLevel.label : LogLevel → Text
  | debug => "DEBUG".toList
  | info => "INFO".toList
  | warning => "WARN".toList

/-- What a run reports. -/
inductive Event where
  /-- The run begins. -/
  | started
  /-- A script has been read. -/
  | scriptRead (path : Path) (script : Script)
  /-- All scripts of the source folder have been read. -/
  | scriptsFound (count : Nat) (source : Path)
  /-- The source folder has no scripts. -/
  | noScripts (source : Path)
  /-- The entry point is not one of the scripts found. -/
  | entryNotFound (name : Text)
  /-- The entry point has no heading for its declarations. -/
  | noGlobalsHeading (name : Text)
  /-- The digest has been written. -/
  | digestWritten (output : Path)
  deriving DecidableEq, Repr

namespace Event

/-- The level of an event. -/
def level : Event → LogLevel
  | started | scriptsFound _ _ | digestWritten _ => .info
  | noScripts _ | entryNotFound _ => .warning
  | scriptRead _ _ | noGlobalsHeading _ => .debug

/-- The part of the program that an event comes from. -/
def origin : Event → Text
  | noGlobalsHeading _ => "gdsummary::report".toList
  | _ => "gdsummary".toList

/-- The wording of an event. -/
def message : Event → Text
  | started => "Running gdsummary v0.1.0".toList
  | scriptRead path s =>
    path.spelling ++ ": ".toList ++ Text.ofNat (codeLineCount s.text) ++ " lines, ".toList ++
      Text.ofNat (Declarations.ofText s.text).count ++ " globals, kind ".toList ++
      (Profile.ofText s.text false).kind.label
  | scriptsFound count source =>
    "Found ".toList ++ Text.ofNat count ++ " GDScript files in ".toList ++ source.spelling
  | noScripts source => "no *.gd files in ".toList ++ source.spelling
  | entryNotFound name => name ++ " not among discovered files, reading it directly".toList
  | noGlobalsHeading name => "no `".toList ++ Synopsis.globalsTitle ++ "` heading in ".toList ++ name
  | digestWritten output => "Wrote ".toList ++ output.spelling

/-- What is reported of an event. -/
def report (e : Event) : Text := Text.spellOut e.message

/-- The lines of the report of an event. It has more than one when a name in it has a line end. -/
def reportLines (e : Event) : List Text := Text.printedLines e.report

end Event

/-- Why a run fails. -/
inductive RunError where
  | sourceNotFound (source : Path)
  | outputFolderNotFound (folder : Path)
  | unreadable (path : Path) (cause : FileError)
  | unwritable (path : Path) (cause : FileError)
  deriving DecidableEq, Repr

/-- The wording of an error, with its cause if it has one. -/
def RunError.message : RunError → Text
  | sourceNotFound source => "source directory not found: ".toList ++ source.spelling
  | outputFolderNotFound folder => "output directory not found: ".toList ++ folder.spelling
  | unreadable path cause =>
    "failed to read ".toList ++ path.spelling ++ "\n\nCaused by:\n    ".toList ++ cause.message
  | unwritable path cause =>
    "failed to write ".toList ++ path.spelling ++ "\n\nCaused by:\n    ".toList ++ cause.message

/-- How a computation ends: what it has reported, its result, and the workspace it leaves behind. -/
structure Outcome (α : Type) where
  events : List Event
  result : Except RunError α
  workspace : Workspace

/-- A computation in a workspace, which it can look at and change. It reports events, and it may fail. -/
def Action (α : Type) : Type := Workspace → Outcome α

namespace Action

variable {α β : Type}

/-- A result without anything else. -/
def of (result : Except RunError α) : Action α := fun w => ⟨[], result, w⟩

/-- What is seen in the workspace. -/
def look (view : Workspace → α) : Action α := fun w => ⟨[], .ok (view w), w⟩

/-- An event. -/
def note (e : Event) : Action Unit := fun w => ⟨[e], .ok (), w⟩

/-- An event that is reported under a condition. -/
def noteIf (c : Bool) (e : Event) : Action Unit := if c then note e else of (.ok ())

/-- A condition that must hold in the workspace. -/
def require (c : Workspace → Bool) (e : RunError) : Action Unit := fun w => ⟨[], if c w then .ok () else .error e, w⟩

/-- A computation and what follows from its result in the workspace it leaves behind. After an error nothing follows. -/
def bind (x : Action α) (f : α → Action β) : Action β := fun w =>
  let first := x w
  match first.result with
  | .ok a =>
    let second := f a first.workspace
    ⟨first.events ++ second.events, second.result, second.workspace⟩
  | .error e => ⟨first.events, .error e, first.workspace⟩

instance : Monad Action where
  pure a := of (.ok a)
  bind := bind

/-- After a result the computation goes on in the workspace that is left behind, and its events are added. -/
theorem bind_ok {x : Action α} {w : Workspace} {a : α} (h : (x w).result = .ok a) (f : α → Action β) :
    (x >>= f) w = ⟨(x w).events ++ (f a (x w).workspace).events, (f a (x w).workspace).result,
      (f a (x w).workspace).workspace⟩ := by
  change bind x f w = _
  simp only [bind, h]

/-- An error ends the computation. -/
theorem bind_error {x : Action α} {w : Workspace} {e : RunError} (h : (x w).result = .error e) (f : α → Action β) :
    (x >>= f) w = ⟨(x w).events, .error e, (x w).workspace⟩ := by
  change bind x f w = _
  simp only [bind, h]

end Action

/-- A script from the outcome of reading the file at a path. -/
def Script.ofReading (path : Path) (name : Text) (outcome : Except FileError Text) : Action Script :=
  match outcome with
  | .ok text => do
    Action.note (.scriptRead path ⟨name, text⟩)
    return ⟨name, text⟩
  | .error cause => Action.of (.error (.unreadable path cause))

/-- The file in the folder of the scripts that has the name of the entry point. -/
def Options.entryPath (o : Options) : Path := o.sourcePath.join ⟨o.entryName⟩

/-- The digest that options ask for, of scripts and an entry point. -/
def Options.digest (o : Options) (scripts : List Script) (entry : Script) : Digest where
  scripts := scripts
  entry := entry
  entryName := o.entryName
  className := o.announcedClass
  target := o.outputPath.fileName?.getD []
  showsGlobals := !o.noGlobalCount

namespace Action

/-- The scripts that were found, read in order up to the first that is not a text. -/
def readScripts : List FoundScript → Action (List Script)
  | [] => return []
  | f :: rest => do
    let script ← Script.ofReading f.path f.name (Workspace.decode f.content)
    return script :: (← readScripts rest)

/-- The entry point: the first of the scripts that has its name, and otherwise the file of that name in the source
folder. -/
def entryScript (o : Options) (scripts : List Script) : Action Script :=
  match scripts.find? fun s => s.name == o.entryName with
  | some script => return script
  | none => do
    note (.entryNotFound o.entryName)
    let outcome ← look (·.read o.entryPath)
    Script.ofReading o.entryPath (o.entryPath.fileName?.getD []) outcome

/-- The digest, made from what is read when both folders have been checked. -/
def prepareDigest (o : Options) : Action Digest := do
  note .started
  require (·.isFolder o.sourcePath) (.sourceNotFound o.sourcePath)
  require (·.isFolder o.outputFolder) (.outputFolderNotFound o.outputFolder)
  let scripts ← readScripts (← look (·.findScripts o.sourcePath))
  note (.scriptsFound scripts.length o.sourcePath)
  noteIf scripts.isEmpty (.noScripts o.sourcePath)
  let entry ← entryScript o scripts
  noteIf (!entry.hasGlobalsHeading) (.noGlobalsHeading entry.name)
  return o.digest scripts entry

/-- Writes a digest to its place. A failure to write leaves the workspace as it is. -/
def writeDigest (output : Path) (digest : Digest) : Action Unit := fun w =>
  match w.write output digest.render with
  | .ok w' => ⟨[], .ok (), w'⟩
  | .error cause => ⟨[], .error (.unwritable output cause), w⟩

/-- A run. -/
def run (o : Options) : Action Unit := do
  let digest ← prepareDigest o
  writeDigest o.outputPath digest
  note (.digestWritten o.outputPath)

end Action

end ScriptDigest
