import ScriptDigest.Files.Path
import ScriptDigest.Text.Terminal

/-!
# The command line

The arguments of the program are one positional one, options that take a value, and switches. They are read from left to
right, and the first request for help or for the version, or the first mistake, ends the reading.

A value that stands as an argument of its own is not checked when it is met but when the next argument that the program
knows is read, or at the end: an argument that the program does not know is reported before an earlier value that is
missing, given twice or empty. A value that is attached to its option is checked at once.
-/

namespace ScriptDigest

/-- What takes a value. -/
inductive Slot where
  /-- The root of the project. It is the positional argument. -/
  | root
  /-- The folder of the scripts. -/
  | source
  /-- The file that the digest is written to. -/
  | output
  /-- The name of the entry point. -/
  | entry
  /-- The name of the class. -/
  | className
  deriving DecidableEq, Repr

/-- What is on or off. -/
inductive Switch where
  | noGlobalCount
  | verbose
  deriving DecidableEq, Repr

/-- What is asked for in place of a run. -/
inductive Query where
  | help
  | version
  deriving DecidableEq, Repr

/-- What an option stands for. -/
inductive OptionKind where
  | value (slot : Slot)
  | switch (switch : Switch)
  | query (query : Query)
  deriving DecidableEq, Repr

/-- The option with a long name. -/
def OptionKind.ofName? (name : Text) : Option OptionKind :=
  [("src".toList, value .source), ("output".toList, value .output), ("main".toList, value .entry),
    ("class".toList, value .className), ("no-global-count".toList, switch .noGlobalCount),
    ("verbose".toList, switch .verbose), ("help".toList, query .help), ("version".toList, query .version)].lookup name

/-- The option with a short name. -/
def OptionKind.ofLetter? (letter : Char) : Option OptionKind :=
  [('s', value .source), ('o', value .output), ('m', value .entry), ('c', value .className),
    ('v', switch .verbose), ('h', query .help), ('V', query .version)].lookup letter

/-- A slot as messages show it. -/
def Slot.label : Slot → Text
  | root => "[ROOT]".toList
  | source => "--src <SRC>".toList
  | output => "--output <OUTPUT>".toList
  | entry => "--main <MAIN_FILE>".toList
  | className => "--class <CLASS_FILE>".toList

/-- Whether the value of a slot is a path, which may not be empty. -/
def Slot.holdsPath : Slot → Bool
  | root | source | output => true
  | entry | className => false

/-- A switch as messages show it. -/
def Switch.label : Switch → Text
  | noGlobalCount => "--no-global-count".toList
  | verbose => "--verbose".toList

/-- Mistakes in the arguments. -/
inductive UsageError where
  /-- An argument that the program has no place for. -/
  | unexpectedArgument (argument : Text)
  /-- An option without a value, or with an empty one that should be a path. -/
  | missingValue (slot : Slot)
  /-- A value that is given twice. -/
  | repeatedValue (slot : Slot)
  /-- A switch that is given twice. -/
  | repeatedSwitch (switch : Switch)
  /-- A value attached to something that takes none. -/
  | unexpectedValue (option value : Text)
  deriving DecidableEq, Repr

/-- The wording of a mistake. Arguments are told as a terminal shows them. -/
def UsageError.message : UsageError → Text
  | unexpectedArgument argument => "error: unexpected argument '".toList ++ argument.visible ++ "' found".toList
  | missingValue slot => "error: a value is required for '".toList ++ slot.label ++ "' but none was supplied".toList
  | repeatedValue slot => "error: the argument '".toList ++ slot.label ++ "' cannot be used multiple times".toList
  | repeatedSwitch switch => "error: the argument '".toList ++ switch.label ++ "' cannot be used multiple times".toList
  | unexpectedValue option value =>
    "error: unexpected value '".toList ++ value.visible ++ "' for '".toList ++ option ++
      "' found; no more were expected".toList

/-- What the arguments of a run say. -/
structure Options where
  root : Option Text
  source : Option Text
  output : Option Text
  entry : Option Text
  className : Option Text
  noGlobalCount : Bool
  verbose : Bool
  deriving DecidableEq, Repr

namespace Options

/-- What no arguments say. -/
def unset : Options := ⟨none, none, none, none, none, false, false⟩

/-- The value in a slot. -/
def get? (o : Options) : Slot → Option Text
  | .root => o.root
  | .source => o.source
  | .output => o.output
  | .entry => o.entry
  | .className => o.className

/-- A slot filled with a value. -/
def set (o : Options) (slot : Slot) (value : Text) : Options :=
  match slot with
  | .root => { o with root := some value }
  | .source => { o with source := some value }
  | .output => { o with output := some value }
  | .entry => { o with entry := some value }
  | .className => { o with className := some value }

/-- A slot that is filled holds its value, and the other slots keep theirs. -/
theorem get?_set (o : Options) (slot other : Slot) (value : Text) :
    (o.set slot value).get? other = if other = slot then some value else o.get? other := by
  cases slot <;> cases other <;> rfl

/-- A slot filled with a value, if it is free and may hold the value. -/
def assign (o : Options) (slot : Slot) (value : Text) : Except UsageError Options :=
  if (o.get? slot).isSome then .error (.repeatedValue slot)
  else if value = [] ∧ slot.holdsPath then .error (.missingValue slot)
  else .ok (o.set slot value)

/-- A switch put on, if it is not on yet. -/
def turnOn (o : Options) : Switch → Except UsageError Options
  | .noGlobalCount =>
    if o.noGlobalCount then .error (.repeatedSwitch .noGlobalCount) else .ok { o with noGlobalCount := true }
  | .verbose => if o.verbose then .error (.repeatedSwitch .verbose) else .ok { o with verbose := true }

/-- The folder of the scripts: `src` in the root of the project unless another one is given. -/
def sourcePath (o : Options) : Path :=
  match o.source with
  | some p => ⟨p⟩
  | none => Path.join ⟨o.root.getD ['.']⟩ ⟨"src".toList⟩

/-- The file that the digest is written to: `dev-view-src/Main.md` in the folder of the scripts unless another one is
given. -/
def outputPath (o : Options) : Path :=
  match o.output with
  | some p => ⟨p⟩
  | none => (o.sourcePath.join ⟨"dev-view-src".toList⟩).join ⟨"Main.md".toList⟩

/-- The folder that the digest is written to, which is the current one for a file that is given by its name alone. It is the
folder of the file in the sense of `Path.IsFolderOf` (`isFolderOf_outputPath_iff`). -/
def outputFolder (o : Options) : Path :=
  match o.outputPath.parent? with
  | some p => if p.spelling = [] then Path.here else p
  | none => Path.here

/-- The name of the entry point. -/
def entryName (o : Options) : Text := o.entry.getD "Main.gd".toList

/-- The name of the class. -/
def announcedClass (o : Options) : Text := o.className.getD "PlotInfo.gd".toList

end Options

/-- What the arguments ask for. -/
inductive Command where
  | run (options : Options)
  | answer (query : Query)
  deriving DecidableEq, Repr

/-- What the arguments read so far say, and what is left to be checked: a slot with its value, or with no value when the
next argument may be its value. -/
structure Reader where
  options : Options
  pending : Option (Slot × Option Text)
  deriving DecidableEq, Repr

/-- What the reading of an argument leads to. -/
inductive Reader.Step where
  | next (reader : Reader)
  | stop (query : Query)
  deriving DecidableEq, Repr

namespace Reader

/-- The reader before the first argument. -/
def start : Reader := ⟨.unset, none⟩

/-- The options after what is pending has been checked. -/
def settle (r : Reader) : Except UsageError Options :=
  match r.pending with
  | none => .ok r.options
  | some (slot, none) => .error (.missingValue slot)
  | some (slot, some value) => r.options.assign slot value

/-- The slot whose value the next argument may be. -/
def awaited? (r : Reader) : Option Slot :=
  match r.pending with
  | some (slot, none) => some slot
  | _ => none

/-- Whether the positional argument has been met. -/
def hasRoot (r : Reader) : Bool :=
  r.options.root.isSome || r.pending.any fun p => p.1 == .root

/-- Reads a positional argument. -/
def positional (r : Reader) (argument : Text) : Except UsageError Reader :=
  if r.hasRoot then .error (.unexpectedArgument argument)
  else do return ⟨← r.settle, some (.root, some argument)⟩

/-- Reads an option that has a long name, and the value attached to it behind an equals sign. -/
def long (r : Reader) (name : Text) (attached : Option Text) : Except UsageError Step :=
  match OptionKind.ofName? name, attached with
  | none, _ => .error (.unexpectedArgument ("--".toList ++ name))
  | some (.value slot), none => do return .next ⟨← r.settle, some (slot, none)⟩
  | some (.value slot), some value => do return .next ⟨← (← r.settle).assign slot value, none⟩
  | some (.switch switch), none => do return .next ⟨← (← r.settle).turnOn switch, none⟩
  | some (.query query), none => do
    let _ ← r.settle
    return .stop query
  | some _, some value => .error (.unexpectedValue ("--".toList ++ name) value)

/-- Reads the letters of an argument, each of them the short name of an option. The letter of an option that takes a
value takes all that is behind it, less an equals sign in front. -/
def short (r : Reader) : Text → Except UsageError Step
  | [] => .ok (.next r)
  | letter :: rest =>
    match OptionKind.ofLetter? letter with
    | none => .error (.unexpectedArgument ['-', letter])
    | some (.value slot) => do
      let options ← r.settle
      if rest = [] then return .next ⟨options, some (slot, none)⟩
      else return .next ⟨← options.assign slot (if rest.head? = some '=' then rest.tail else rest), none⟩
    | some (.switch switch) => do short ⟨← (← r.settle).turnOn switch, none⟩ rest
    | some (.query query) => do
      let _ ← r.settle
      return .stop query

/-- Reads an argument that may be an option. An argument of a single hyphen is none. -/
def argument (r : Reader) (a : Text) : Except UsageError Step :=
  match a with
  | '-' :: '-' :: body =>
    r.long (Text.before (· == '=') body) (if '=' ∈ body then some (Text.after (· == '=') body) else none)
  | '-' :: letter :: rest => r.short (letter :: rest)
  | _ =>
    match r.awaited? with
    | some slot => .ok (.next ⟨r.options, some (slot, some a)⟩)
    | none => (r.positional a).map .next

/-- Reads arguments that are all positional. -/
def positionals (r : Reader) : List Text → Except UsageError Command
  | [] => r.settle.map .run
  | a :: rest => do positionals (← r.positional a) rest

/-- Reads arguments, up to two hyphens, behind which all are positional. -/
def arguments (r : Reader) : List Text → Except UsageError Command
  | [] => r.settle.map .run
  | a :: rest =>
    if a = "--".toList then r.positionals rest
    else do
      match ← r.argument a with
      | .next r' => arguments r' rest
      | .stop query => return .answer query

end Reader

/-- What arguments ask for. -/
def Command.ofArguments (arguments : List Text) : Except UsageError Command := Reader.start.arguments arguments

end ScriptDigest
