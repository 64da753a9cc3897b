import ScriptDigest.Run

/-!
# The program

The program reads its arguments and answers: with a text for a request for help or the version, with a message for
arguments it cannot use, and otherwise with what a run reports and leaves behind.

The arguments and the workspace are all that the answer depends on here. The environment is left out: a caller may set a filter
for the reports in it, which then decides which events are shown in place of `Workspace.shown`. So are arguments whose bytes are
no text, and the time and the colours of a report.
-/

namespace ScriptDigest

/-- The answer to a request for the version. -/
def versionText : Text := "gdsummary 0.1.0\n".toList

/-- The answer to a request for help. -/
def helpText : Text :=
  Text.joinLines
    ["Summarize GDScript source files in a single Markdown document".toList,
      [],
      "Usage: gdsummary [OPTIONS] [ROOT]".toList,
      [],
      "Arguments:".toList,
      "  [ROOT]  Project root [default: .]".toList,
      [],
      "Options:".toList,
      "  -s, --src <SRC>           Source directory [default: <ROOT>/src]".toList,
      "  -o, --output <OUTPUT>     Report file [default: <SRC>/dev-view-src/Main.md]".toList,
      "  -m, --main <MAIN_FILE>    Entry-point script rendered in full [default: Main.gd]".toList,
      "  -c, --class <CLASS_FILE>  Script that gets the class summary [default: PlotInfo.gd]".toList,
      "      --no-global-count     Leave the global-variable count column out of the file index".toList,
      "  -v, --verbose             Enable debug logging".toList,
      "  -h, --help                Print help".toList,
      "  -V, --version             Print version".toList,
      []]

/-- The answer to a request. -/
def Query.answer : Query → Text
  | help => helpText
  | version => versionText

/-- Why the program does not do what it is asked for. -/
inductive Failure where
  /-- The run fails. -/
  | run (cause : RunError)
  /-- The arguments cannot be used. -/
  | usage (mistake : UsageError)
  deriving DecidableEq, Repr

namespace Failure

/-- The exit code for a failure. -/
def exitCode : Failure → Nat
  | run _ => 1
  | usage _ => 2

/-- The wording of a failure. -/
def message : Failure → Text
  | run cause => "Error: ".toList ++ cause.message
  | usage mistake => mistake.message

/-- The lines of the wording of a failure. Of a mistake in the arguments the first one says all. -/
def lines : Failure → List Text
  | run cause => Text.printedLines (run cause).message
  | usage mistake => (Text.printedLines (usage mistake).message).take 1

end Failure

/-- What the program hands back to its caller. -/
structure Response where
  /-- What is printed. -/
  output : Text
  /-- What is reported, in order. -/
  events : List Event
  /-- The failure, if there is one. -/
  failure : Option Failure
  /-- The files afterwards. -/
  workspace : Workspace

namespace Response

/-- The exit code, which is zero for success. -/
def exitCode (r : Response) : Nat :=
  match r.failure with
  | none => 0
  | some failure => failure.exitCode

/-- The lines on the error stream that no report begins with: those that go on with one, and those of the failure. -/
def errorLines (r : Response) : List Text :=
  r.events.flatMap (fun e => e.reportLines.tail) ++ (r.failure.map Failure.lines).getD []

end Response

namespace Workspace

/-- The events that are shown. Those of the lowest level are shown only to a caller who asks for them. -/
def shown (o : Options) (events : List Event) : List Event :=
  if o.verbose then events else events.filter fun e => e.level ≠ .debug

/-- The response to a run. -/
def respond (w : Workspace) (o : Options) : Response :=
  let outcome := Action.run o w
  { output := []
    events := shown o outcome.events
    failure := match outcome.result with
      | .ok _ => none
      | .error cause => some (.run cause)
    workspace := outcome.workspace }

/-- The response to arguments. -/
def execute (w : Workspace) (arguments : List Text) : Response :=
  match Command.ofArguments arguments with
  | .ok (.run o) => w.respond o
  | .ok (.answer query) => ⟨query.answer, [], none, w⟩
  | .error mistake => ⟨[], [], some (.usage mistake), w⟩

end Workspace

end ScriptDigest
