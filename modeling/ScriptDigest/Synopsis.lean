import ScriptDigest.Contents
import ScriptDigest.Line.Form
import ScriptDigest.Text.Lines

/-!
# The synopsis of a script

The synopsis of a script is what is left of it for a reader who wants to find the way around: section headings, the
signatures of functions with their line numbers, doc comments, and the paths of the nodes that are looked up, each as
one fragment of Markdown, in the order of the lines.

The lines are read in one pass. Two things carry over from a line to the next: a signature that no parenthesis has
closed yet claims the lines that follow, whatever they look like, and a titled doc block lasts as long as doc comments
follow each other.
-/

namespace ScriptDigest

/-- What the lines before a line leave open. -/
inductive ReadingMode where
  /-- Nothing. -/
  | body
  /-- The signature of a function. -/
  | signature
  /-- A doc block that has a title. -/
  | docBlock
  deriving DecidableEq, Repr

/-- What a line leaves open, given what was open before it. -/
def ReadingMode.after (mode : ReadingMode) (line : Text) : ReadingMode :=
  match mode with
  | .signature => if Line.ClosesSignature line then .body else .signature
  | .body | .docBlock =>
    match LineForm.ofLine line with
    | .function false => .signature
    | .brief _ => .docBlock
    | .doc _ => mode
    | _ => .body

/-- A line of a script with its number and what was open before it. -/
structure Reading where
  number : Nat
  mode : ReadingMode
  line : Text
  deriving DecidableEq, Repr

/-- The readings of lines that follow each other, the first of them with the given number and mode. -/
def readingsFrom (mode : ReadingMode) (number : Nat) : List Text → List Reading
  | [] => []
  | line :: rest => ⟨number, mode, line⟩ :: readingsFrom (mode.after line) (number + 1) rest

/-- A text moved to the right. -/
def indent (width : Nat) (t : Text) : Text := List.replicate width ' ' ++ t

/-- The Markdown heading of a section. It lies one level below the level of the section, since the document has a title.
-/
def headingFragment (level : HeadingLevel) (name : Text) : Text :=
  List.replicate (level.toNat + 1) '#' ++ ' ' :: name

/-- The line of a doc block that quotes a doc comment. -/
def quotation (body : Text) : Text :=
  if body = [] then ['>'] else "> *".toList ++ body ++ ['*']

namespace Reading

/-- The fragment of a line that is read by its own form. -/
def formFragment? (r : Reading) : Option Text :=
  match LineForm.ofLine r.line with
  | .heading level name => some (headingFragment level name)
  | .function _ => some (indent 4 (Text.ofNat r.number ++ " : ".toList ++ Text.trim r.line))
  | .brief title => some ("**".toList ++ title ++ "**".toList)
  | .doc body => some (if r.mode = .docBlock then quotation body else body)
  | .nodeCall path => some (indent 4 path)
  | .global | .node | .comment | .blank | .plain => none

/-- The fragment of a line, if it has one. -/
def fragment? (r : Reading) : Option Text :=
  match r.mode with
  | .signature => some (indent 8 (Text.trim r.line))
  | .body | .docBlock => r.formFragment?

/-- The entry that a line has in the table of contents, if it has one. -/
def entry? (r : Reading) : Option ContentsEntry :=
  match r.mode, LineForm.ofLine r.line with
  | .signature, _ => none
  | _, .heading .one name => some ⟨r.number, name⟩
  | _, _ => none

end Reading

/-- The fragments of a script, and the entries of its table of contents. -/
structure Synopsis where
  fragments : List Text
  contents : List ContentsEntry
  deriving DecidableEq, Repr

/-- The readings of the lines of a script, which are numbered from one. -/
def readings (text : Text) : List Reading := readingsFrom .body 1 (Text.lines text)

namespace Synopsis

/-- The synopsis of a script. -/
def ofText (text : Text) : Synopsis :=
  ⟨(readings text).filterMap Reading.fragment?, (readings text).filterMap Reading.entry?⟩

/-- The heading under which the variables of a script are listed. -/
def globalsTitle : Text := "## Globals".toList

/-- A list with an item put in directly behind the first occurrence of another one. -/
def insertBehind? (mark item : Text) : List Text → Option (List Text)
  | [] => none
  | f :: fs => if f = mark then some (f :: item :: fs) else (insertBehind? mark item fs).map (f :: ·)

/-- A synopsis with a block put in directly behind the heading of the globals. None when there is no such heading. -/
def insertGlobals? (s : Synopsis) (block : Text) : Option Synopsis :=
  (insertBehind? globalsTitle block s.fragments).map fun fragments => { s with fragments }

end Synopsis

/-- The functions of a script that the engine calls by itself. -/
inductive Callback where
  | ready | process
  deriving DecidableEq, Repr

/-- What a signature of a callback holds. -/
def Callback.marker : Callback → Text
  | ready => "_ready(".toList
  | process => "_process(".toList

/-- The line number of a callback as the synopsis shows it: what stands before the first colon of the first fragment
that holds the marker, and zero when there is none. -/
def Synopsis.lineOf (s : Synopsis) (callback : Callback) : Text :=
  match s.fragments.find? fun f => decide (f.Holds callback.marker) with
  | some f => Text.trim (Text.before (· == ':') f)
  | none => ['0']

end ScriptDigest
