import ScriptDigest.Line.Heading
import ScriptDigest.Line.Shape

/-!
# The form of a line

Each line of a script, taken by itself, has one form. The forms are tried in a fixed order and the first that fits is
taken: a comment box is a heading before it is a doc comment, a line that looks a node up shows its path before it
counts as a declaration, and so on.
-/

namespace ScriptDigest

/-- The forms of a line, with what a synopsis shows of them. -/
inductive LineForm where
  /-- A comment box that names a section. -/
  | heading (level : HeadingLevel) (name : Text)
  /-- The first line of a function, and whether its signature ends there. -/
  | function (closed : Bool)
  /-- The titled first line of a doc block. -/
  | brief (title : Text)
  /-- A doc comment. -/
  | doc (body : Text)
  /-- A line that looks a node up, with the path it looks for. -/
  | nodeCall (path : Text)
  /-- A variable of the whole script. -/
  | global
  /-- A variable of the whole script that holds a resource fetched when the scene is ready. -/
  | node
  /-- Any other comment. -/
  | comment
  /-- The empty line. -/
  | blank
  /-- Any other line. -/
  | plain
  deriving DecidableEq, Repr

/-- The level of a heading, the lowest one that the line is marked for. -/
def HeadingLevel.ofLine? (line : Text) : Option HeadingLevel :=
  [HeadingLevel.one, .two, .three].find? (·.Marks line)

/-- The form of a line that is not a heading. -/
def LineForm.ofContent (line : Text) : LineForm :=
  if Line.StartsFunction line then .function (Line.ClosesSignature line)
  else if Line.IsDoc line then
    if line.Holds Line.briefMark then .brief (Line.briefTitle line) else .doc (Line.docBody line)
  else if line.Holds Line.nodeCall then .nodeCall (Line.callArgument line)
  else if Line.IsGlobal line then .global
  else if Line.IsNode line then .node
  else if Line.IsComment line then .comment
  else if Line.IsBlank line then .blank
  else .plain

/-- The form of a line. -/
def LineForm.ofLine (line : Text) : LineForm :=
  match HeadingLevel.ofLine? line with
  | some level => .heading level (level.nameIn line)
  | none => LineForm.ofContent line

end ScriptDigest
