import ScriptDigest.Line.Shape
import ScriptDigest.Text.Lines

/-!
# The declarations of a script

The variables of the whole script and the nodes it fetches when the scene is ready, as they are written. The document
shows both groups as fence code, also a group that is empty.
-/

namespace ScriptDigest

/-- The declarations of a script in the order of its lines, variables and nodes apart. -/
structure Declarations where
  globals : List Text
  nodes : List Text
  deriving DecidableEq, Repr

namespace Declarations

/-- The declarations in a script, each without the white space at its end. -/
def ofText (text : Text) : Declarations :=
  ⟨((Text.lines text).filter fun l => decide (Line.IsGlobal l)).map Text.trimEnd,
    ((Text.lines text).filter fun l => decide (Line.IsNode l)).map Text.trimEnd⟩

/-- The number of variables. Nodes are not counted. -/
def count (d : Declarations) : Nat := d.globals.length

/-- The line that opens a fence. -/
def fenceOpening : Text := "```gdscript".toList

/-- The line that closes a fence. -/
def fenceClosing : Text := "```".toList

/-- Lines of code between fences. -/
def fence (code : List Text) : Text := Text.joinLines (fenceOpening :: code ++ [fenceClosing])

/-- Both groups as fence code, with an empty line between them. -/
def block (d : Declarations) : Text := Text.joinLines [fence d.globals, [], fence d.nodes]

end Declarations

end ScriptDigest
