import ScriptDigest.Text.Blank
import ScriptDigest.Text.Lowercase
import ScriptDigest.Unicode.Alphabetic
import ScriptDigest.Unicode.Numeric

/-!
# The table of contents

A table of contents lists the sections of the first level with the line each of them starts on. An item of it is a
Markdown link to the section in the finished document. The target of the link is the anchor that a Markdown viewer gives
to a heading: the name in lower case, without punctuation, and with a hyphen for each space.
-/

namespace ScriptDigest

/-- Whether a character is alphabetic or numeric. -/
def Unicode.isAlphanumeric (c : Char) : Bool :=
  isAlphabetic c || isNumeric c

/-- A section and the number of the line it starts on. -/
structure ContentsEntry where
  line : Nat
  name : Text
  deriving DecidableEq, Repr

/-- Whether a character of a name is kept in its anchor. -/
def staysInAnchor (c : Char) : Bool :=
  Unicode.isAlphanumeric c || c == ' ' || c == '-' || c == '_'

/-- The anchor of a heading: its name trimmed, in lower case, less all punctuation but hyphen and underscore, with a
hyphen for each space. -/
def anchor (name : Text) : Text :=
  ((Text.lowercase (Text.trim name)).filter staysInAnchor).map fun c => if c = ' ' then '-' else c

/-- The item of a table of contents that links into the document called `target`. -/
def ContentsEntry.item (e : ContentsEntry) (target : Text) : Text :=
  "- [".toList ++ Text.ofNat e.line ++ " : ".toList ++ e.name ++ "](".toList ++ target ++ '#' :: anchor e.name ++ [')']

end ScriptDigest
