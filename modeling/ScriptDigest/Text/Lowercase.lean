import ScriptDigest.Text.Basic
import ScriptDigest.Unicode.CaseIgnorable
import ScriptDigest.Unicode.Cased
import ScriptDigest.Unicode.Lowercase

/-!
# Lower case

The full Unicode lowercase mapping of a text. It is character by character but for two letters. The capital I with a dot
above becomes two characters. The capital sigma has two forms: the final one at the end of a word, which is where a
cased letter stands before it and none after it, and the ordinary one elsewhere.
-/

namespace ScriptDigest.Text

/-- Whether the first character of a text that is not case-ignorable is a cased one. -/
def meetsCased (t : Text) : Bool :=
  match t.dropWhile Unicode.isCaseIgnorable with
  | [] => false
  | c :: _ => Unicode.isCased c

/-- The lowercase form of a character that stands between `before`, read backwards, and `after`. -/
def lowerBetween (before : Text) (c : Char) (after : Text) : Text :=
  if c = '\u03a3' then (if meetsCased before && !meetsCased after then ['\u03c2'] else ['\u03c3'])
  else if c = '\u0130' then ['i', '\u0307']
  else [Unicode.lowerChar c]

/-- The lowercase form of a text that follows `before`, read backwards. -/
def lowerAfter (before : Text) : Text → Text
  | [] => []
  | c :: r => lowerBetween before c r ++ lowerAfter (c :: before) r

/-- The lowercase form of a text. -/
def lowercase (t : Text) : Text := lowerAfter [] t

end ScriptDigest.Text
