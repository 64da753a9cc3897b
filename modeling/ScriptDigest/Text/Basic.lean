/-!
# Text

A text is the list of its characters. Everything the library reads and writes is a text: a line, a name, a path, a whole
file. Here are the operations that ask nothing of a character but equality, or a test that is passed to them; white
space is in `Text/Blank`, and the division into lines in `Text/Lines`.
-/

namespace ScriptDigest

/-- A text is the list of its characters. -/
abbrev Text := List Char

namespace Text

/-- The texts in order, with a line feed between each two of them. -/
def joinLines (ts : List Text) : Text := ['\n'].intercalate ts

/-- A text less the longest run of characters at its end that pass the test. -/
def dropEndWhile (p : Char → Bool) (t : Text) : Text := (t.reverse.dropWhile p).reverse

/-- A text less the longest runs of characters at both its ends that pass the test. -/
def strip (p : Char → Bool) (t : Text) : Text := dropEndWhile p (t.dropWhile p)

/-- The characters before the first one that passes the test. -/
def before (p : Char → Bool) (t : Text) : Text := t.takeWhile (!p ·)

/-- The characters after the first one that passes the test; none when no character does. -/
def after (p : Char → Bool) (t : Text) : Text := (t.dropWhile (!p ·)).tail

/-- A text less the first occurrence of a marker in it. -/
def eraseFirst (marker : Text) : Text → Text
  | [] => []
  | c :: r => if marker <+: c :: r then (c :: r).drop marker.length else c :: eraseFirst marker r

/-- A marker stands somewhere in a text. -/
def Holds (t marker : Text) : Prop := marker <:+: t

instance (t marker : Text) : Decidable (t.Holds marker) := List.instDecidableIsInfixOfDecidableEq marker t

/-- Whether a text stands no later than another one in the order of code points, in which a text stands before its
continuations. -/
def precedes : Text → Text → Bool
  | [], _ => true
  | _ :: _, [] => false
  | a :: s, b :: t => a.toNat < b.toNat || a == b && precedes s t

/-- A number in decimal digits, without leading zeros. -/
def ofNat (n : Nat) : Text := Nat.toDigits 10 n

/-- A text set flush right in a column: blanks in front of it up to the width, and the whole text when it is wider. -/
def alignRight (width : Nat) (t : Text) : Text := t.leftpad width ' '

end Text

end ScriptDigest
