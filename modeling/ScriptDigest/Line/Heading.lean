import ScriptDigest.Text.Blank

/-!
# Section headings

A script marks its sections with comment boxes of three levels: `# | Name |`, `# ===[ Name ]===` and `# ---< Name >---`.
A line is a heading of a level when it starts with the comment sign and holds both brackets of the level somewhere, in
any order. The name of a section of the first level stands between the first two bars and is trimmed. The name of a
section of the other two levels starts after an opening bracket, ends before the next bracket of either sort, and is
kept as it stands.
-/

namespace ScriptDigest

/-- The three levels of section headings. -/
inductive HeadingLevel where
  | one | two | three
  deriving DecidableEq, Repr

namespace HeadingLevel

/-- The number of a level. -/
def toNat : HeadingLevel → Nat
  | one => 1
  | two => 2
  | three => 3

/-- The bracket in front of the names of a level. -/
def opener : HeadingLevel → Text
  | one => "| ".toList
  | two => "[ ".toList
  | three => "< ".toList

/-- The bracket behind the names of a level. -/
def closer : HeadingLevel → Text
  | one => " |".toList
  | two => " ]".toList
  | three => " >".toList

/-- Whether a line is a heading of a level, unless a lower level claims it first. -/
def Marks (level : HeadingLevel) (line : Text) : Prop :=
  "#".toList <+: line ∧ line.Holds level.opener ∧ line.Holds level.closer

instance (level : HeadingLevel) (line : Text) : Decidable (level.Marks line) :=
  inferInstanceAs (Decidable (_ ∧ _ ∧ _))

/-- Whether a bracket of a level, closing or opening, begins a text. -/
def AtBracket (level : HeadingLevel) (t : Text) : Prop :=
  level.closer <+: t ∨ level.opener <+: t

instance (level : HeadingLevel) (t : Text) : Decidable (level.AtBracket t) :=
  inferInstanceAs (Decidable (_ ∨ _))

/-- A text cut before its first bracket of a level. None when a line feed comes before any bracket. -/
def cut? (level : HeadingLevel) : Text → Option Text
  | [] => some []
  | c :: r =>
    if level.AtBracket (c :: r) then some []
    else if c = '\n' then none
    else (cut? level r).map (c :: ·)

/-- The name after the first opening bracket from which one can be cut, and nothing when there is none. -/
def enclosedName (level : HeadingLevel) : Text → Text
  | [] => []
  | c :: r =>
    if level.opener <+: c :: r then
      match level.cut? ((c :: r).drop level.opener.length) with
      | some name => name
      | none => enclosedName level r
    else enclosedName level r

/-- The trimmed text between the first bar and the next one, or the end. -/
def barredName (line : Text) : Text :=
  Text.trim (Text.before (· == '|') (Text.after (· == '|') line))

/-- The name in a heading of a level. -/
def nameIn (level : HeadingLevel) (line : Text) : Text :=
  match level with
  | one => barredName line
  | two => two.enclosedName line
  | three => three.enclosedName line

end HeadingLevel

end ScriptDigest
