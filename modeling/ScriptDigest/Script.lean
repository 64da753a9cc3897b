import ScriptDigest.Declarations

/-!
# Scripts

A script is a named text. Its size is the number of its lines of code, and its kind is what its first line of code
declares: a class with a name, a script that extends another class, or something else.
-/

namespace ScriptDigest

/-- A source file, read whole. -/
structure Script where
  name : Text
  text : Text
  deriving DecidableEq, Repr

/-- The number of lines of a text that are neither blank nor comments. -/
def codeLineCount (text : Text) : Nat :=
  (Text.lines text).countP fun l => decide (Line.IsCode l)

/-- What the first line of code of a script declares. -/
inductive ScriptKind where
  /-- A class with a name. -/
  | named
  /-- A script that extends another class and has no name. -/
  | extension
  /-- Anything else. -/
  | unknown
  deriving DecidableEq, Repr

namespace ScriptKind

/-- The word for a kind. -/
def label : ScriptKind → Text
  | named => "class".toList
  | extension => "script".toList
  | unknown => "unknown".toList

/-- The place of a kind in the order of kinds. -/
def rank : ScriptKind → Nat
  | named => 0
  | extension => 1
  | unknown => 2

end ScriptKind

/-- The kind of a script and the remark that explains it. -/
structure Profile where
  kind : ScriptKind
  detail : Text
  deriving DecidableEq, Repr

namespace Profile

/-- The word that names a class. -/
def classKeyword : Text := "class_name".toList

/-- The word that names the class a script extends. -/
def extendsKeyword : Text := "extends".toList

/-- A piece of code in a remark that says what it defines. -/
def defines (code : Text) : Text := "defines `".toList ++ code ++ "`".toList

/-- The note behind the entry point. -/
def entryNote : Text := " <--- THIS IS THE MAIN SCRIPT".toList

/-- The profile of a script whose trimmed first line of code is `first`, with `next` the trimmed line after it. Only a
class name on that very line makes a named class of a script that extends another one. -/
def ofFirst (first : Text) (next : Option Text) (isEntry : Bool) : Profile :=
  if classKeyword <+: first then ⟨.named, defines first⟩
  else if extendsKeyword <+: first then
    match next.filter fun l => decide (classKeyword <+: l) with
    | some declaration => ⟨.named, defines declaration ++ " (".toList ++ first ++ [')']⟩
    | none => ⟨.extension, first ++ (if isEntry then entryNote else [])⟩
  else ⟨.unknown, "first line: ".toList ++ first⟩

/-- The profile of lines, of which those in front that hold no code are passed over. -/
def ofLines (lines : List Text) (isEntry : Bool) : Profile :=
  match lines.dropWhile fun l => !decide (Line.IsCode l) with
  | [] => ⟨.unknown, "first line: ".toList⟩
  | first :: rest => ofFirst (Text.trim first) (rest.head?.map Text.trim) isEntry

/-- The profile of a text. The remark on the entry point of a program bears a note. -/
def ofText (text : Text) (isEntry : Bool) : Profile := ofLines (Text.lines text) isEntry

end Profile

end ScriptDigest
