import ScriptDigest.Text.Blank

/-!
# What a single line declares

Tests on one line of a script. Only declarations that start in the first column count: an indented one belongs to a
function. A declaration that looks a node of the scene tree up, or preloads a resource, is set apart from a plain
variable.
-/

namespace ScriptDigest.Line

/-- A call that looks a node of the scene tree up. -/
def nodeCall : Text := "get_node(".toList

/-- A call that loads a resource together with the script. -/
def preloadCall : Text := "preload(".toList

/-- The beginnings of a declaration that is filled in when the scene is ready. -/
def onreadyKeywords : List Text := ["onready var ".toList, "@onready var ".toList]

/-- The beginnings of a variable declaration. -/
def globalKeywords : List Text := "var ".toList :: onreadyKeywords

/-- The first visible character is the comment sign. -/
def IsComment (line : Text) : Prop := "#".toList <+: Text.trim line

instance (line : Text) : Decidable (IsComment line) := inferInstanceAs (Decidable (_ <+: _))

/-- The first visible characters are two comment signs. -/
def IsDoc (line : Text) : Prop := "##".toList <+: Text.trim line

instance (line : Text) : Decidable (IsDoc line) := inferInstanceAs (Decidable (_ <+: _))

/-- The line holds no character at all. A line of white space is not blank. -/
def IsBlank (line : Text) : Prop := line = []

instance (line : Text) : Decidable (IsBlank line) := inferInstanceAs (Decidable (_ = _))

/-- The line is neither blank nor a comment. -/
def IsCode (line : Text) : Prop := ¬ IsBlank line ∧ ¬ IsComment line

instance (line : Text) : Decidable (IsCode line) := inferInstanceAs (Decidable (_ ∧ _))

/-- The line takes a node or a resource from outside the script. -/
def Fetches (line : Text) : Prop := line.Holds nodeCall ∨ line.Holds preloadCall

instance (line : Text) : Decidable (Fetches line) := inferInstanceAs (Decidable (_ ∨ _))

/-- The line declares a variable of the whole script that fetches nothing. -/
def IsGlobal (line : Text) : Prop := (∃ k ∈ globalKeywords, k <+: line) ∧ ¬ Fetches line

instance (line : Text) : Decidable (IsGlobal line) := inferInstanceAs (Decidable (_ ∧ _))

/-- The line declares a variable of the whole script that is fetched when the scene is ready. -/
def IsNode (line : Text) : Prop := (∃ k ∈ onreadyKeywords, k <+: line) ∧ Fetches line

instance (line : Text) : Decidable (IsNode line) := inferInstanceAs (Decidable (_ ∧ _))

/-- The line starts the signature of a function. -/
def StartsFunction (line : Text) : Prop := "func ".toList <+: line

instance (line : Text) : Decidable (StartsFunction line) := inferInstanceAs (Decidable (_ <+: _))

/-- The line holds a closing parenthesis, which is where a signature ends. -/
def ClosesSignature (line : Text) : Prop := ')' ∈ line

instance (line : Text) : Decidable (ClosesSignature line) := inferInstanceAs (Decidable (_ ∈ _))

/-- The mark of a doc comment that opens a doc block with a title. -/
def briefMark : Text := "\\brief".toList

/-- The body of a doc comment: the trimmed line without the comment signs in front, trimmed once more. -/
def docBody (line : Text) : Text := Text.trim ((Text.trim line).dropWhile (· == '#'))

/-- The title of a doc block: the body of its first line without the mark. -/
def briefTitle (line : Text) : Text := Text.trim (Text.eraseFirst briefMark (docBody line))

/-- What stands between the first opening parenthesis of a line and the next parenthesis of either sort, less the
quotation marks at its ends. In a nested call this is the name of the inner function. -/
def callArgument (line : Text) : Text :=
  Text.strip (· == '"') (Text.before (fun c => c == '(' || c == ')') (Text.after (· == '(') line))

end ScriptDigest.Line
