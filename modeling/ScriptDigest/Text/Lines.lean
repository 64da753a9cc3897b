import ScriptDigest.Text.Basic

/-!
# Lines

A line ends at a line feed, and one carriage return directly before that line feed belongs to the line end and not to
the line. What follows the last line feed is a line only when it is not empty, and it keeps a carriage return at its
end. No other character ends a line.
-/

namespace ScriptDigest.Text

/-- Puts a character in front of the first line, or makes it a line when there is none. -/
def consHead (c : Char) : List Text → List Text
  | [] => [[c]]
  | l :: ls => (c :: l) :: ls

/-- The lines of a text, without their line ends. -/
def lines : Text → List Text
  | [] => []
  | '\n' :: r => [] :: lines r
  | '\r' :: '\n' :: r => [] :: lines r
  | c :: r => consHead c (lines r)

/-- The lines that a text fills when it is printed with a line feed behind it. -/
def printedLines (t : Text) : List Text := lines (t ++ ['\n'])

/-- Only the empty text has no lines. -/
theorem lines_eq_nil_iff {t : Text} : lines t = [] ↔ t = [] := by
  fun_cases lines t with
  | case1 => simp
  | case2 r => simp
  | case3 r => simp
  | case4 c r => cases h : lines r <;> simp [consHead]

/-- A text that is printed fills at least one line, also when it is empty. -/
theorem printedLines_ne_nil (t : Text) : printedLines t ≠ [] := fun h =>
  List.append_ne_nil_of_right_ne_nil t (List.cons_ne_nil _ _) (lines_eq_nil_iff.mp h)

end ScriptDigest.Text
