import ScriptDigest.Text.Basic

/-!
# Texts in reports

Names and paths may hold characters that a terminal does not show but acts on. A report spells them out: those from the
ASCII range as `\x` with two hexadecimal digits, those above it as `\u` with the digits in braces. Line ends, tabs and
the other control characters stay as they are.
-/

namespace ScriptDigest.Text

/-- Whether a character is spelled out and belongs to the ASCII range: the bell, the backspace, the form feed, the
escape and the delete character. -/
def isSpelledAscii (c : Char) : Bool :=
  c = '\x07' || c = '\x08' || c = '\x0c' || c = '\x1b' || c = '\x7f'

/-- Whether a character is one of the control characters above the ASCII range. -/
def isUpperControl (c : Char) : Bool := 0x80 ≤ c.toNat && c.toNat ≤ 0x9F

/-- The code point of a character in two hexadecimal digits, which are enough below U+0100. -/
def hexPair (c : Char) : Text := [Nat.digitChar (c.toNat / 16), Nat.digitChar (c.toNat % 16)]

/-- A character as reports show it. -/
def spellChar (c : Char) : Text :=
  if isSpelledAscii c then '\\' :: 'x' :: hexPair c
  else if isUpperControl c then '\\' :: 'u' :: '\x7b' :: hexPair c ++ ['\x7d']
  else [c]

/-- A text as reports show it. -/
def spellOut (t : Text) : Text := t.flatMap spellChar

/-- A report shows a text as it is when there is nothing in it to spell out. -/
theorem spellOut_eq_self {t : Text} (h : ∀ c ∈ t, isSpelledAscii c = false ∧ isUpperControl c = false) :
    spellOut t = t := by
  induction t with
  | nil => rfl
  | cons c r ih =>
    obtain ⟨ha, hu⟩ := h c (List.mem_cons_self ..)
    rw [spellOut, List.flatMap_cons, spellChar, ha, hu, if_neg nofun, if_neg nofun, List.singleton_append]
    exact congrArg _ (ih fun d hd => h d (List.mem_cons_of_mem c hd))

end ScriptDigest.Text
