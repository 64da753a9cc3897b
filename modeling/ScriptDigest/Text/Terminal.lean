import ScriptDigest.Text.Basic

/-!
# What a terminal shows

A terminal does not show control characters and escape sequences. An escape sequence begins with the escape character;
what follows tells how far it goes. With `[` it is a control sequence, which a letter or a sign like one ends. With `P`
it is a device control string, and with `]` a system command; these run up to a character that breaks off any sequence,
or up to an end of their own. The other kinds are short. Tabs, line feeds, form feeds and carriage returns are kept,
also in the middle of a control sequence, which they suspend: what follows is shown as text up to the next control
character.
-/

namespace ScriptDigest

/-- What a terminal is in the middle of. -/
inductive TerminalMode where
  /-- Plain text. -/
  | text
  /-- A sequence of which only the escape character has come. -/
  | escape
  /-- An escape sequence whose last character is to come. -/
  | escapeTail
  /-- A control sequence. -/
  | control
  /-- A device control string that has just begun. -/
  | device
  /-- The parameters of a device control string. -/
  | deviceParameters
  /-- The signs behind the parameters of a device control string. -/
  | deviceSigns
  /-- A string without meaning to the terminal. -/
  | string
  /-- A system command. -/
  | command
  deriving DecidableEq, Repr

namespace TerminalMode

/-- Whether the code point of a character lies within bounds. -/
def within (low high : Nat) (c : Char) : Bool := low ≤ c.toNat && c.toNat ≤ high

/-- Whether a character is a tab, a line feed, a form feed or a carriage return. -/
def isMove (c : Char) : Bool := c = '\t' || c = '\n' || c = '\x0c' || c = '\r'

/-- Whether plain text shows a character: one of the moves, or any but the control characters of the ASCII range. -/
def isPlain (c : Char) : Bool := isMove c || (0x20 ≤ c.toNat && c ≠ '\x7f')

/-- Whether a terminal keeps a character. -/
def shows : TerminalMode → Char → Bool
  | text, c => isPlain c
  | escape, c | escapeTail, c | control, c => isMove c
  | device, _ | deviceParameters, _ | deviceSigns, _ | string, _ | command, _ => false

/-- What the escape character and one behind it begin. -/
def afterEscape (c : Char) : TerminalMode :=
  if c = '[' then control
  else if c = 'P' then device
  else if c = ']' then command
  else if c = 'X' || c = '^' || c = '_' then string
  else if within 0x20 0x2F c then escapeTail
  else if within 0x30 0x7E c then text
  else escape

/-- What a character at the beginning of a device control string leads to. Parameters are the characters from `0` to the
last one that may stand there; the first other character that is not a sign leads into the string itself. -/
def nextInDevice (stay : TerminalMode) (lastParameter : Nat) (c : Char) : TerminalMode :=
  if within 0x20 0x2F c then deviceSigns
  else if within 0x30 lastParameter c then deviceParameters
  else if within 0x30 0x7E c then string
  else stay

/-- What a terminal is in the middle of after a character that it does not keep. The escape character begins a sequence
anew, and the characters cancel and substitute break any off. The byte 9C ends a string, also where it is part of
another character. -/
def next (m : TerminalMode) (c : Char) : TerminalMode :=
  if c = '\x1b' then escape
  else if c = '\x18' || c = '\x1a' then text
  else
    match m with
    | text => text
    | escape => afterEscape c
    | escapeTail => if within 0x30 0x7E c then text else escapeTail
    | control => if within 0x40 0x7E c then text else control
    | device => nextInDevice device 0x3F c
    | deviceParameters => nextInDevice deviceParameters 0x3B c
    | deviceSigns => nextInDevice deviceSigns 0x2F c
    | string => if 0x9C ∈ String.utf8EncodeChar c then text else string
    | command => if c = '\x07' then text else command

/-- What a terminal shows of a text that it meets in the middle of something, which may be suspended. A character from
beyond the ASCII range ends what is suspended. -/
def visible (m : TerminalMode) (suspended : Bool) : Text → Text
  | [] => []
  | c :: rest =>
    if m.shows c || suspended && isPlain c then
      c :: visible (if c.toNat < 0x80 then m else text) true rest
    else visible (m.next c) false rest

/-- What a terminal keeps is plain. -/
theorem isPlain_of_shows {m : TerminalMode} {c : Char} (h : m.shows c = true) : isPlain c = true := by
  cases m with
  | text => exact h
  | escape | escapeTail | control => rw [isPlain, show isMove c = true from h, Bool.true_or]
  | device | deviceParameters | deviceSigns | string | command => cases h

/-- Whatever a terminal is in the middle of, it shows plain characters only. -/
theorem isPlain_of_mem_visible {m : TerminalMode} {suspended : Bool} {t : Text} {c : Char}
    (h : c ∈ m.visible suspended t) : isPlain c = true := by
  fun_induction visible m suspended t with
  | case1 => cases h
  | case2 m suspended d rest hd ih =>
    rcases List.mem_cons.mp h with rfl | h
    · rcases Bool.or_eq_true_iff.mp hd with hd | hd
      · exact isPlain_of_shows hd
      · exact (Bool.and_eq_true_iff.mp hd).2
    · exact ih h
  | case3 m suspended d rest hd ih => exact ih h

end TerminalMode

/-- What a terminal shows of a text. A sequence that is not complete at the end of the text is left out. -/
def Text.visible (t : Text) : Text := TerminalMode.text.visible false t

/-- Of a text of plain characters a terminal shows everything. -/
theorem Text.visible_eq_self {t : Text} (h : ∀ c ∈ t, TerminalMode.isPlain c = true) : t.visible = t := by
  suffices key : ∀ s, TerminalMode.text.visible s t = t from key false
  induction t with
  | nil => exact fun _ => rfl
  | cons c r ih =>
    intro s
    rw [TerminalMode.visible, TerminalMode.shows, h c (List.mem_cons_self ..), Bool.true_or, if_pos rfl, ite_self,
      ih fun d hd => h d (List.mem_cons_of_mem c hd)]

end ScriptDigest
