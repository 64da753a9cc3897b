import Mathlib.Data.List.Basic
import ScriptDigest.Proofs.LineForms
import ScriptDigest.Synopsis

/-!
# The synopsis, told without a mode

`Synopsis.ofText` reads the lines in one pass and carries a mode from each line to the next. The same can be said of each
line by itself, with a look back at the lines before it. A line continues a signature (`Continues`) when an earlier line
starts a function and no line from there on closes the signature; it lies in a titled doc block (`InDocBlock`) when it
continues no signature and, back to a line that opens a block, there are only doc comments. `fragmentAt?` says from this what
a line contributes, and the synopsis is made of exactly these contributions (`fragments_ofText`).

Places count from zero, so that the line at place `i` bears the number `i + 1`.
-/

namespace ScriptDigest

/-! ## Looking back -/

/-- A test holds of the line at a place. -/
def At (p : Text → Prop) (ls : List Text) (i : Nat) : Prop := ∃ l ∈ ls[i]?, p l

instance (p : Text → Prop) [DecidablePred p] (ls : List Text) (i : Nat) : Decidable (At p ls i) :=
  inferInstanceAs (Decidable (∃ l ∈ _, _))

/-- `p` held at an earlier place, and `q` has held ever since: at all places strictly between. -/
def Since (p q : Nat → Prop) (i : Nat) : Prop := ∃ j, j < i ∧ p j ∧ ∀ k, k < i → j < k → q k

instance (p q : Nat → Prop) [DecidablePred p] [DecidablePred q] (i : Nat) : Decidable (Since p q i) :=
  inferInstanceAs (Decidable (∃ j, j < i ∧ _))

/-- The line at a place belongs to the signature of a function that an earlier line starts: no line from that one on holds a
closing parenthesis. The earlier line may itself belong to a signature. -/
def Continues (ls : List Text) : Nat → Prop :=
  Since (fun j => At Line.StartsFunction ls j ∧ ¬ At Line.ClosesSignature ls j)
    (fun k => ¬ At Line.ClosesSignature ls k)

instance (ls : List Text) (i : Nat) : Decidable (Continues ls i) := inferInstanceAs (Decidable (Since _ _ i))

/-- A line has the form that opens a doc block. -/
def Line.HasBriefForm (line : Text) : Prop := (LineForm.ofLine line).isBrief = true

instance (line : Text) : Decidable (Line.HasBriefForm line) := inferInstanceAs (Decidable (_ = _))

/-- A line has the form of a doc comment without a title. -/
def Line.HasDocForm (line : Text) : Prop := (LineForm.ofLine line).isDoc = true

instance (line : Text) : Decidable (Line.HasDocForm line) := inferInstanceAs (Decidable (_ = _))

/-- The line at a place belongs to no signature, and an earlier one that belongs to none opens a doc block in which only doc
comments have followed. -/
def InDocBlock (ls : List Text) (i : Nat) : Prop :=
  ¬ Continues ls i ∧ Since (fun j => ¬ Continues ls j ∧ At Line.HasBriefForm ls j) (At Line.HasDocForm ls) i

instance (ls : List Text) (i : Nat) : Decidable (InDocBlock ls i) := inferInstanceAs (Decidable (_ ∧ _))

/-- What the line at a place contributes to a synopsis. -/
def fragmentAt? (ls : List Text) (i : Nat) : Option Text :=
  ls[i]?.bind fun line =>
    if Continues ls i then some ("        ".toList ++ Text.trim line)
    else match LineForm.ofLine line with
      | .heading .one name => some ("## ".toList ++ name)
      | .heading .two name => some ("### ".toList ++ name)
      | .heading .three name => some ("#### ".toList ++ name)
      | .function _ => some ("    ".toList ++ Text.ofNat (i + 1) ++ " : ".toList ++ Text.trim line)
      | .brief title => some ("**".toList ++ title ++ "**".toList)
      | .doc body =>
        if InDocBlock ls i then some (if body = [] then ">".toList else "> *".toList ++ body ++ "*".toList)
        else some body
      | .nodeCall path => some ("    ".toList ++ path)
      | .global | .node | .comment | .blank | .plain => none

/-- The first of `n` places at which a test holds. -/
def firstPlace? (p : Nat → Prop) [DecidablePred p] (n : Nat) : Option Nat := (List.range n).find? fun i => decide (p i)

theorem firstPlace?_eq_some_iff {p : Nat → Prop} [DecidablePred p] {n i : Nat} :
    firstPlace? p n = some i ↔ p i ∧ i < n ∧ ∀ j, j < i → ¬ p j := by
  simp [firstPlace?]

theorem firstPlace?_eq_none_iff {p : Nat → Prop} [DecidablePred p] {n : Nat} :
    firstPlace? p n = none ↔ ∀ i, i < n → ¬ p i := by
  simp [firstPlace?]

/-! ## One step of looking back -/

theorem at_iff {ls : List Text} {i : Nat} {line : Text} (h : ls[i]? = some line) (p : Text → Prop) :
    At p ls i ↔ p line := by
  simp only [At, h, Option.mem_some_iff, exists_eq_left']

theorem not_since_zero (p q : Nat → Prop) : ¬ Since p q 0 := fun ⟨_, hj, _⟩ => Nat.not_lt_zero _ hj

/-- At the next place the look back ends at the last place, or goes past it. -/
theorem since_succ (p q : Nat → Prop) (i : Nat) : Since p q (i + 1) ↔ p i ∨ q i ∧ Since p q i := by
  constructor
  · rintro ⟨j, hj, hp, hq⟩
    rcases Nat.lt_succ_iff_lt_or_eq.mp hj with hj | rfl
    · exact Or.inr ⟨hq i (Nat.lt_succ_self i) hj, j, hj, hp, fun k hk => hq k (Nat.lt_succ_of_lt hk)⟩
    · exact Or.inl hp
  · rintro (hp | ⟨hi, j, hj, hp, hq⟩)
    · exact ⟨i, Nat.lt_succ_self i, hp, fun k hk hik => absurd hk (Nat.not_lt.mpr hik)⟩
    · refine ⟨j, Nat.lt_succ_of_lt hj, hp, fun k hk hjk => ?_⟩
      rcases Nat.lt_succ_iff_lt_or_eq.mp hk with hk | rfl
      · exact hq k hk hjk
      · exact hi

section step

variable {ls : List Text} {i : Nat} {line : Text} (h : ls[i]? = some line)

include h

/-- The next line continues a signature when this one is part of an open signature, its first line included. -/
theorem continues_succ : Continues ls (i + 1) ↔
    ¬ Line.ClosesSignature line ∧ (Continues ls i ∨ Line.StartsFunction line) := by
  rw [Continues, since_succ, at_iff h, at_iff h]
  constructor
  · rintro (⟨hs, hc⟩ | ⟨hc, hi⟩)
    · exact ⟨hc, Or.inr hs⟩
    · exact ⟨hc, Or.inl hi⟩
  · rintro ⟨hc, hi | hs⟩
    · exact Or.inr ⟨hc, hi⟩
    · exact Or.inl ⟨hs, hc⟩

end step

/-- A line that starts a function is no doc comment and opens no doc block. -/
theorem Line.StartsFunction.not_doc {line : Text} (h : Line.StartsFunction line) :
    ¬ Line.HasBriefForm line ∧ ¬ Line.HasDocForm line := by
  rw [Line.HasBriefForm, Line.HasDocForm, (LineForm.ofLine_eq_function_iff line _).mpr ⟨h, rfl⟩]
  exact ⟨nofun, nofun⟩

/-- Behind a line that opens a doc block and belongs to no signature, no doc comment belongs to one: neither that line nor a
doc comment starts a function. -/
theorem not_continues_of_since {ls : List Text} {i : Nat}
    (h : Since (fun j => ¬ Continues ls j ∧ At Line.HasBriefForm ls j) (At Line.HasDocForm ls) i) : ¬ Continues ls i := by
  obtain ⟨j, hj, ⟨hnc, l, hl, ho⟩, hd⟩ := h
  rintro ⟨k, hk, ⟨⟨l', hl', hs⟩, hcl⟩, hopen⟩
  rcases Nat.lt_trichotomy k j with hkj | rfl | hjk
  · exact hnc ⟨k, hkj, ⟨⟨l', hl', hs⟩, hcl⟩, fun n hn => hopen n (Nat.lt_trans hn hj)⟩
  · cases Option.mem_unique hl hl'
    exact hs.not_doc.1 ho
  · obtain ⟨l'', hl'', hc⟩ := hd k hk hjk
    cases Option.mem_unique hl' hl''
    exact hs.not_doc.2 hc

section step

variable {ls : List Text} {i : Nat} {line : Text} (h : ls[i]? = some line)

include h

/-- The next line lies in a doc block when this one opens a block or goes on with one. -/
theorem inDocBlock_succ : InDocBlock ls (i + 1) ↔
    ¬ Continues ls i ∧ (Line.HasBriefForm line ∨ Line.HasDocForm line ∧ InDocBlock ls i) := by
  have hs : (Line.HasBriefForm line ∨ Line.HasDocForm line) → ¬ Line.StartsFunction line := by
    rintro (ho | hc) hs
    · exact hs.not_doc.1 ho
    · exact hs.not_doc.2 hc
  rw [InDocBlock, since_succ, at_iff h, at_iff h, continues_succ h]
  constructor
  · rintro ⟨-, ⟨hnc, ho⟩ | ⟨hc, hi⟩⟩
    · exact ⟨hnc, Or.inl ho⟩
    · exact ⟨not_continues_of_since hi, Or.inr ⟨hc, not_continues_of_since hi, hi⟩⟩
  · rintro ⟨hnc, ho | ⟨hc, -, hi⟩⟩
    · exact ⟨fun ⟨_, hn⟩ => hn.elim hnc (hs (Or.inl ho)), Or.inl ⟨hnc, ho⟩⟩
    · exact ⟨fun ⟨_, hn⟩ => hn.elim hnc (hs (Or.inr hc)), Or.inr ⟨hc, hi⟩⟩

end step

/-! ## The mode is what a look back finds -/

namespace ReadingMode

/-- A signature is open behind a line that does not close it, and that starts it or goes on with it. -/
theorem after_eq_signature_iff (mode : ReadingMode) (line : Text) : mode.after line = .signature ↔
    ¬ Line.ClosesSignature line ∧ (mode = .signature ∨ Line.StartsFunction line) := by
  have hf : ∀ m : ReadingMode, m ≠ .signature → (m.after line = .signature ↔
      LineForm.ofLine line = .function false) := by
    intro m hm
    cases m with
    | signature => exact absurd rfl hm
    | body | docBlock =>
      simp only [after]
      split <;> simp_all
  by_cases hm : mode = .signature
  · subst hm
    by_cases hc : Line.ClosesSignature line <;> simp [after, hc]
  · rw [hf mode hm, LineForm.ofLine_eq_function_iff, or_iff_right hm, and_comm]
    simp

/-- A doc block is open behind a line of no signature that opens it, or that is a doc comment in it. -/
theorem after_eq_docBlock_iff (mode : ReadingMode) (line : Text) : mode.after line = .docBlock ↔
    mode ≠ .signature ∧ (Line.HasBriefForm line ∨ Line.HasDocForm line ∧ mode = .docBlock) := by
  cases mode with
  | signature => by_cases hc : Line.ClosesSignature line <;> simp [after, hc]
  | body | docBlock =>
    simp only [after, Line.HasBriefForm, Line.HasDocForm]
    split <;> simp_all [LineForm.isBrief, LineForm.isDoc]

end ReadingMode

/-- The mode in which the line at a place is read. -/
def modeAt (ls : List Text) (i : Nat) : ReadingMode := (ls.take i).foldl ReadingMode.after .body

theorem modeAt_succ {ls : List Text} {i : Nat} {line : Text} (h : ls[i]? = some line) :
    modeAt ls (i + 1) = (modeAt ls i).after line := by
  rw [modeAt, List.take_add_one, h, Option.toList_some, List.foldl_append]
  rfl

/-- What the lines before a place leave open is what a look back from it finds. -/
theorem modeAt_iff (ls : List Text) : ∀ i, i ≤ ls.length →
    (modeAt ls i = .signature ↔ Continues ls i) ∧ (modeAt ls i = .docBlock ↔ InDocBlock ls i) := by
  intro i
  induction i with
  | zero =>
    intro _
    exact ⟨⟨nofun, fun h => absurd h (not_since_zero _ _)⟩, ⟨nofun, fun h => absurd h.2 (not_since_zero _ _)⟩⟩
  | succ i ih =>
    intro hi
    obtain ⟨hs, hd⟩ := ih (Nat.le_of_succ_le hi)
    have h : ls[i]? = some ls[i] := List.getElem?_eq_getElem hi
    rw [modeAt_succ h, ReadingMode.after_eq_signature_iff, ReadingMode.after_eq_docBlock_iff, ne_eq, hs, hd,
      continues_succ h, inDocBlock_succ h]
    exact ⟨Iff.rfl, Iff.rfl⟩

/-! ## The synopsis place by place -/

/-- How the line at a place is read. -/
def readingAt? (ls : List Text) (i : Nat) : Option Reading := ls[i]?.map fun line => ⟨i + 1, modeAt ls i, line⟩

/-- The readings from a mode and a number on, place by place. -/
theorem readingsFrom_eq (ls : List Text) (mode : ReadingMode) (number : Nat) :
    readingsFrom mode number ls = (List.range ls.length).filterMap fun i =>
      ls[i]?.map fun line => ⟨number + i, (ls.take i).foldl ReadingMode.after mode, line⟩ := by
  induction ls generalizing mode number with
  | nil => rfl
  | cons line rest ih =>
    rw [readingsFrom, ih, List.length_cons, List.range_succ_eq_map, List.filterMap_cons]
    simp only [List.getElem?_cons_zero, Option.map_some, List.take_zero, List.foldl_nil, List.filterMap_map,
      Function.comp_def, List.getElem?_cons_succ, List.take_succ_cons, List.foldl_cons, Nat.succ_eq_add_one]
    simp only [Nat.add_assoc, Nat.add_comm 1, Nat.add_zero]

/-- What lines contribute in one pass is what they contribute place by place. -/
theorem filterMap_readingsFrom {α : Type} (f : Reading → Option α) (ls : List Text) :
    (readingsFrom .body 1 ls).filterMap f =
      (List.range ls.length).filterMap fun i => (readingAt? ls i).bind f := by
  rw [readingsFrom_eq, List.filterMap_filterMap]
  simp only [Nat.add_comm 1, readingAt?, modeAt]

/-- Outside a signature a line is read by its own form. -/
theorem Reading.fragment?_of_ne {r : Reading} (h : r.mode ≠ .signature) : r.fragment? = r.formFragment? := by
  rw [Reading.fragment?]
  split
  · rename_i hm
    exact absurd hm h
  · rfl
  · rfl

/-- A line in its mode contributes what a look back says. -/
theorem readingAt?_bind_fragment? {ls : List Text} {i : Nat} (hi : i < ls.length) :
    (readingAt? ls i).bind Reading.fragment? = fragmentAt? ls i := by
  obtain ⟨hs, hd⟩ := modeAt_iff ls i (Nat.le_of_lt hi)
  rw [readingAt?, fragmentAt?, List.getElem?_eq_getElem hi, Option.map_some, Option.bind_some, Option.bind_some]
  by_cases hc : Continues ls i
  · rw [if_pos hc, hs.mpr hc]
    rfl
  · rw [if_neg hc, Reading.fragment?_of_ne fun hm => hc (hs.mp hm), Reading.formFragment?]
    simp only [hd]
    cases LineForm.ofLine ls[i] with
    | heading level name => cases level <;> rfl
    | function closed => simp [indent]
    | doc body =>
      by_cases hb : InDocBlock ls i
      · simp only [if_pos hb, quotation]
        rfl
      · simp only [if_neg hb]
    | brief | nodeCall | global | node | comment | blank | plain => rfl

/-- The fragments of lines read in one pass are those that a look back from each place finds. -/
theorem fragments_of_lines (ls : List Text) :
    (readingsFrom .body 1 ls).filterMap Reading.fragment? = (List.range ls.length).filterMap (fragmentAt? ls) := by
  rw [filterMap_readingsFrom]
  exact List.filterMap_congr fun i hi => readingAt?_bind_fragment? (List.mem_range.mp hi)

/-- The synopsis of a text, read in one pass, shows of each line in turn what a look back from it says, and nothing else. -/
theorem fragments_ofText (text : Text) : (Synopsis.ofText text).fragments =
    (List.range (Text.lines text).length).filterMap (fragmentAt? (Text.lines text)) :=
  fragments_of_lines (Text.lines text)

end ScriptDigest
