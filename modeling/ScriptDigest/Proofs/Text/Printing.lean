import ScriptDigest.Proofs.Text.Trimming
import ScriptDigest.Text.Lines

/-!
# Lines and numbers in print

Three facts on how texts are taken apart and put together. A line holds no line feed (`newline_not_mem_of_mem_lines`). A
marker without a line feed is found in joined lines exactly when it is found in one of them (`holds_joinLines_iff`). A
printed number is made of digits only, and it is read back from them (`toNat_ofNat`).
-/

namespace ScriptDigest.Text

/-! ## Lines hold no line feed -/

theorem newline_not_mem_of_mem_consHead {c : Char} {ls : List Text} (hc : c ≠ '\n') (h : ∀ l ∈ ls, '\n' ∉ l) :
    ∀ l ∈ consHead c ls, '\n' ∉ l := by
  cases ls with
  | nil => simpa [consHead] using hc.symm
  | cons l ls =>
    intro l' hl'
    rcases List.mem_cons.mp hl' with rfl | hl'
    · rw [List.mem_cons, not_or]
      exact ⟨hc.symm, h l List.mem_cons_self⟩
    · exact h l' (List.mem_cons_of_mem l hl')

/-- No line holds a line feed. -/
theorem newline_not_mem_of_mem_lines (t : Text) : ∀ l ∈ lines t, '\n' ∉ l := by
  fun_induction lines t with
  | case1 => nofun
  | case2 r ih =>
    intro l hl
    rcases List.mem_cons.mp hl with rfl | hl
    · nofun
    · exact ih l hl
  | case3 r ih =>
    intro l hl
    rcases List.mem_cons.mp hl with rfl | hl
    · nofun
    · exact ih l hl
  | case4 c r hlf _ ih => exact newline_not_mem_of_mem_consHead (fun h => hlf h) ih

/-! ## Finding a marker in joined lines -/

/-- A marker that a text in front of a break begins with ends before the break. -/
theorem prefix_append_cons_iff {c : Char} {m : Text} (h : c ∉ m) (a b : Text) : m <+: a ++ c :: b ↔ m <+: a := by
  constructor
  · intro hm
    have ha : a ++ [c] <+: a ++ c :: b := ⟨b, by rw [List.append_assoc, List.singleton_append]⟩
    rcases List.prefix_or_prefix_of_prefix hm ha with hm | hm
    · rcases List.prefix_concat_iff.mp hm with rfl | hm
      · exact absurd (List.mem_append_right a List.mem_cons_self) h
      · exact hm
    · exact absurd (hm.subset (List.mem_append_right a List.mem_cons_self)) h
  · intro hm
    exact hm.trans (List.prefix_append a _)

/-- A marker does not reach over a character that it does not hold. -/
theorem holds_append_cons_iff {c : Char} {m : Text} (h : c ∉ m) (a b : Text) :
    Holds (a ++ c :: b) m ↔ a.Holds m ∨ b.Holds m := by
  induction a with
  | nil =>
    have hp : m <+: c :: b ↔ m = [] := by
      rw [List.prefix_cons_iff]
      refine or_iff_left ?_
      rintro ⟨r, rfl, -⟩
      exact h List.mem_cons_self
    simp only [Holds, List.nil_append, List.infix_cons_iff, hp, List.infix_nil]
  | cons d a ih =>
    have hp := prefix_append_cons_iff h (d :: a) b
    simp only [Holds, List.cons_append] at ih hp ⊢
    rw [List.infix_cons_iff, hp, ih, ← or_assoc, ← List.infix_cons_iff]

theorem joinLines_cons_cons (t t' : Text) (ts : List Text) :
    joinLines (t :: t' :: ts) = t ++ '\n' :: joinLines (t' :: ts) := by
  simp [joinLines, List.intercalate]

/-- The first of joined lines stands at the beginning. -/
theorem prefix_joinLines (t : Text) (ts : List Text) : t <+: joinLines (t :: ts) := by
  cases ts with
  | nil => exact ⟨[], by simp [joinLines]⟩
  | cons t' ts =>
    rw [joinLines_cons_cons]
    exact List.prefix_append t _

/-- A marker without a line feed is found in joined lines exactly when it is found in one of them. -/
theorem holds_joinLines_iff {m : Text} (hne : m ≠ []) (h : '\n' ∉ m) (ts : List Text) :
    (joinLines ts).Holds m ↔ ∃ t ∈ ts, t.Holds m := by
  induction ts with
  | nil => simpa [joinLines, Holds] using hne
  | cons t ts ih =>
    cases ts with
    | nil => simp [joinLines]
    | cons t' ts =>
      rw [joinLines_cons_cons, holds_append_cons_iff h, ih]
      simp only [List.mem_cons, exists_eq_or_imp]

/-! ## Printed numbers -/

theorem isDigit_of_mem_ofNat {n : Nat} {c : Char} (h : c ∈ ofNat n) : c.isDigit = true :=
  Nat.isDigit_of_mem_toDigits (by decide) (by decide) h

/-- A character that is no digit does not stand in a printed number. -/
theorem not_mem_ofNat {c : Char} (h : c.isDigit = false) (n : Nat) : c ∉ ofNat n := by
  intro hc
  rw [isDigit_of_mem_ofNat hc] at h
  nomatch h

theorem ofNat_ne_nil (n : Nat) : ofNat n ≠ [] := Nat.toDigits_ne_nil

/-- The number that digits print. -/
def toNat (digits : Text) : Nat := Nat.ofDigitChars 10 digits 0

/-- A printed number is read back. -/
theorem toNat_ofNat (n : Nat) : toNat (ofNat n) = n := Nat.ofDigitChars_ten_toDigits

/-- No two numbers are printed alike. -/
theorem ofNat_injective {m n : Nat} (h : ofNat m = ofNat n) : m = n := by
  rw [← toNat_ofNat m, h, toNat_ofNat]

theorem isWhiteSpace_of_isDigit {c : Char} (h : c.isDigit = true) : Unicode.isWhiteSpace c = false := by
  obtain ⟨h0, h9⟩ : 48 ≤ c.toNat ∧ c.toNat ≤ 57 := by
    simpa [Char.isDigit, UInt32.le_iff_toNat_le] using h
  simp only [Unicode.isWhiteSpace, Unicode.whiteSpaceRanges, Unicode.CodeRange.contains, List.any_cons, List.any_nil,
    Bool.or_eq_false_iff, Bool.and_eq_false_iff, decide_eq_false_iff_not, and_true]
  omega

/-- A printed number survives trimming. -/
theorem firm_ofNat (n : Nat) : Firm Unicode.isWhiteSpace (ofNat n) :=
  Firm.of_forall (ofNat_ne_nil n) fun _ hc => isWhiteSpace_of_isDigit (isDigit_of_mem_ofNat hc)

/-! ## Texts in columns -/

theorem alignRight_eq (width : Nat) (t : Text) : alignRight width t = List.replicate (width - t.length) ' ' ++ t := rfl

theorem not_mem_alignRight {c : Char} {t : Text} (hblank : c ≠ ' ') (h : c ∉ t) (width : Nat) : c ∉ alignRight width t := by
  rw [alignRight_eq, List.mem_append, not_or]
  exact ⟨fun hc => hblank (List.eq_of_mem_replicate hc), h⟩

end ScriptDigest.Text
