import ScriptDigest.Contents

/-!
# What holds of the tables of characters

Two facts about all characters that rest on the tables. No white space is alphanumeric (`isAlphanumeric_eq_false`): the ranges of
the one class and those of the other lie apart. What the lowercase mapping sends a single character to has no other lowercase form
(`isLowered_lowerChar`): none of the code points that the runs give is one of those that the runs send. These are two sets of more
than a thousand code points each, so they are compared as sets of binary digits, all members at once.
-/

namespace ScriptDigest.Unicode

/-! ## Classes without a common character -/

/-- Whether two ranges lie apart. -/
def CodeRange.isApart (r s : CodeRange) : Bool := r.last < s.first || s.last < r.first

theorem CodeRange.contains_eq_false {r s : CodeRange} (h : r.isApart s = true) {c : Char} (hc : r.contains c = true) :
    s.contains c = false := by
  simp only [isApart, Bool.or_eq_true, decide_eq_true_eq] at h
  simp only [contains, Bool.and_eq_true, decide_eq_true_eq] at hc
  simp only [contains, Bool.and_eq_false_iff, decide_eq_false_iff_not]
  omega

/-- Two classes whose ranges lie apart have no character in common. -/
theorem any_contains_eq_false {rs ss : List CodeRange} (h : (rs.all fun r => ss.all r.isApart) = true) {c : Char}
    (hc : rs.any (·.contains c) = true) : ss.any (·.contains c) = false := by
  obtain ⟨r, hr, hrc⟩ := List.any_eq_true.mp hc
  rw [List.any_eq_false]
  intro s hs
  have hapart : r.isApart s = true := List.all_eq_true.mp (List.all_eq_true.mp h r hr) s hs
  rw [CodeRange.contains_eq_false hapart hrc]
  exact Bool.false_ne_true

/-- No white space is alphanumeric. -/
theorem isAlphanumeric_eq_false {c : Char} (h : isWhiteSpace c = true) : isAlphanumeric c = false := by
  have halphabetic : isAlphabetic c = false := any_contains_eq_false (by decide +kernel) h
  have hnumeric : isNumeric c = false := any_contains_eq_false (by decide +kernel) h
  rw [isAlphanumeric, halphabetic, hnumeric, Bool.or_self]

/-! ## Sets of numbers as binary digits -/

/-- The number whose binary digits are one at the places that a list names. -/
def bits (places : List Nat) : Nat := places.foldr (fun n m => m ||| 1 <<< n) 0

theorem testBit_bits {places : List Nat} {n : Nat} : (bits places).testBit n = true ↔ n ∈ places := by
  induction places with
  | nil => simp [bits]
  | cons a places ih =>
    rw [bits, List.foldr_cons, Nat.testBit_or, Bool.or_eq_true, Nat.one_shiftLeft, Nat.testBit_two_pow, ← bits, ih,
      List.mem_cons, decide_eq_true_iff, or_comm, eq_comm]

/-- Two lists have no number in common when no binary digit is one for both. -/
theorem not_mem_of_bits {as bs : List Nat} (h : bits as &&& bits bs = 0) {n : Nat} (ha : n ∈ as) : n ∉ bs := by
  intro hb
  have hcommon : (bits as &&& bits bs).testBit n = true := by
    rw [Nat.testBit_and, testBit_bits.mpr ha, testBit_bits.mpr hb, Bool.and_self]
  rw [h, Nat.zero_testBit] at hcommon
  nomatch hcommon

/-! ## The runs of the lowercase mapping -/

namespace LowerRun

/-- How many code points a run sends. -/
def count (r : LowerRun) : Nat := (r.last - r.first) / r.stride + 1

/-- The code points that a run sends. -/
def sources (r : LowerRun) : List Nat := List.range' r.first r.count r.stride

/-- The lowercase forms that a run gives. -/
def forms (r : LowerRun) : List Nat := List.range' r.lower r.count r.stride

theorem mem_of_form? {r : LowerRun} {n m : Nat} (h : r.form? n = some m) : n ∈ r.sources ∧ m ∈ r.forms := by
  rw [form?, Option.ite_none_right_eq_some, Option.some_inj] at h
  obtain ⟨⟨hfirst, hlast, hstride⟩, rfl⟩ := h
  have hstep : r.stride * ((n - r.first) / r.stride) = n - r.first := Nat.mul_div_cancel' (Nat.dvd_of_mod_eq_zero hstride)
  have hcount : (n - r.first) / r.stride < r.count := Nat.lt_succ_of_le (Nat.div_le_div_right (Nat.sub_le_sub_right hlast _))
  constructor
  · exact List.mem_range'.mpr ⟨_, hcount, by rw [hstep, Nat.add_sub_cancel' hfirst]⟩
  · exact List.mem_range'.mpr ⟨_, hcount, by rw [hstep]⟩

end LowerRun

/-- The capital I with a dot above, whose lowercase form begins with an i, as a run of its own. -/
def dottedRun : LowerRun := ⟨0x130, 0x130, 1, 0x69⟩

/-- No lowercase form that a run gives is sent to another one. -/
theorem form?_eq_none_of_form? {r s : LowerRun} (hr : r ∈ lowerRuns) (hs : s ∈ dottedRun :: lowerRuns) {n m : Nat}
    (h : r.form? n = some m) : s.form? m = none := by
  have hbits : bits (lowerRuns.flatMap LowerRun.forms) &&& bits ((dottedRun :: lowerRuns).flatMap LowerRun.sources) = 0 := by
    decide +kernel
  have hm : m ∉ (dottedRun :: lowerRuns).flatMap LowerRun.sources :=
    not_mem_of_bits hbits (List.mem_flatMap.mpr ⟨r, hr, (LowerRun.mem_of_form? h).2⟩)
  rw [Option.eq_none_iff_forall_ne_some]
  intro k hk
  exact hm (List.mem_flatMap.mpr ⟨s, hs, (LowerRun.mem_of_form? hk).1⟩)

/-- A lowercase form that a run gives is the code point of a character. -/
theorem isValidChar_of_form? {r : LowerRun} (hr : r ∈ lowerRuns) {n m : Nat} (h : r.form? n = some m) : m.isValidChar := by
  have hall : ((lowerRuns.flatMap LowerRun.forms).all fun m => decide m.isValidChar) = true := by decide +kernel
  exact of_decide_eq_true (List.all_eq_true.mp hall m (List.mem_flatMap.mpr ⟨r, hr, (LowerRun.mem_of_form? h).2⟩))

/-! ## Characters without another lowercase form -/

/-- A character has no lowercase form but itself: no run sends it to another one. -/
def IsLowered (c : Char) : Prop := ∀ r ∈ dottedRun :: lowerRuns, r.form? c.toNat = none

instance (c : Char) : Decidable (IsLowered c) := inferInstanceAs (Decidable (∀ r ∈ _, _))

/-- A character that no run holds is its own lowercase form. -/
theorem lowerChar_eq_self {c : Char} (h : lowerRuns.findSome? (·.form? c.toNat) = none) : lowerChar c = c := by
  rw [lowerChar, lowerCode, h, Option.getD_none, Char.ofNat_toNat]

theorem IsLowered.lowerChar_eq {c : Char} (h : IsLowered c) : lowerChar c = c :=
  lowerChar_eq_self (List.findSome?_eq_none_iff.mpr fun r hr => h r (List.mem_cons_of_mem _ hr))

/-- A lowercase form has no lowercase form but itself. -/
theorem isLowered_lowerChar {c : Char} (h : c ≠ '\u0130') : IsLowered (lowerChar c) := by
  cases hfind : lowerRuns.findSome? (·.form? c.toNat) with
  | none =>
    have hdotted : dottedRun.form? c.toNat = none := by
      refine if_neg ?_
      rintro ⟨hfirst, hlast, -⟩
      exact h (Char.toNat_inj.mp (Nat.le_antisymm hlast hfirst))
    rw [lowerChar_eq_self hfind]
    exact List.forall_mem_cons.mpr ⟨hdotted, List.findSome?_eq_none_iff.mp hfind⟩
  | some m =>
    obtain ⟨r, hr, hform⟩ := List.exists_of_findSome?_eq_some hfind
    have hcode : (lowerChar c).toNat = m := by
      rw [lowerChar, lowerCode, hfind, Option.getD_some, Char.ofNat, dif_pos (isValidChar_of_form? hr hform)]
      rfl
    intro s hs
    rw [hcode]
    exact form?_eq_none_of_form? hr hs hform

end ScriptDigest.Unicode
