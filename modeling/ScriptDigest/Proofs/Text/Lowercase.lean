import ScriptDigest.Proofs.Unicode

/-!
# Texts in lower case

The lowercase form of a text is made character by character, with an eye on the neighbours of a capital sigma. All it holds is
in lower case already (`isLowered_of_mem_lowercase`), and a text of such characters is its own lowercase form, whatever stands
next to what in it (`lowercase_eq_self`). So characters may be taken out of a lowercase form, or others of the kind put in, and
what is left is still in lower case: both forms of the small sigma stay as they are in any place.
-/

namespace ScriptDigest.Text

open Unicode (IsLowered)

theorem isLowered_of_mem_lowerBetween {before after : Text} {c d : Char} (h : d ∈ lowerBetween before c after) : IsLowered d := by
  unfold lowerBetween at h
  split at h
  · split at h
    · obtain rfl := List.mem_singleton.mp h
      decide +kernel
    · obtain rfl := List.mem_singleton.mp h
      decide +kernel
  · split at h
    · rcases List.mem_cons.mp h with rfl | h
      · decide +kernel
      · obtain rfl := List.mem_singleton.mp h
        decide +kernel
    · rename_i hdotted
      obtain rfl := List.mem_singleton.mp h
      exact Unicode.isLowered_lowerChar hdotted

/-- A character in lower case stays as it is between any others. -/
theorem lowerBetween_eq_self {c : Char} (h : IsLowered c) (before after : Text) : lowerBetween before c after = [c] := by
  have hsigma : c ≠ '\u03a3' := by
    rintro rfl
    exact absurd h (by decide +kernel)
  have hdotted : c ≠ '\u0130' := by
    rintro rfl
    exact absurd h (by decide +kernel)
  rw [lowerBetween, if_neg hsigma, if_neg hdotted, h.lowerChar_eq]

theorem isLowered_of_mem_lowerAfter {before t : Text} {d : Char} (h : d ∈ lowerAfter before t) : IsLowered d := by
  induction t generalizing before with
  | nil => exact absurd h List.not_mem_nil
  | cons c r ih =>
    rw [lowerAfter, List.mem_append] at h
    rcases h with h | h
    · exact isLowered_of_mem_lowerBetween h
    · exact ih h

/-- A lowercase form holds only characters in lower case. -/
theorem isLowered_of_mem_lowercase {t : Text} {d : Char} (h : d ∈ lowercase t) : IsLowered d := isLowered_of_mem_lowerAfter h

theorem lowerAfter_eq_self {t : Text} (h : ∀ c ∈ t, IsLowered c) (before : Text) : lowerAfter before t = t := by
  induction t generalizing before with
  | nil => rfl
  | cons c r ih =>
    obtain ⟨hc, hr⟩ := List.forall_mem_cons.mp h
    rw [lowerAfter, lowerBetween_eq_self hc, ih hr, List.singleton_append]

/-- A text of characters in lower case is its own lowercase form. -/
theorem lowercase_eq_self {t : Text} (h : ∀ c ∈ t, IsLowered c) : lowercase t = t := lowerAfter_eq_self h []

end ScriptDigest.Text
