import Mathlib.Data.Char
import Mathlib.Data.List.Lex
import ScriptDigest.Text.Utf8

/-!
# The bytes of texts

A text has the bytes of its characters one after the other (`Text.bytes_cons`, `Text.bytes_append`). Texts are put in the order
of their characters, and files in that of the bytes of their names. These are the same order (`Text.bytes_lt_bytes`): the bytes
of two characters differ before those of either of them end, and at the first difference the smaller byte belongs to the smaller
character (`Text.encodeChar_append_lt`).
-/

namespace ScriptDigest.Text

/-- The bytes of a text, one after the other. -/
def bytes (t : Text) : List UInt8 := (toUtf8 t).data.toList

theorem bytes_eq_flatMap (t : Text) : bytes t = t.flatMap String.utf8EncodeChar := by
  rw [bytes, toUtf8, String.toUTF8, String.toByteArray_ofList, List.utf8Encode, List.toList_data_toByteArray]

theorem bytes_append (s t : Text) : bytes (s ++ t) = bytes s ++ bytes t := by
  rw [bytes_eq_flatMap, bytes_eq_flatMap, bytes_eq_flatMap, List.flatMap_append]

theorem bytes_cons (c : Char) (t : Text) : bytes (c :: t) = String.utf8EncodeChar c ++ bytes t := by
  rw [bytes_eq_flatMap, bytes_eq_flatMap, List.flatMap_cons]

/-! ## Their number -/

theorem byteCount_eq_length_bytes (t : Text) : byteCount t = (bytes t).length := rfl

theorem byteCount_append (s t : Text) : byteCount (s ++ t) = byteCount s + byteCount t := by
  rw [byteCount_eq_length_bytes, bytes_append, List.length_append]
  rfl

/-! ## Their order -/

theorem ofNat_lt_ofNat_iff {m n : Nat} (hm : m < 256) (hn : n < 256) : UInt8.ofNat m < UInt8.ofNat n ↔ m < n := by
  rw [UInt8.lt_iff_toNat_lt, UInt8.toNat_ofNat_of_lt' hm, UInt8.toNat_ofNat_of_lt' hn]

theorem ofNat_eq_ofNat_iff {m n : Nat} (hm : m < 256) (hn : n < 256) : UInt8.ofNat m = UInt8.ofNat n ↔ m = n := by
  rw [← UInt8.toNat_inj, UInt8.toNat_ofNat_of_lt' hm, UInt8.toNat_ofNat_of_lt' hn]

theorem codePoint_lt (c : Char) : c.val.toNat < 0x110000 := by
  rcases c.valid with h | ⟨-, h⟩
  · exact Nat.lt_trans h (by decide)
  · exact h

/-- The bytes of a character come before those of a greater one, whatever follows. -/
theorem encodeChar_append_lt {c d : Char} (h : c < d) (s t : List UInt8) :
    String.utf8EncodeChar c ++ s < String.utf8EncodeChar d ++ t := by
  have hlt : c.val.toNat < d.val.toNat := h
  have hc := codePoint_lt c
  have hd := codePoint_lt d
  -- The parts of a code point are its digits to the base 64, and the greater of two code points has the first greater digit.
  have htwo (n : Nat) : n / 4096 = n / 64 / 64 := (Nat.div_div_eq_div_mul n 64 64).symm
  have hthree (n : Nat) : n / 262144 = n / 64 / 64 / 64 := by rw [← htwo, Nat.div_div_eq_div_mul]
  simp only [String.utf8EncodeChar, htwo, hthree]
  generalize c.val.toNat = m at *
  generalize d.val.toNat = n at *
  split_ifs <;>
    simp only [List.cons_append, List.nil_append, List.cons_lt_cons_iff] <;>
    simp (disch := omega) only [ofNat_lt_ofNat_iff, ofNat_eq_ofNat_iff] <;>
    omega

/-- A text that comes before another one does so in bytes too. -/
theorem bytes_lt_bytes {s t : Text} (h : s < t) : bytes s < bytes t := by
  induction s generalizing t with
  | nil =>
    cases t with
    | nil => exact absurd h (List.not_lt_nil [])
    | cons d t =>
      obtain ⟨b, bs, hd⟩ := List.exists_cons_of_length_pos (String.length_utf8EncodeChar d ▸ d.utf8Size_pos)
      rw [bytes_cons, hd, List.cons_append]
      exact List.nil_lt_cons b (bs ++ bytes t)
  | cons c s ih =>
    cases t with
    | nil => exact absurd h (List.not_lt_nil _)
    | cons d t =>
      rw [bytes_cons, bytes_cons]
      rcases List.cons_lt_cons_iff.mp h with hcd | ⟨rfl, hst⟩
      · exact encodeChar_append_lt hcd _ _
      · exact List.append_left_lt (ih hst)

end ScriptDigest.Text
