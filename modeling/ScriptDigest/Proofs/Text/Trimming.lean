import ScriptDigest.Text.Blank

/-!
# What trimming keeps

Statements about `strip`, `before` and `after`, the operations that cut a text at characters that pass a test. A text with
firm ends (`Firm`: neither its first nor its last character passes the test) survives stripping wherever it stands: it is
found in the stripped text exactly when it was there before (`holds_strip_iff`), and it is all that is left when only
characters that pass the test stand around it (`strip_append_append`). What is left of any text has firm ends or is empty
(`firm_strip`). Of the occurrences of a marker, the first one is erased (`exists_firstBetween`).
-/

namespace ScriptDigest.Text

/-! ## Nothing new -/

/-- The text without its end is a beginning of the text. -/
theorem dropEndWhile_isPrefix (p : Char → Bool) (t : Text) : dropEndWhile p t <+: t := by
  have h : (t.reverse.dropWhile p).reverse <+: t.reverse.reverse :=
    List.reverse_prefix.mpr (List.dropWhile_suffix p)
  rwa [List.reverse_reverse] at h

/-- Stripping a text adds no character. -/
theorem strip_subset (p : Char → Bool) (t : Text) : strip p t ⊆ t := by
  intro c hc
  exact (List.dropWhile_suffix p).subset ((dropEndWhile_isPrefix p _).subset hc)

theorem trim_subset (t : Text) : trim t ⊆ t := strip_subset _ t

theorem before_subset (p : Char → Bool) (t : Text) : before p t ⊆ t := (List.takeWhile_prefix _).subset

theorem after_subset (p : Char → Bool) (t : Text) : after p t ⊆ t := by
  intro c hc
  exact (List.dropWhile_suffix _).subset (List.mem_of_mem_tail hc)

/-- Erasing a marker adds no character. -/
theorem eraseFirst_subset (marker t : Text) : eraseFirst marker t ⊆ t := by
  induction t with
  | nil => exact List.Subset.refl _
  | cons c r ih =>
    rw [eraseFirst]
    split
    · exact (List.drop_suffix _ _).subset
    · exact List.cons_subset_cons c ih

/-! ## Cutting at a character -/

/-- No character before the cut passes the test. -/
theorem not_of_mem_before {p : Char → Bool} {t : Text} {c : Char} (hc : c ∈ before p t) : p c = false := by
  have h : t.takeWhile (!p ·) |>.all (!p ·) := List.all_takeWhile
  simpa using List.all_eq_true.mp h c hc

/-- The cut lies behind a text in which no character passes the test. -/
theorem before_append {p : Char → Bool} {a : Text} (h : ∀ c ∈ a, p c = false) (b : Text) :
    before p (a ++ b) = a ++ before p b :=
  List.takeWhile_append_of_pos fun c hc => by simp [h c hc]

/-- The cut at a character lies behind a text that does not hold it. -/
theorem before_append_of_not_mem {d : Char} {a : Text} (h : d ∉ a) (b : Text) :
    before (· == d) (a ++ b) = a ++ before (· == d) b := by
  refine before_append (fun c hc => ?_) b
  rw [beq_eq_false_iff_ne]
  rintro rfl
  exact h hc

theorem before_cons_of_pos {p : Char → Bool} {c : Char} (h : p c = true) (b : Text) : before p (c :: b) = [] := by
  rw [before, List.takeWhile_cons, if_neg (by simp [h])]

theorem before_cons_of_neg {p : Char → Bool} {c : Char} (h : p c = false) (b : Text) :
    before p (c :: b) = c :: before p b := by
  rw [before, List.takeWhile_cons, if_pos (by simp [h]), before]

/-- What comes after the first occurrence of a character. -/
theorem after_append_cons {d : Char} {front : Text} (h : d ∉ front) (r : Text) :
    after (· == d) (front ++ d :: r) = r := by
  have hfront : ∀ c ∈ front, (!(c == d)) = true := by
    intro c hc
    rw [Bool.not_eq_true', beq_eq_false_iff_ne]
    rintro rfl
    exact h hc
  rw [after, List.dropWhile_append_of_pos hfront, List.dropWhile_cons, if_neg (by simp), List.tail_cons]

/-- What stands in front of the last character that passes a test. -/
def beforeLast (p : Char → Bool) (t : Text) : Text := (after p t.reverse).reverse

/-- What comes in front of the last occurrence of a character. -/
theorem beforeLast_append_cons {d : Char} {r : Text} (h : d ∉ r) (front : Text) :
    beforeLast (· == d) (front ++ d :: r) = front := by
  have hreverse : (front ++ d :: r).reverse = r.reverse ++ d :: front.reverse := by
    rw [List.reverse_append, List.reverse_cons, List.append_assoc, List.singleton_append]
  rw [beforeLast, hreverse, after_append_cons (fun hd => h (List.mem_reverse.mp hd)), List.reverse_reverse]

/-! ## Stripping around firm ends -/

/-- Neither the first nor the last character of a text passes a test. The empty text has no ends. -/
def Firm (p : Char → Bool) (t : Text) : Prop := (∃ c ∈ t.head?, p c = false) ∧ ∃ c ∈ t.getLast?, p c = false

instance (p : Char → Bool) (t : Text) : Decidable (Firm p t) :=
  decidable_of_iff ((t.head?.any (!p ·) && t.getLast?.any (!p ·)) = true) (by simp [Firm, Option.any_eq_true])

/-- A text in which no character passes the test has firm ends, unless it is empty. -/
theorem Firm.of_forall {p : Char → Bool} {t : Text} (hne : t ≠ []) (h : ∀ c ∈ t, p c = false) : Firm p t :=
  ⟨⟨t.head hne, List.head?_eq_some_head hne, h _ (List.head_mem hne)⟩,
    ⟨t.getLast hne, List.getLast?_eq_some_getLast hne, h _ (List.getLast_mem hne)⟩⟩

/-- The first character of a text is another one than a given one. -/
theorem exists_head?_of_ne {t : Text} {d : Char} (hne : t ≠ []) (h : t.head? ≠ some d) : ∃ c ∈ t.head?, (c == d) = false := by
  obtain ⟨c, r, rfl⟩ := List.exists_cons_of_ne_nil hne
  refine ⟨c, rfl, ?_⟩
  rw [beq_eq_false_iff_ne]
  rintro rfl
  exact h rfl

theorem dropWhile_of_head {p : Char → Bool} {t : Text} (h : ∃ c ∈ t.head?, p c = false) : t.dropWhile p = t := by
  obtain ⟨c, hc, hp⟩ := h
  obtain ⟨r, rfl⟩ := List.head?_eq_some_iff.mp hc
  rw [List.dropWhile_cons, hp, if_neg nofun]

/-- What is left of a text whose end is dropped does not end in a character that is dropped. -/
theorem getLast?_dropEndWhile {p : Char → Bool} {t : Text} {c : Char} (h : c ∈ (dropEndWhile p t).getLast?) : p c = false := by
  have hlast := List.head?_dropWhile_not p t.reverse
  rw [dropEndWhile, List.getLast?_reverse, Option.mem_def] at h
  rw [h] at hlast
  simpa using hlast

/-- When nothing is left of a text whose end is dropped, the dropping goes on in front of it. -/
theorem dropEndWhile_append_of_eq_nil {p : Char → Bool} {b : Text} (h : dropEndWhile p b = []) (a : Text) :
    dropEndWhile p (a ++ b) = dropEndWhile p a := by
  rw [dropEndWhile, List.reverse_eq_nil_iff] at h
  rw [dropEndWhile, List.reverse_append, List.dropWhile_append, h]
  rfl

/-- When something is left of a text whose end is dropped, all that stands in front of it is kept. -/
theorem dropEndWhile_append_of_ne_nil {p : Char → Bool} {b : Text} (h : dropEndWhile p b ≠ []) (a : Text) :
    dropEndWhile p (a ++ b) = a ++ dropEndWhile p b := by
  have hne : ¬ (b.reverse.dropWhile p).isEmpty = true := by
    intro hempty
    exact h (by rw [dropEndWhile, List.isEmpty_iff.mp hempty, List.reverse_nil])
  rw [dropEndWhile, List.reverse_append, List.dropWhile_append, if_neg hne, List.reverse_append, List.reverse_reverse,
    dropEndWhile]

/-- A text whose last character fails the test is kept in front of anything whose end is dropped. -/
theorem dropEndWhile_append {p : Char → Bool} {a : Text} (h : ∃ c ∈ a.getLast?, p c = false) (b : Text) :
    dropEndWhile p (a ++ b) = a ++ dropEndWhile p b := by
  by_cases hb : dropEndWhile p b = []
  · have ha : a.reverse.dropWhile p = a.reverse := dropWhile_of_head (by rwa [List.head?_reverse])
    rw [dropEndWhile_append_of_eq_nil hb, hb, dropEndWhile, ha, List.reverse_reverse, List.append_nil]
  · exact dropEndWhile_append_of_ne_nil hb a

/-- The end of a text is dropped once and for all. -/
theorem dropEndWhile_dropEndWhile (p : Char → Bool) (t : Text) : dropEndWhile p (dropEndWhile p t) = dropEndWhile p t := by
  cases hlast : (dropEndWhile p t).getLast? with
  | none =>
    rw [List.getLast?_eq_none_iff.mp hlast]
    rfl
  | some c =>
    have hkept := dropEndWhile_append ⟨c, hlast, getLast?_dropEndWhile hlast⟩ []
    rw [List.append_nil] at hkept
    exact hkept.trans (List.append_nil _)

theorem dropEndWhile_of_forall {p : Char → Bool} {b : Text} (h : ∀ c ∈ b, p c = true) : dropEndWhile p b = [] := by
  have hb : (b.reverse ++ []).dropWhile p = ([] : Text).dropWhile p :=
    List.dropWhile_append_of_pos fun c hc => h c (List.mem_reverse.mp hc)
  rw [List.append_nil] at hb
  rw [dropEndWhile, hb]
  rfl

/-- Nothing is stripped in front of a text with firm ends, and nothing of it. -/
theorem strip_append {p : Char → Bool} {a : Text} (h : Firm p a) (b : Text) :
    strip p (a ++ b) = a ++ dropEndWhile p b := by
  obtain ⟨⟨c, hc, hp⟩, hlast⟩ := h
  have hhead : c ∈ (a ++ b).head? := by
    rw [List.head?_append, hc]
    rfl
  rw [strip, dropWhile_of_head ⟨c, hhead, hp⟩, dropEndWhile_append hlast]

/-- Nothing is stripped of a text in which no character passes the test. -/
theorem strip_eq_self {p : Char → Bool} {t : Text} (h : ∀ c ∈ t, p c = false) : strip p t = t := by
  by_cases hne : t = []
  · rw [hne]
    rfl
  · have hkept := strip_append (Firm.of_forall hne h) []
    rw [List.append_nil] at hkept
    exact hkept.trans (List.append_nil t)

/-- A visible character in front of a text is kept when it is trimmed. -/
theorem trim_cons {c : Char} (h : Unicode.isWhiteSpace c = false) (r : Text) :
    trim (c :: r) = c :: dropEndWhile Unicode.isWhiteSpace r := by
  have hfirm : Firm Unicode.isWhiteSpace [c] := ⟨⟨c, rfl, h⟩, c, rfl, h⟩
  exact strip_append hfirm r

/-- Only the characters around a text with firm ends are stripped. -/
theorem strip_append_append {p : Char → Bool} {a m b : Text} (ha : ∀ c ∈ a, p c = true) (hm : Firm p m)
    (hb : ∀ c ∈ b, p c = true) : strip p (a ++ m ++ b) = m := by
  have hfront : strip p (a ++ m ++ b) = strip p (m ++ b) := by
    rw [strip, List.append_assoc, List.dropWhile_append_of_pos ha, strip]
  rw [hfront, strip_append hm, dropEndWhile_of_forall hb, List.append_nil]

/-- What is left of a stripped text has firm ends. -/
theorem firm_strip {p : Char → Bool} {t : Text} (h : strip p t ≠ []) : Firm p (strip p t) := by
  have hlast := List.getLast?_eq_some_getLast h
  refine ⟨?_, _, hlast, getLast?_dropEndWhile hlast⟩
  obtain ⟨c, r, hcons⟩ := List.exists_cons_of_ne_nil h
  obtain ⟨r', hr'⟩ : c :: r <+: t.dropWhile p := hcons ▸ dropEndWhile_isPrefix p _
  have hhead := List.head?_dropWhile_not p t
  rw [← hr'] at hhead
  rw [hcons]
  exact ⟨c, rfl, by simpa using hhead⟩

/-- A text that stripping leaves as it is has firm ends, unless it is empty. -/
theorem firm_of_strip_eq_self {p : Char → Bool} {t : Text} (h : strip p t = t) (hne : t ≠ []) : Firm p t :=
  h ▸ firm_strip (h.symm ▸ hne)

/-- A text that begins and ends with texts with firm ends has firm ends. -/
theorem Firm.append_append {p : Char → Bool} {a c : Text} (ha : Firm p a) (b : Text) (hc : Firm p c) :
    Firm p (a ++ b ++ c) := by
  obtain ⟨⟨d, hd, hpd⟩, -⟩ := ha
  obtain ⟨-, e, he, hpe⟩ := hc
  refine ⟨⟨d, ?_, hpd⟩, e, ?_, hpe⟩
  · simp [Option.mem_def.mp hd]
  · simp [Option.mem_def.mp he]

/-! ## Finding a marker in a stripped text -/

/-- A marker does not begin with a character that is dropped in front of a text. -/
theorem holds_dropWhile_iff {p : Char → Bool} {m : Text} (h : ∃ c ∈ m.head?, p c = false) (t : Text) :
    Holds (t.dropWhile p) m ↔ t.Holds m := by
  obtain ⟨d, hd, hp⟩ := h
  obtain ⟨r, rfl⟩ := List.head?_eq_some_iff.mp hd
  induction t with
  | nil => exact Iff.rfl
  | cons c t ih =>
    rw [List.dropWhile_cons]
    split
    · rename_i hc
      have hne : ¬ d :: r <+: c :: t := by
        intro hpre
        rw [(List.cons_prefix_cons.mp hpre).1, hc] at hp
        nomatch hp
      rw [ih, Holds, Holds, List.infix_cons_iff, or_iff_right hne]
    · exact Iff.rfl

theorem holds_dropEndWhile_iff {p : Char → Bool} {m : Text} (h : ∃ c ∈ m.getLast?, p c = false) (t : Text) :
    Holds (dropEndWhile p t) m ↔ t.Holds m := by
  have hr : m.reverse <:+: t.reverse.dropWhile p ↔ m.reverse <:+: t.reverse :=
    holds_dropWhile_iff (by rwa [List.head?_reverse]) t.reverse
  rw [Holds, dropEndWhile, ← List.reverse_infix, List.reverse_reverse, hr, List.reverse_infix, Holds]

/-- A marker with firm ends is found in a stripped text exactly when it is found in the text. -/
theorem holds_strip_iff {p : Char → Bool} {m : Text} (h : Firm p m) (t : Text) : Holds (strip p t) m ↔ t.Holds m :=
  (holds_dropEndWhile_iff h.2 _).trans (holds_dropWhile_iff h.1 t)

/-- A marker that neither begins nor ends with white space is found in a trimmed text exactly when it is in the text. -/
theorem holds_trim_iff {m : Text} (h : Firm Unicode.isWhiteSpace m) (t : Text) : (trim t).Holds m ↔ t.Holds m :=
  holds_strip_iff h t

/-! ## Erasing a marker -/

/-- A marker stands between two parts of a text, and nowhere earlier. -/
def FirstBetween (t marker front rest : Text) : Prop :=
  t = front ++ marker ++ rest ∧ ∀ front' rest', t = front' ++ marker ++ rest' → front.length ≤ front'.length

/-- The marker that is erased is the first one in the text. -/
theorem exists_firstBetween {t marker : Text} (hne : marker ≠ []) (h : t.Holds marker) :
    ∃ front rest, t.FirstBetween marker front rest ∧ eraseFirst marker t = front ++ rest := by
  induction t with
  | nil => exact absurd (List.infix_nil.mp h) hne
  | cons c r ih =>
    by_cases hbegins : marker <+: c :: r
    · obtain ⟨rest, hrest⟩ := hbegins
      refine ⟨[], rest, ⟨hrest.symm, fun _ _ _ => Nat.zero_le _⟩, ?_⟩
      rw [eraseFirst, if_pos ⟨rest, hrest⟩, ← hrest, List.drop_left, List.nil_append]
    · have hr : Holds r marker := (List.infix_cons_iff.mp h).resolve_left hbegins
      obtain ⟨front, rest, ⟨hsplit, hfirst⟩, herase⟩ := ih hr
      refine ⟨c :: front, rest, ⟨by rw [hsplit]; rfl, fun front' rest' hsplit' => ?_⟩, ?_⟩
      · cases front' with
        | nil => exact absurd ⟨rest', hsplit'.symm⟩ hbegins
        | cons d front' => exact Nat.succ_le_succ (hfirst front' rest' (List.cons_eq_cons.mp hsplit').2)
      · rw [eraseFirst, if_neg hbegins, herase, List.cons_append]

end ScriptDigest.Text
