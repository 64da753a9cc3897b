import ScriptDigest.Proofs.LineTests

/-!
# How the names of sections are cut

The name of a section is cut out of its heading by functions that go through the line character by character. Here is what they
find, told by the places in the line. The name of a section of the first level stands behind the first bar and reaches up to the
next one (`Barred`). For the other two levels a name may end where a bracket begins, and at the end of the line
(`HeadingLevel.AtEnd`); the opening bracket that counts is the first one behind which such a place comes before any line feed
(`HeadingLevel.Reaches`), and the name ends at the first such place (`HeadingLevel.Cuts`). `HeadingLevel.Encloses` puts this
together. `ofLine_heading` says of every line that begins with a comment sign which level it has and what its name is.
-/

namespace ScriptDigest

/-! ## Between bars -/

namespace Text

/-- A text is what stands before the first character that passes a test, and what begins with this character. -/
theorem exists_eq_before_append (p : Char → Bool) (t : Text) :
    ∃ rest, t = before p t ++ rest ∧ (rest = [] ∨ ∃ c ∈ rest.head?, p c = true) := by
  refine ⟨t.dropWhile (!p ·), (List.takeWhile_append_dropWhile).symm, ?_⟩
  cases h : t.dropWhile (!p ·) with
  | nil => exact Or.inl rfl
  | cons c r =>
    have hc := List.head?_dropWhile_not (!p ·) t
    rw [h] at hc
    exact Or.inr ⟨c, rfl, by simpa using hc⟩

end Text

/-- A text stands between the first bar of a line and the next one, or the end. -/
def Barred (line body : Text) : Prop :=
  ∃ front rest, line = front ++ '|' :: (body ++ rest) ∧ '|' ∉ front ∧ '|' ∉ body ∧ (rest = [] ∨ '|' ∈ rest.head?)

/-- Exactly one text stands there, if the line has a bar. -/
theorem barred_iff {line : Text} (h : '|' ∈ line) (body : Text) :
    Barred line body ↔ body = Text.before (· == '|') (Text.after (· == '|') line) := by
  constructor
  · rintro ⟨front, rest, rfl, hfront, hbody, hrest⟩
    have hend : Text.before (· == '|') rest = [] := by
      rcases hrest with rfl | hrest
      · rfl
      · obtain ⟨r, rfl⟩ := List.head?_eq_some_iff.mp hrest
        exact Text.before_cons_of_pos rfl r
    rw [Text.after_append_cons hfront, Text.before_append_of_not_mem hbody, hend, List.append_nil]
  · rintro rfl
    obtain ⟨front, r, rfl, hfront⟩ := List.eq_append_cons_of_mem h
    obtain ⟨rest, hr, hrest⟩ := Text.exists_eq_before_append (· == '|') r
    rw [Text.after_append_cons hfront]
    refine ⟨front, rest, by rw [← hr], hfront, fun hmem => ?_, hrest.imp_right ?_⟩
    · exact absurd (Text.not_of_mem_before hmem) (by decide)
    · rintro ⟨c, hc, hbar⟩
      rwa [beq_iff_eq.mp hbar] at hc

namespace HeadingLevel

/-! ## Up to a bracket -/

variable (level : HeadingLevel)

/-- A name may end in front of a text: a bracket begins it, or it is empty. -/
def AtEnd (t : Text) : Prop := t = [] ∨ level.AtBracket t

/-- A text reaches an end for names before any line feed. -/
def Reaches (t : Text) : Prop := ∃ front rest, t = front ++ rest ∧ '\n' ∉ front ∧ level.AtEnd rest

/-- A name is what stands in a text before the first end for names. -/
def Cuts (t name : Text) : Prop :=
  ∃ rest, t = name ++ rest ∧ level.AtEnd rest ∧
    ∀ front rest', t = front ++ rest' → level.AtEnd rest' → name.length ≤ front.length

/-- A name stands in a line behind the first opening bracket from which an end for names is reached before any line feed.
Without such a bracket the name is empty. -/
inductive Encloses (line : Text) : Text → Prop where
  /-- There is such a bracket. -/
  | found {front rest name : Text} : line = front ++ level.opener ++ rest → level.Reaches rest →
      (∀ front' rest', line = front' ++ level.opener ++ rest' → level.Reaches rest' → front.length ≤ front'.length) →
      level.Cuts rest name → Encloses line name
  /-- There is none. -/
  | missing : (∀ front rest, line = front ++ level.opener ++ rest → ¬ level.Reaches rest) → Encloses line []

variable {level}

theorem cuts_iff_of_atEnd {t : Text} (h : level.AtEnd t) (name : Text) : level.Cuts t name ↔ name = [] := by
  constructor
  · rintro ⟨-, -, -, hfirst⟩
    exact List.length_eq_zero_iff.mp (Nat.le_zero.mp (hfirst [] t rfl h))
  · rintro rfl
    exact ⟨t, rfl, h, fun _ _ _ _ => Nat.zero_le _⟩

/-- A character in front of which a name cannot end belongs to the name. -/
theorem cuts_cons_iff {c : Char} {r : Text} (h : ¬ level.AtEnd (c :: r)) (name : Text) :
    level.Cuts (c :: r) name ↔ ∃ name', name = c :: name' ∧ level.Cuts r name' := by
  constructor
  · rintro ⟨rest, hsplit, hend, hfirst⟩
    cases name with
    | nil =>
      rw [List.nil_append] at hsplit
      exact absurd (hsplit ▸ hend) h
    | cons d name' =>
      obtain ⟨rfl, hr⟩ := List.cons_eq_cons.mp hsplit
      refine ⟨name', rfl, rest, hr, hend, fun front rest' hsplit' hend' => ?_⟩
      exact Nat.le_of_succ_le_succ (hfirst (c :: front) rest' (congrArg (c :: ·) hsplit') hend')
  · rintro ⟨name', rfl, rest, rfl, hend, hfirst⟩
    refine ⟨rest, rfl, hend, fun front rest' hsplit hend' => ?_⟩
    cases front with
    | nil =>
      rw [List.nil_append] at hsplit
      exact absurd (hsplit ▸ hend') h
    | cons d front =>
      obtain ⟨rfl, hr⟩ := List.cons_eq_cons.mp hsplit
      exact Nat.succ_le_succ (hfirst front rest' hr hend')

theorem reaches_of_atEnd {t : Text} (h : level.AtEnd t) : level.Reaches t := ⟨[], t, rfl, nofun, h⟩

/-- In front of a character where a name cannot end, the way goes on unless the character is a line feed. -/
theorem reaches_cons_iff {c : Char} {r : Text} (h : ¬ level.AtEnd (c :: r)) :
    level.Reaches (c :: r) ↔ c ≠ '\n' ∧ level.Reaches r := by
  constructor
  · rintro ⟨front, rest, hsplit, hfront, hend⟩
    cases front with
    | nil =>
      rw [List.nil_append] at hsplit
      exact absurd (hsplit ▸ hend) h
    | cons d front =>
      obtain ⟨rfl, hr⟩ := List.cons_eq_cons.mp hsplit
      rw [List.mem_cons, not_or] at hfront
      exact ⟨Ne.symm hfront.1, front, rest, hr, hfront.2, hend⟩
  · rintro ⟨hc, front, rest, rfl, hfront, hend⟩
    refine ⟨c :: front, rest, rfl, ?_, hend⟩
    rw [List.mem_cons, not_or]
    exact ⟨hc.symm, hfront⟩

/-- Without a line feed, the end of the text is always reached. -/
theorem reaches_of_not_mem {t : Text} (h : '\n' ∉ t) : level.Reaches t :=
  ⟨t, [], (List.append_nil t).symm, h, Or.inl rfl⟩

/-- A text is cut when it reaches an end for names before any line feed, and it is cut at the first of them. -/
theorem cut?_eq_some_iff (t name : Text) : level.cut? t = some name ↔ level.Reaches t ∧ level.Cuts t name := by
  induction t generalizing name with
  | nil =>
    have hend : level.AtEnd [] := Or.inl rfl
    rw [cut?, Option.some_inj, cuts_iff_of_atEnd hend, and_iff_right (reaches_of_atEnd hend), eq_comm]
  | cons c r ih =>
    by_cases hbracket : level.AtBracket (c :: r)
    · have hend : level.AtEnd (c :: r) := Or.inr hbracket
      rw [cut?, if_pos hbracket, Option.some_inj, cuts_iff_of_atEnd hend, and_iff_right (reaches_of_atEnd hend), eq_comm]
    · have hend : ¬ level.AtEnd (c :: r) := not_or.mpr ⟨List.cons_ne_nil c r, hbracket⟩
      rw [cut?, if_neg hbracket, reaches_cons_iff hend, cuts_cons_iff hend]
      by_cases hc : c = '\n'
      · rw [if_pos hc]
        exact ⟨fun h => absurd h.symm (Option.some_ne_none name), fun h => absurd hc h.1.1⟩
      · rw [if_neg hc, Option.map_eq_some_iff, and_iff_right hc]
        simp only [ih]
        constructor
        · rintro ⟨name', ⟨hreaches, hcuts⟩, rfl⟩
          exact ⟨hreaches, name', rfl, hcuts⟩
        · rintro ⟨hreaches, name', rfl, hcuts⟩
          exact ⟨name', ⟨hreaches, hcuts⟩, rfl⟩

/-- A text in which no end for names is reached before a line feed is not cut. -/
theorem cut?_eq_none_iff (t : Text) : level.cut? t = none ↔ ¬ level.Reaches t := by
  induction t with
  | nil => exact iff_of_false (Option.some_ne_none []) fun h => h (reaches_of_atEnd (Or.inl rfl))
  | cons c r ih =>
    by_cases hbracket : level.AtBracket (c :: r)
    · rw [cut?, if_pos hbracket]
      exact iff_of_false (Option.some_ne_none []) fun h => h (reaches_of_atEnd (Or.inr hbracket))
    · rw [cut?, if_neg hbracket, reaches_cons_iff (not_or.mpr ⟨List.cons_ne_nil c r, hbracket⟩)]
      by_cases hc : c = '\n'
      · rw [if_pos hc]
        exact iff_of_true rfl fun h => h.1 hc
      · rw [if_neg hc, Option.map_eq_none_iff, ih, and_iff_right hc]

/-! ## Behind an opening bracket -/

/-- A character in front of a line changes no name, unless it begins a bracket from which an end is reached. -/
theorem Encloses.cons {c : Char} {r name : Text} (h : level.Encloses r name)
    (hc : ∀ rest, c :: r = level.opener ++ rest → ¬ level.Reaches rest) : level.Encloses (c :: r) name := by
  cases h with
  | @found front rest name hsplit hreaches hfirst hcuts =>
    have hsplit' : c :: r = (c :: front) ++ level.opener ++ rest := by
      rw [hsplit]
      rfl
    refine .found hsplit' hreaches (fun front' rest' hsplit' hreaches' => ?_) hcuts
    cases front' with
    | nil => exact absurd hreaches' (hc rest' hsplit')
    | cons d front' => exact Nat.succ_le_succ (hfirst front' rest' (List.cons_eq_cons.mp hsplit').2 hreaches')
  | missing hnone =>
    refine .missing fun front rest hsplit => ?_
    cases front with
    | nil => exact hc rest hsplit
    | cons d front => exact hnone front rest (List.cons_eq_cons.mp hsplit).2

/-- The name that is found is the one that the line encloses. -/
theorem encloses_enclosedName (line : Text) : level.Encloses line (level.enclosedName line) := by
  induction line with
  | nil =>
    refine .missing fun front rest hsplit => ?_
    have hopener := congrArg List.length hsplit
    cases level <;> simp [opener] at hopener
  | cons c r ih =>
    rw [enclosedName]
    split
    · rename_i hopener
      obtain ⟨rest, hrest⟩ := hopener
      have hdrop : (c :: r).drop level.opener.length = rest := by rw [← hrest, List.drop_left]
      rw [hdrop]
      split
      · rename_i name hcut
        obtain ⟨hreaches, hcuts⟩ := (cut?_eq_some_iff rest name).mp hcut
        have hsplit : c :: r = [] ++ level.opener ++ rest := hrest.symm
        exact .found hsplit hreaches (fun _ _ _ _ => Nat.zero_le _) hcuts
      · rename_i hcut
        refine ih.cons fun rest' hsplit => ?_
        rw [← List.append_cancel_left (hrest.trans hsplit)]
        exact (cut?_eq_none_iff rest).mp hcut
    · rename_i hopener
      exact ih.cons fun rest hsplit => absurd ⟨rest, hsplit.symm⟩ hopener

theorem Cuts.unique {t name name' : Text} (h : level.Cuts t name) (h' : level.Cuts t name') : name = name' := by
  obtain ⟨rest, hsplit, hend, hfirst⟩ := h
  obtain ⟨rest', hsplit', hend', hfirst'⟩ := h'
  have hlength : name.length = name'.length :=
    Nat.le_antisymm (hfirst name' rest' hsplit' hend') (hfirst' name rest hsplit hend)
  exact (List.append_inj (hsplit.symm.trans hsplit') hlength).1

/-- A line encloses one name only. -/
theorem Encloses.unique {line name name' : Text} (h : level.Encloses line name) (h' : level.Encloses line name') :
    name = name' := by
  cases h with
  | found hsplit hreaches hfirst hcuts =>
    cases h' with
    | found hsplit' hreaches' hfirst' hcuts' =>
      have hlength := Nat.le_antisymm (hfirst _ _ hsplit' hreaches') (hfirst' _ _ hsplit hreaches)
      rw [List.append_assoc] at hsplit hsplit'
      have htail := (List.append_inj (hsplit.symm.trans hsplit') hlength).2
      rw [List.append_cancel_left htail] at hcuts
      exact hcuts.unique hcuts'
    | missing hnone => exact absurd hreaches (hnone _ _ hsplit)
  | missing hnone =>
    cases h' with
    | found hsplit hreaches _ _ => exact absurd hreaches (hnone _ _ hsplit)
    | missing _ => rfl

/-- The name that is found is the only one that the line encloses. -/
theorem encloses_iff (line name : Text) : level.Encloses line name ↔ name = level.enclosedName line := by
  constructor
  · intro h
    exact h.unique (encloses_enclosedName line)
  · rintro rfl
    exact encloses_enclosedName line

/-- No bracket stands in a name that is cut before the first one. -/
theorem Cuts.not_holds {t name bracket : Text} (h : level.Cuts t name)
    (hb : bracket = level.closer ∨ bracket = level.opener) : ¬ name.Holds bracket := by
  obtain ⟨rest, rfl, -, hfirst⟩ := h
  rintro ⟨front, back, rfl⟩
  have hpos : 0 < bracket.length := by
    rcases hb with rfl | rfl <;> cases level <;> decide
  have hend : level.AtEnd (bracket ++ (back ++ rest)) := by
    rcases hb with rfl | rfl
    · exact Or.inr (Or.inl (List.prefix_append _ _))
    · exact Or.inr (Or.inr (List.prefix_append _ _))
  have hle := hfirst front _ (by simp only [List.append_assoc]) hend
  simp only [List.length_append] at hle
  omega

/-- In a line without a line feed the first opening bracket counts, and no bracket stands in the name. -/
theorem Encloses.of_not_mem {line name : Text} (h : level.Encloses line name) (hlf : '\n' ∉ line)
    (ho : line.Holds level.opener) :
    (∃ front rest, line = front ++ level.opener ++ rest ∧
      (∀ front' rest', line = front' ++ level.opener ++ rest' → front.length ≤ front'.length) ∧ level.Cuts rest name) ∧
    ¬ name.Holds level.opener ∧ ¬ name.Holds level.closer := by
  have hreaches : ∀ front rest, line = front ++ level.opener ++ rest → level.Reaches rest := by
    rintro front rest rfl
    exact reaches_of_not_mem fun hm => hlf (List.mem_append_right _ hm)
  cases h with
  | @found front rest _ hsplit _ hfirst hcuts =>
    refine ⟨⟨front, rest, hsplit, fun front' rest' hsplit' => ?_, hcuts⟩, hcuts.not_holds (Or.inr rfl),
      hcuts.not_holds (Or.inl rfl)⟩
    exact hfirst front' rest' hsplit' (hreaches front' rest' hsplit')
  | missing hnone =>
    obtain ⟨front, rest, hsplit⟩ := ho
    exact absurd (hreaches front rest hsplit.symm) (hnone front rest hsplit.symm)

/-! ## The level of a heading -/

/-- Both brackets of a level stand somewhere in a line. -/
def HasBrackets (level : HeadingLevel) (line : Text) : Prop := line.Holds level.opener ∧ line.Holds level.closer

instance (level : HeadingLevel) (line : Text) : Decidable (level.HasBrackets line) :=
  inferInstanceAs (Decidable (_ ∧ _))

/-- The level of a heading is the lowest one that it is marked for. -/
theorem ofLine?_eq (line : Text) : ofLine? line =
    if one.Marks line then some one else if two.Marks line then some two else if three.Marks line then some three
    else none := by
  simp only [ofLine?, List.find?_cons, List.find?_nil]
  by_cases h₁ : one.Marks line <;> by_cases h₂ : two.Marks line <;> by_cases h₃ : three.Marks line <;>
    simp [h₁, h₂, h₃]

end HeadingLevel

namespace LineForm

open HeadingLevel

/-- The level and the name of every heading. Among the lines that begin with a comment sign, the brackets of the first level
are looked for first, then those of the second and of the third. On the first level the name is the trimmed text between the
first two bars; on the others it is what the line encloses, which in a line without a line feed begins behind the first opening
bracket and holds no bracket of its level. -/
theorem ofLine_heading (line : Text) (h : "#".toList <+: line) :
    (one.HasBrackets line →
      ∃ body, ofLine line = .heading .one (Text.trim body) ∧ ∀ b, Barred line b ↔ b = body) ∧
    (¬ one.HasBrackets line → two.HasBrackets line →
      ∃ name, ofLine line = .heading .two name ∧ ∀ n, two.Encloses line n ↔ n = name) ∧
    (¬ one.HasBrackets line → ¬ two.HasBrackets line → three.HasBrackets line →
      ∃ name, ofLine line = .heading .three name ∧ ∀ n, three.Encloses line n ↔ n = name) ∧
    ('\n' ∉ line → ∀ level ≠ one, ∀ name, ofLine line = .heading level name →
      (∃ front rest, line = front ++ level.opener ++ rest ∧
        (∀ front' rest', line = front' ++ level.opener ++ rest' → front.length ≤ front'.length) ∧
        level.Cuts rest name) ∧
      ¬ name.Holds level.opener ∧ ¬ name.Holds level.closer) := by
  refine ⟨fun h₁ => ?_, fun h₁ h₂ => ?_, fun h₁ h₂ h₃ => ?_, fun hlf level hne name hform => ?_⟩
  · have hlevel : HeadingLevel.ofLine? line = some one := by
      rw [ofLine?_eq, if_pos ⟨h, h₁⟩]
    have hbar : '|' ∈ line := h₁.1.subset (by decide)
    exact ⟨_, ofLine_of_heading hlevel, barred_iff hbar⟩
  · have hlevel : HeadingLevel.ofLine? line = some two := by
      rw [ofLine?_eq, if_neg fun hm => h₁ hm.2, if_pos ⟨h, h₂⟩]
    exact ⟨_, ofLine_of_heading hlevel, encloses_iff line⟩
  · have hlevel : HeadingLevel.ofLine? line = some three := by
      rw [ofLine?_eq, if_neg fun hm => h₁ hm.2, if_neg fun hm => h₂ hm.2, if_pos ⟨h, h₃⟩]
    exact ⟨_, ofLine_of_heading hlevel, encloses_iff line⟩
  · cases (ofLine_eq_iff line _).mp hform with
    | heading hlevel =>
      have hopener : line.Holds level.opener := (marks_of_ofLine? hlevel).2.1
      have hencloses : level.Encloses line (level.nameIn line) := by
        cases level with
        | one => exact absurd rfl hne
        | two => exact encloses_enclosedName line
        | three => exact encloses_enclosedName line
      exact hencloses.of_not_mem hlf hopener

/-- The first opening bracket of this line does not count, since a line feed comes before any end for names. The brackets of the
third level say nothing in the name. -/
theorem ofLine_heading_second_bracket :
    let line := "# [ a\nb [ c < d > ]".toList
    "#".toList <+: line ∧ ¬ one.HasBrackets line ∧ two.HasBrackets line ∧
      ofLine line = .heading .two "c < d >".toList ∧ ∀ n, two.Encloses line n ↔ n = "c < d >".toList := by
  intro line
  have hsign : "#".toList <+: line := by decide
  have hone : ¬ one.HasBrackets line := by decide +kernel
  have htwo : two.HasBrackets line := by decide +kernel
  have hform : ofLine line = .heading .two "c < d >".toList := by decide +kernel
  obtain ⟨-, hsecond, -⟩ := ofLine_heading line hsign
  obtain ⟨name, hname, hencloses⟩ := hsecond hone htwo
  cases hname.symm.trans hform
  exact ⟨hsign, hone, htwo, hform, hencloses⟩

end LineForm

end ScriptDigest
