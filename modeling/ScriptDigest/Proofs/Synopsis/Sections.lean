import ScriptDigest.Proofs.Synopsis.Fragments

/-!
# Sections and their place in the table of contents

The table of contents is filled from the forms of lines, the block of the globals is placed by the look of fragments. The two
agree as far as only a section of the first level looks like one, and there is one exception: a doc comment in no titled doc
block is shown as it is, and its text may itself begin with the Markdown sign of a section (`ForgedAt`). `sections_ofText`
says what the two have in common for every text; that they always agree is false (`sections_ne_contents`).
-/

namespace ScriptDigest

/-- The Markdown sign in front of the name of a section of the first level. -/
def sectionSign : Text := "## ".toList

/-- The name of a section of the first level, if the line at a place is the heading of one. -/
def titleAt? (ls : List Text) (i : Nat) : Option Text :=
  ls[i]?.bind fun line =>
    if Continues ls i then none
    else match LineForm.ofLine line with
      | .heading .one name => some name
      | _ => none

/-- The line at a place is a doc comment that looks like the heading of a section. -/
def ForgedAt (ls : List Text) (i : Nat) : Prop := RemarkAt ls i ∧ ∃ f ∈ fragmentAt? ls i, sectionSign <+: f

instance (ls : List Text) (i : Nat) : Decidable (ForgedAt ls i) :=
  inferInstanceAs (Decidable (_ ∧ ∃ f ∈ _, _))

/-- What the line at a place contributes to the fragments that look like headings of sections. -/
def sectionAt? (ls : List Text) (i : Nat) : Option Text :=
  if ForgedAt ls i then fragmentAt? ls i else (titleAt? ls i).map (sectionSign ++ ·)

/-- The fragment at a place is the heading of the globals: the line is the heading of a section with this name, or a doc
comment that looks like one. -/
def GlobalsAt (ls : List Text) (i : Nat) : Prop :=
  titleAt? ls i = some "Globals".toList ∨ RemarkAt ls i ∧ fragmentAt? ls i = some Synopsis.globalsTitle

instance (ls : List Text) (i : Nat) : Decidable (GlobalsAt ls i) := inferInstanceAs (Decidable (_ ∨ _ ∧ _))

/-- The fragments of the lines before a place. -/
def fragmentsBefore (ls : List Text) (i : Nat) : List Text := (List.range i).filterMap (fragmentAt? ls)

/-- The fragments of the lines behind a place. -/
def fragmentsBehind (ls : List Text) (i : Nat) : List Text :=
  (List.range' (i + 1) (ls.length - (i + 1))).filterMap (fragmentAt? ls)

/-! ## Putting an item behind another one -/

namespace Synopsis

theorem insertBehind?_of_not_mem {mark item : Text} {fs : List Text} (h : mark ∉ fs) :
    insertBehind? mark item fs = none := by
  induction fs with
  | nil => rfl
  | cons f fs ih =>
    rw [List.mem_cons, not_or] at h
    rw [insertBehind?, if_neg (Ne.symm h.1), ih h.2]
    rfl

theorem insertBehind?_append_cons {mark item : Text} {front : List Text} (h : mark ∉ front) (rest : List Text) :
    insertBehind? mark item (front ++ mark :: rest) = some (front ++ mark :: item :: rest) := by
  induction front with
  | nil => exact if_pos rfl
  | cons f fs ih =>
    rw [List.mem_cons, not_or] at h
    rw [List.cons_append, insertBehind?, if_neg (Ne.symm h.1), ih h.2]
    rfl

end Synopsis

/-! ## Contributions of places, taken together -/

/-- The places in front of one, the place itself, and those behind it. -/
theorem range_eq_append_cons {i n : Nat} (h : i < n) :
    List.range n = List.range i ++ i :: List.range' (i + 1) (n - (i + 1)) := by
  have hn : n = i + (n - (i + 1) + 1) := by omega
  conv_lhs => rw [hn, List.range_eq_range', ← List.range'_append_1, Nat.zero_add, ← List.range_eq_range']
  rfl

/-- Where one of two tables has all the entries of the other, they list the same only when they have the same entries. -/
theorem filterMap_eq_filterMap_iff {α β : Type} {f g : α → Option β} {l : List α}
    (h : ∀ a ∈ l, g a = none ∨ f a = g a) : l.filterMap f = l.filterMap g ↔ ∀ a ∈ l, f a = g a := by
  refine ⟨fun he => ?_, fun hfg => List.filterMap_congr hfg⟩
  induction l with
  | nil => nofun
  | cons a l ih =>
    have htail := ih fun b hb => h b (List.mem_cons_of_mem a hb)
    have hle : (l.filterMap g).length ≤ (l.filterMap f).length := by
      rw [List.length_filterMap_eq_countP, List.length_filterMap_eq_countP]
      refine List.countP_mono_left fun b hb hg => ?_
      rcases h b (List.mem_cons_of_mem a hb) with hn | hfg
      · rw [hn] at hg
        nomatch hg
      · rwa [hfg]
    have ha : f a = g a := by
      rcases h a List.mem_cons_self with hn | hfg
      · cases hf : f a with
        | none => exact hn.symm
        | some b =>
          rw [List.filterMap_cons_some hf, List.filterMap_cons_none hn] at he
          have hlen := congrArg List.length he
          rw [List.length_cons] at hlen
          omega
      · exact hfg
    intro b hb
    rcases List.mem_cons.mp hb with rfl | hb
    · exact ha
    · refine htail ?_ b hb
      rw [List.filterMap_cons, List.filterMap_cons, ha] at he
      split at he
      · exact he
      · exact List.tail_eq_of_cons_eq he

/-! ## Sections place by place -/

theorem titleAt?_eq_some_iff {ls : List Text} {i : Nat} {line : Text} (h : ls[i]? = some line) (name : Text) :
    titleAt? ls i = some name ↔ ¬ Continues ls i ∧ LineForm.ofLine line = .heading .one name := by
  rw [titleAt?, h, Option.bind_some]
  by_cases hc : Continues ls i
  · simp [hc]
  · rw [if_neg hc]
    constructor
    · intro ht
      split at ht
      · rename_i hl
        cases ht
        exact ⟨hc, hl⟩
      · nomatch ht
    · rintro ⟨-, hl⟩
      rw [hl]

/-- The heading of a section of the first level is shown as such. -/
theorem fragmentAt?_of_titleAt? {ls : List Text} {i : Nat} {name : Text} (h : titleAt? ls i = some name) :
    fragmentAt? ls i = some (sectionSign ++ name) := by
  cases hl : ls[i]? with
  | none =>
    rw [titleAt?, hl, Option.bind_none] at h
    cases h
  | some line =>
    obtain ⟨hc, hf⟩ := (titleAt?_eq_some_iff hl name).mp h
    exact (fragmentAt?_eq_some_iff hl _).mpr (.heading .one name hc hf)

/-- A fragment that looks like the heading of a section is one, or is forged. -/
theorem titleAt?_or_forgedAt {ls : List Text} {i : Nat} {f : Text} (hf : fragmentAt? ls i = some f)
    (hs : sectionSign <+: f) : (∃ name, titleAt? ls i = some name) ∨ ForgedAt ls i := by
  obtain ⟨line, hl, hshows⟩ := exists_shows hf
  cases hshows with
  | continuation hc => exact absurd hs (by simp [sectionSign])
  | function hc hstart => exact absurd hs (by simp [sectionSign])
  | heading level name hc hform =>
    cases level with
    | one => exact Or.inl ⟨name, (titleAt?_eq_some_iff hl name).mpr ⟨hc, hform⟩⟩
    | two | three => exact absurd hs (by rw [headingFragment_eq]; simp [sectionSign])
  | title => exact absurd hs (by simp [sectionSign])
  | quotation body =>
    rw [quotation_eq] at hs
    split at hs <;> exact absurd hs (by simp [sectionSign])
  | remark body hc hb hform => exact Or.inr ⟨⟨hc, hb, line, hl, by rw [Line.HasDocForm, hform]; rfl⟩, f, hf, hs⟩
  | path => exact absurd hs (by simp [sectionSign])

/-- A forged section is not the heading of one. -/
theorem ForgedAt.titleAt?_eq_none {ls : List Text} {i : Nat} (h : ForgedAt ls i) : titleAt? ls i = none := by
  obtain ⟨⟨_, _, line, hl, hd⟩, -⟩ := h
  rw [Option.eq_none_iff_forall_ne_some]
  intro name ht
  rw [Line.HasDocForm, ((titleAt?_eq_some_iff hl name).mp ht).2] at hd
  exact Bool.false_ne_true hd

/-- The fragments that look like headings of sections are the headings and the forged ones. -/
theorem filter_fragmentAt? (ls : List Text) (i : Nat) :
    (fragmentAt? ls i).filter (fun f => decide (sectionSign <+: f)) = sectionAt? ls i := by
  rw [sectionAt?]
  split
  · rename_i hforged
    obtain ⟨-, f, hf, hs⟩ := hforged
    rw [Option.mem_def] at hf
    rw [hf, Option.filter_some, if_pos (decide_eq_true hs)]
  · rename_i hforged
    cases ht : titleAt? ls i with
    | some name =>
      rw [fragmentAt?_of_titleAt? ht, Option.filter_some, if_pos (decide_eq_true (List.prefix_append _ _))]
      rfl
    | none =>
      rw [Option.map_none, Option.filter_eq_none_iff]
      intro f hf hs
      rcases titleAt?_or_forgedAt hf (of_decide_eq_true hs) with ⟨name, hn⟩ | hforge
      · rw [hn] at ht
        nomatch ht
      · exact hforged hforge

/-- The heading of the globals is the fragment of the places that have it as a title or as the text of a doc comment. -/
theorem fragmentAt?_eq_globalsTitle_iff (ls : List Text) (i : Nat) :
    fragmentAt? ls i = some Synopsis.globalsTitle ↔ GlobalsAt ls i := by
  constructor
  · intro hf
    rcases titleAt?_or_forgedAt hf (by decide +kernel) with ⟨name, ht⟩ | hforged
    · have hname : sectionSign ++ name = sectionSign ++ "Globals".toList :=
        Option.some.inj ((fragmentAt?_of_titleAt? ht).symm.trans hf)
      exact Or.inl (List.append_cancel_left hname ▸ ht)
    · exact Or.inr ⟨hforged.1, hf⟩
  · rintro (ht | ⟨-, hf⟩)
    · exact fragmentAt?_of_titleAt? ht
    · exact hf

/-- The entries of the table of contents, place by place. -/
theorem contents_of_lines (ls : List Text) : (readingsFrom .body 1 ls).filterMap Reading.entry? =
    (List.range ls.length).filterMap fun i => (titleAt? ls i).map (⟨i + 1, ·⟩) := by
  rw [filterMap_readingsFrom]
  refine List.filterMap_congr fun i hi => ?_
  have hi' := List.mem_range.mp hi
  obtain ⟨hs, -⟩ := modeAt_iff ls i (Nat.le_of_lt hi')
  rw [readingAt?, titleAt?, List.getElem?_eq_getElem hi', Option.map_some, Option.bind_some, Option.bind_some]
  by_cases hc : Continues ls i
  · rw [if_pos hc, hs.mpr hc]
    rfl
  · rw [if_neg hc]
    cases hm : modeAt ls i with
    | signature => exact absurd (hs.mp hm) hc
    | body | docBlock =>
      cases hl : LineForm.ofLine ls[i] with
      | heading level name => cases level <;> simp [Reading.entry?, hl]
      | _ => simp [Reading.entry?, hl]

/-! ## What sections and the table of contents have in common -/

/-- A place that contributes a fragment is the place of a line. -/
theorem lt_of_fragmentAt? {ls : List Text} {i : Nat} {f : Text} (h : fragmentAt? ls i = some f) : i < ls.length := by
  obtain ⟨line, hl, -⟩ := exists_shows h
  exact (List.getElem?_eq_some_iff.mp hl).1

/-- The fragments of a text, taken apart at a place that contributes one. -/
theorem fragments_eq_append_cons {text f : Text} {i : Nat} (h : fragmentAt? (Text.lines text) i = some f) :
    (Synopsis.ofText text).fragments = fragmentsBefore (Text.lines text) i ++ f :: fragmentsBehind (Text.lines text) i := by
  rw [Synopsis.ofText, readings, fragments_of_lines, range_eq_append_cons (lt_of_fragmentAt? h), List.filterMap_append,
    List.filterMap_cons_some h, fragmentsBefore, fragmentsBehind]

/-- A block is put directly behind the fragment of the first place that shows the heading of the globals. -/
theorem insertGlobals?_ofText (text block : Text) :
    (Synopsis.ofText text).insertGlobals? block =
      (firstPlace? (GlobalsAt (Text.lines text)) (Text.lines text).length).map fun i =>
        { (Synopsis.ofText text) with
          fragments := fragmentsBefore (Text.lines text) i ++
            Synopsis.globalsTitle :: block :: fragmentsBehind (Text.lines text) i } := by
  have hnot : ∀ l : List Nat, (∀ j ∈ l, ¬ GlobalsAt (Text.lines text) j) →
      Synopsis.globalsTitle ∉ l.filterMap (fragmentAt? (Text.lines text)) := by
    intro l hl hmem
    obtain ⟨j, hj, hf⟩ := List.mem_filterMap.mp hmem
    exact hl j hj ((fragmentAt?_eq_globalsTitle_iff _ j).mp hf)
  rw [Synopsis.insertGlobals?]
  cases hfirst : firstPlace? (GlobalsAt (Text.lines text)) (Text.lines text).length with
  | none =>
    have hnone := firstPlace?_eq_none_iff.mp hfirst
    rw [Synopsis.ofText, readings, fragments_of_lines,
      Synopsis.insertBehind?_of_not_mem (hnot _ fun j hj => hnone j (List.mem_range.mp hj))]
    rfl
  | some i =>
    obtain ⟨hi, -, hleast⟩ := firstPlace?_eq_some_iff.mp hfirst
    have hfront : Synopsis.globalsTitle ∉ fragmentsBefore (Text.lines text) i :=
      hnot _ fun j hj => hleast j (List.mem_range.mp hj)
    rw [fragments_eq_append_cons ((fragmentAt?_eq_globalsTitle_iff _ i).mpr hi), Synopsis.insertBehind?_append_cons hfront]
    rfl

theorem filter_fragments (text : Text) :
    (Synopsis.ofText text).fragments.filter (fun f => decide (sectionSign <+: f)) =
      (List.range (Text.lines text).length).filterMap (sectionAt? (Text.lines text)) := by
  rw [Synopsis.ofText, readings, fragments_of_lines, List.filter_filterMap]
  exact List.filterMap_congr fun i _ => filter_fragmentAt? _ i

/-- The headings that the table of contents names. -/
theorem map_contents (text : Text) : (Synopsis.ofText text).contents.map (fun e => sectionSign ++ e.name) =
    (List.range (Text.lines text).length).filterMap fun i => (titleAt? (Text.lines text) i).map (sectionSign ++ ·) := by
  rw [Synopsis.ofText, readings, contents_of_lines, List.map_filterMap]
  simp only [Option.map_map, Function.comp_def]

/-- The table of contents names a section when the line at some place is its heading. -/
theorem exists_mem_contents_iff (text name : Text) : (∃ e ∈ (Synopsis.ofText text).contents, e.name = name) ↔
    ∃ i, i < (Text.lines text).length ∧ titleAt? (Text.lines text) i = some name := by
  rw [Synopsis.ofText, readings, contents_of_lines]
  constructor
  · rintro ⟨e, he, rfl⟩
    obtain ⟨i, hi, ht⟩ := List.mem_filterMap.mp he
    obtain ⟨name, hn, rfl⟩ := Option.map_eq_some_iff.mp ht
    exact ⟨i, List.mem_range.mp hi, hn⟩
  · rintro ⟨i, hi, ht⟩
    exact ⟨⟨i + 1, name⟩, List.mem_filterMap.mpr ⟨i, List.mem_range.mpr hi, by rw [ht]; rfl⟩, rfl⟩

/-- The sections of a text, in four parts.
1. The fragments that look like headings of sections are, in the order of the lines, the headings of the sections of the
   first level and the doc comments that look like one.
2. They are the headings that the table of contents names exactly when no doc comment looks like one.
3. There is a heading for the globals exactly when the table of contents names them, or a doc comment reads like it.
4. The block of the globals is put directly behind the fragment of the first line that is either; nothing else changes. -/
theorem sections_ofText (text block : Text) :
    (Synopsis.ofText text).fragments.filter (fun f => decide (sectionSign <+: f)) =
        (List.range (Text.lines text).length).filterMap (sectionAt? (Text.lines text)) ∧
      ((Synopsis.ofText text).fragments.filter (fun f => decide (sectionSign <+: f)) =
          (Synopsis.ofText text).contents.map (fun e => sectionSign ++ e.name) ↔
        ∀ i, ¬ ForgedAt (Text.lines text) i) ∧
      (((Synopsis.ofText text).insertGlobals? block).isSome = true ↔
        (∃ e ∈ (Synopsis.ofText text).contents, e.name = "Globals".toList) ∨
          ∃ i, RemarkAt (Text.lines text) i ∧ fragmentAt? (Text.lines text) i = some Synopsis.globalsTitle) ∧
      (Synopsis.ofText text).insertGlobals? block =
        (firstPlace? (GlobalsAt (Text.lines text)) (Text.lines text).length).map fun i =>
          { (Synopsis.ofText text) with
            fragments := fragmentsBefore (Text.lines text) i ++
              Synopsis.globalsTitle :: block :: fragmentsBehind (Text.lines text) i } := by
  refine ⟨filter_fragments text, ?_, ?_, insertGlobals?_ofText text block⟩
  · rw [filter_fragments, map_contents, filterMap_eq_filterMap_iff]
    · constructor
      · intro h i hforged
        obtain ⟨f, hf, -⟩ := hforged.2
        have hi := h i (List.mem_range.mpr (lt_of_fragmentAt? hf))
        rw [sectionAt?, if_pos hforged, Option.mem_def.mp hf, hforged.titleAt?_eq_none] at hi
        nomatch hi
      · intro h i _
        rw [sectionAt?, if_neg (h i)]
    · intro i _
      rw [sectionAt?]
      split
      · rename_i hforged
        exact Or.inl (by rw [hforged.titleAt?_eq_none]; rfl)
      · exact Or.inr rfl
  · rw [insertGlobals?_ofText, Option.isSome_map, exists_mem_contents_iff, Option.isSome_iff_exists]
    constructor
    · rintro ⟨i, hi⟩
      obtain ⟨ht | hr, hlt, -⟩ := firstPlace?_eq_some_iff.mp hi
      · exact Or.inl ⟨i, hlt, ht⟩
      · exact Or.inr ⟨i, hr⟩
    · intro h
      refine Option.ne_none_iff_exists'.mp fun hnone => ?_
      rcases h with ⟨i, hlt, ht⟩ | ⟨i, hr⟩
      · exact firstPlace?_eq_none_iff.mp hnone i hlt (Or.inl ht)
      · exact firstPlace?_eq_none_iff.mp hnone i (lt_of_fragmentAt? hr.2) (Or.inr hr)

/-- The fragments that look like headings of sections are not always those that the table of contents names: a doc comment
may have the text of a heading, and the block of the globals is put behind it. -/
theorem sections_ne_contents :
    (Synopsis.ofText "## ## Globals\n".toList).fragments.filter (fun f => decide (sectionSign <+: f)) ≠
        (Synopsis.ofText "## ## Globals\n".toList).contents.map (fun e => sectionSign ++ e.name) ∧
      (Synopsis.ofText "## ## Globals\n".toList).contents = [] ∧
      ((Synopsis.ofText "## ## Globals\n".toList).insertGlobals? []).isSome = true := by
  decide +kernel

end ScriptDigest
