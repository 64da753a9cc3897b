import ScriptDigest.Proofs.Synopsis.Fragments

/-!
# The line numbers of callbacks

`Synopsis.lineOf` does not look for the line that starts a callback but for the first fragment that holds its marker, and
reads the value off that fragment. `lineOf_ofText` says which value this gives for every text: the number of the line when
the fragment is that of a function, and whatever stands before the first colon otherwise. It follows when the value is the
number of the first line that starts the callback (`Callback.lineNumber`): when the first fragment with the marker is the one
of such a line, or happens to read as that very number. That the value always is this number is false
(`lineOf_ne_lineNumber`): any function whose name ends like the callback's comes first when it stands first.
-/

namespace ScriptDigest

namespace Callback

/-- What the first line of a callback begins with. -/
def opening (c : Callback) : Text := "func ".toList ++ c.marker

/-- The line at a place belongs to no signature and starts the callback. -/
def StartsAt (c : Callback) (ls : List Text) (i : Nat) : Prop := ¬ Continues ls i ∧ At (c.opening <+: ·) ls i

instance (c : Callback) (ls : List Text) (i : Nat) : Decidable (c.StartsAt ls i) :=
  inferInstanceAs (Decidable (_ ∧ _))

/-- The number of the first line that starts the callback, and zero when no line does. -/
def lineNumber (c : Callback) (ls : List Text) : Nat :=
  (firstPlace? (c.StartsAt ls) ls.length).elim 0 (· + 1)

/-- The fragment at a place holds the marker of the callback. -/
def MentionedAt (c : Callback) (ls : List Text) (i : Nat) : Prop := ∃ f ∈ fragmentAt? ls i, f.Holds c.marker

instance (c : Callback) (ls : List Text) (i : Nat) : Decidable (c.MentionedAt ls i) :=
  inferInstanceAs (Decidable (∃ f ∈ _, _))

/-- The first place whose fragment holds the marker of the callback. -/
def firstMention? (c : Callback) (ls : List Text) : Option Nat := firstPlace? (c.MentionedAt ls) ls.length

end Callback

/-- What is read off the fragment at a place: the number of the line, when it is the first line of a function, and otherwise
the trimmed text before the first colon. -/
def readOffAt (ls : List Text) (i : Nat) : Text :=
  if FunctionAt ls i then Text.ofNat (i + 1)
  else Text.trim (Text.before (· == ':') ((fragmentAt? ls i).getD []))

/-! ## Markers -/

namespace Callback

theorem firm_marker (c : Callback) : Text.Firm Unicode.isWhiteSpace c.marker := by cases c <;> decide +kernel

theorem paren_mem_marker (c : Callback) : '(' ∈ c.marker := by cases c <;> decide +kernel

theorem startsFunction_of_opening {c : Callback} {line : Text} (h : c.opening <+: line) : Line.StartsFunction line :=
  (List.prefix_append _ _).trans h

/-- A line that starts the callback starts a function. -/
theorem StartsAt.functionAt {c : Callback} {ls : List Text} {i : Nat} (h : c.StartsAt ls i) : FunctionAt ls i := by
  obtain ⟨hc, l, hl, ho⟩ := h
  exact ⟨hc, l, hl, startsFunction_of_opening ho⟩

/-- The fragment of a line that starts the callback holds the marker. -/
theorem StartsAt.mentionedAt {c : Callback} {ls : List Text} {i : Nat} (h : c.StartsAt ls i) : c.MentionedAt ls i := by
  obtain ⟨hc, l, hl, ho⟩ := h
  refine ⟨_, (fragmentAt?_eq_some_iff hl _).mpr (.function hc (startsFunction_of_opening ho)), ?_⟩
  have hm : (Text.trim l).Holds c.marker :=
    (Text.holds_trim_iff c.firm_marker l).mpr ((List.suffix_append _ _).isInfix.trans ho.isInfix)
  exact hm.trans (List.suffix_append _ _).isInfix

end Callback

/-! ## Reading a number off a fragment -/

/-- The number in the fragment of a function is found again. -/
theorem trim_before_function (n : Nat) (t : Text) :
    Text.trim (Text.before (· == ':') ("    ".toList ++ Text.ofNat n ++ " : ".toList ++ t)) = Text.ofNat n := by
  have hdigits : ':' ∉ Text.ofNat n := Text.not_mem_ofNat (by decide) n
  have hcolon : ':' ∉ "    ".toList ++ Text.ofNat n ++ [' '] := by
    rw [List.mem_append, List.mem_append, not_or, not_or]
    exact ⟨⟨by decide, hdigits⟩, by decide⟩
  have hsplit : "    ".toList ++ Text.ofNat n ++ " : ".toList ++ t =
      ("    ".toList ++ Text.ofNat n ++ [' ']) ++ ':' :: ' ' :: t := by simp
  rw [hsplit, Text.before_append_of_not_mem hcolon, Text.before_cons_of_pos rfl, List.append_nil]
  exact Text.strip_append_append (List.all_eq_true.mp (by decide +kernel)) (Text.firm_ofNat n)
    (List.all_eq_true.mp (by decide +kernel))

/-- A text that starts with a sign does not read as a number. -/
theorem trim_before_sign {c : Char} (hc : c ∈ ['#', '*', '>']) (r : Text) (n : Nat) :
    Text.trim (Text.before (· == ':') (c :: r)) ≠ Text.ofNat n := by
  have hw : Unicode.isWhiteSpace c = false ∧ (c == ':') = false ∧ c.isDigit = false := by
    simp only [List.mem_cons, List.not_mem_nil, or_false] at hc
    rcases hc with rfl | rfl | rfl <;> decide +kernel
  obtain ⟨hw, hcolon, hdigit⟩ := hw
  rw [Text.before_cons_of_neg (by exact hcolon), Text.trim_cons hw]
  intro h
  have hd : c.isDigit = true := Text.isDigit_of_mem_ofNat (h ▸ List.mem_cons_self)
  rw [hdigit] at hd
  exact Bool.false_ne_true hd

/-! ## What the first fragment with a marker says -/

/-- The value of a callback is read off the fragment that is found, without regard to where it comes from. -/
theorem Synopsis.lineOf_eq (s : Synopsis) (c : Callback) : s.lineOf c =
    (s.fragments.find? fun f => decide (f.Holds c.marker)).elim ['0'] fun f => Text.trim (Text.before (· == ':') f) := by
  rw [lineOf]
  cases s.fragments.find? fun f => decide (f.Holds c.marker) <;> rfl

/-- The first fragment that holds the marker is that of the first place that has such a fragment. -/
theorem find?_fragments (c : Callback) (text : Text) :
    (Synopsis.ofText text).fragments.find? (fun f => decide (f.Holds c.marker)) =
      (c.firstMention? (Text.lines text)).bind (fragmentAt? (Text.lines text)) := by
  have hp : ∀ i, ((fragmentAt? (Text.lines text) i).any fun f => decide (f.Holds c.marker)) =
      decide (c.MentionedAt (Text.lines text) i) := by
    intro i
    cases h : fragmentAt? (Text.lines text) i <;> simp [Callback.MentionedAt, h]
  rw [Synopsis.ofText, readings, fragments_of_lines, List.find?_filterMap, Callback.firstMention?, firstPlace?]
  simp only [hp]

/-- The value is read off the first place whose fragment holds the marker. -/
theorem lineOf_of_fragments (c : Callback) (text : Text) : (Synopsis.ofText text).lineOf c =
    (c.firstMention? (Text.lines text)).elim ['0'] (readOffAt (Text.lines text)) := by
  rw [Synopsis.lineOf_eq, find?_fragments]
  cases hm : c.firstMention? (Text.lines text) with
  | none => rfl
  | some i =>
    obtain ⟨f, hf, -⟩ := (firstPlace?_eq_some_iff.mp hm).1
    rw [Option.mem_def] at hf
    simp only [Option.bind_some, hf, Option.elim_some, readOffAt, Option.getD_some]
    split
    · rename_i hfun
      obtain ⟨hc, l, hl, hs⟩ := hfun
      rw [Option.some.inj (hf.symm.trans ((fragmentAt?_eq_some_iff hl _).mpr (.function hc hs)))]
      exact trim_before_function (i + 1) _
    · rfl

/-- The path of a node holds no marker, since it ends before any parenthesis. -/
theorem Callback.not_holds_path (c : Callback) {line path : Text} (h : LineForm.ofLine line = .nodeCall path) :
    ¬ Text.Holds ("    ".toList ++ path) c.marker := by
  intro hheld
  have hmem := hheld.subset c.paren_mem_marker
  rw [LineForm.eq_callArgument_of_ofLine h] at hmem
  rcases List.mem_append.mp hmem with hmem | hmem
  · exact absurd hmem (by decide)
  · exact absurd hmem (Line.paren_not_mem_callArgument line)

/-- A fragment that reads as a number is that of a function, of a line in a signature, or of a doc comment outside of the
titled doc blocks: the others start with a sign, or hold no marker. -/
theorem readOffAt_eq_ofNat {c : Callback} {ls : List Text} {i n : Nat} (hm : c.MentionedAt ls i)
    (h : readOffAt ls i = Text.ofNat n) : FunctionAt ls i ∨ Continues ls i ∨ RemarkAt ls i := by
  by_cases hfun : FunctionAt ls i
  · exact Or.inl hfun
  refine Or.inr ?_
  obtain ⟨f, hf, hheld⟩ := hm
  obtain ⟨line, hl, hs⟩ := exists_shows hf
  rw [readOffAt, if_neg hfun, Option.mem_def.mp hf, Option.getD_some] at h
  cases hs with
  | continuation hc => exact Or.inl hc
  | function hc hs => exact absurd ⟨hc, line, hl, hs⟩ hfun
  | heading level name => cases level <;> exact absurd h (trim_before_sign (by decide) _ n)
  | title => exact absurd h (trim_before_sign (by decide) _ n)
  | quotation body =>
    rw [quotation_eq] at h
    split at h
    · exact absurd h (trim_before_sign (by decide) _ n)
    · exact absurd h (trim_before_sign (by decide) _ n)
  | remark body hc hb hd => exact Or.inr ⟨hc, hb, line, hl, by rw [Line.HasDocForm, hd]; rfl⟩
  | path path _ hp => exact absurd hheld (c.not_holds_path hp)

namespace Callback

/-- When no fragment holds the marker, no line starts the callback. -/
theorem lineNumber_of_none {c : Callback} {ls : List Text} (h : c.firstMention? ls = none) : c.lineNumber ls = 0 := by
  have hn : firstPlace? (c.StartsAt ls) ls.length = none := by
    rw [firstPlace?_eq_none_iff]
    intro i hi hs
    exact firstPlace?_eq_none_iff.mp h i hi hs.mentionedAt
  rw [lineNumber, hn]
  rfl

/-- The number of the first line with the marker is the one asked for exactly when this line starts the callback. -/
theorem lineNumber_eq_iff {c : Callback} {ls : List Text} {i : Nat} (h : c.firstMention? ls = some i) :
    c.lineNumber ls = i + 1 ↔ c.StartsAt ls i := by
  obtain ⟨-, hi, hbefore⟩ := firstPlace?_eq_some_iff.mp h
  rw [lineNumber]
  constructor
  · intro hn
    cases hs : firstPlace? (c.StartsAt ls) ls.length with
    | none =>
      rw [hs] at hn
      nomatch hn
    | some k =>
      rw [hs] at hn
      have hki : k = i := Nat.succ.inj hn
      exact hki ▸ (firstPlace?_eq_some_iff.mp hs).1
  · intro hs
    rw [firstPlace?_eq_some_iff.mpr ⟨hs, hi, fun j hj hjs => hbefore j hj hjs.mentionedAt⟩]
    rfl

end Callback

/-- The value of a callback, for every text. It is read off the first fragment that holds the marker, and it is zero when
there is none. It is the number of the first line that starts the callback, or zero when no line does, exactly when the first
fragment that holds the marker comes from such a line, or from a signature or a doc comment outside of the titled doc blocks
whose text happens to read as that number. -/
theorem lineOf_ofText (c : Callback) (text : Text) :
    (Synopsis.ofText text).lineOf c = (c.firstMention? (Text.lines text)).elim ['0'] (readOffAt (Text.lines text)) ∧
      ((Synopsis.ofText text).lineOf c = Text.ofNat (c.lineNumber (Text.lines text)) ↔
        ∀ i ∈ c.firstMention? (Text.lines text), c.StartsAt (Text.lines text) i ∨
          (Continues (Text.lines text) i ∨ RemarkAt (Text.lines text) i) ∧
            readOffAt (Text.lines text) i = Text.ofNat (c.lineNumber (Text.lines text))) := by
  refine ⟨lineOf_of_fragments c text, ?_⟩
  rw [lineOf_of_fragments]
  cases hm : c.firstMention? (Text.lines text) with
  | none =>
    rw [Callback.lineNumber_of_none hm]
    exact ⟨fun _ => nofun, fun _ => rfl⟩
  | some i =>
    have hmention := (firstPlace?_eq_some_iff.mp hm).1
    simp only [Option.elim_some, Option.mem_some_iff, forall_eq']
    constructor
    · intro h
      rcases readOffAt_eq_ofNat hmention h with hf | hother
      · rw [readOffAt, if_pos hf] at h
        exact Or.inl ((Callback.lineNumber_eq_iff hm).mp (Text.ofNat_injective h).symm)
      · exact Or.inr ⟨hother, h⟩
    · rintro (hs | ⟨-, h⟩)
      · rw [readOffAt, if_pos hs.functionAt, (Callback.lineNumber_eq_iff hm).mpr hs]
      · exact h

/-- The value of a callback is not always the number of the first line that starts it: a function whose name ends like that
of the callback gives its own number. -/
theorem lineOf_ne_lineNumber : (Synopsis.ofText "func get_ready():\n".toList).lineOf .ready ≠
    Text.ofNat (Callback.lineNumber .ready (Text.lines "func get_ready():\n".toList)) := by
  decide +kernel

end ScriptDigest
