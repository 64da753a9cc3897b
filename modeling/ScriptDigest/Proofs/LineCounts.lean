import ScriptDigest.Proofs.Digest.Rows
import ScriptDigest.Proofs.Profile

/-!
# How the lines of a text add up

The lines of a text are looked at three times, each time with other tests: its size counts the lines of code, its declarations
are found by their keywords, and its profile is judged by the first line of code and the one behind it. The counts fit together.
A line is blank, a comment, or a line of code, and only one of the three (`length_lines_eq`). A declaration is a line of code, and
it declares a variable or a node, not both, so the code of a text is made of its declarations and of code that declares nothing
(`codeLineCount_eq`). The lines that name a class or extend one are of the latter sort (`Line.isUndeclaring_of_keyword`), so a text
whose kind is known has more code than declarations. `lines_accounted` says all of this, and what follows for the rows of the index.
-/

namespace ScriptDigest

/-! ## Lines that pass one of two tests -/

/-- What passes one of two tests that exclude each other is counted by both of them together. -/
theorem countP_eq_add {α : Type} {p q r : α → Prop} [DecidablePred p] [DecidablePred q] [DecidablePred r]
    (hr : ∀ a, r a ↔ p a ∨ q a) (hpq : ∀ a, p a → ¬ q a) (l : List α) :
    l.countP (fun a => decide (r a)) = l.countP (fun a => decide (p a)) + l.countP fun a => decide (q a) := by
  induction l with
  | nil => rfl
  | cons a l ih =>
    rw [List.countP_cons, List.countP_cons, List.countP_cons, ih]
    simp only [decide_eq_true_eq, hr]
    by_cases hp : p a
    · simp only [hp, hpq a hp, true_or, if_true, if_false]
      omega
    · simp only [hp, false_or, if_false]
      omega

namespace Line

/-- The line is code that declares no variable of the whole script. -/
def IsUndeclaring (line : Text) : Prop := IsCode line ∧ ¬ Declares line

instance (line : Text) : Decidable (IsUndeclaring line) := inferInstanceAs (Decidable (_ ∧ _))

theorem isCode_iff (line : Text) : IsCode line ↔ Declares line ∨ IsUndeclaring line := by
  unfold IsUndeclaring
  constructor
  · intro hcode
    by_cases hd : Declares line
    · exact Or.inl hd
    · exact Or.inr ⟨hcode, hd⟩
  · rintro (hd | ⟨hcode, -⟩)
    · exact hd.isCode
    · exact hcode

/-- A line that names a class or extends one is code and declares no variable, also when it is indented. -/
theorem isUndeclaring_of_keyword {k line : Text} (hk : k ∈ [Profile.classKeyword, Profile.extendsKeyword])
    (h : k <+: Text.trim line) : IsUndeclaring line := by
  have hkeywords : ∀ k ∈ [Profile.classKeyword, Profile.extendsKeyword],
      k.head?.any (fun c => decide (c ∈ ['c', 'e'])) = true := by decide +kernel
  -- The first visible letter of the line decides: it is no comment sign, and no declaration begins with it.
  obtain ⟨c, hc, hletter⟩ := (Option.any_eq_true _ _).mp (hkeywords k hk)
  rw [decide_eq_true_eq] at hletter
  obtain ⟨r, rfl⟩ := List.head?_eq_some_iff.mp hc
  refine ⟨⟨?_, ?_⟩, ?_⟩
  · rintro rfl
    nomatch List.prefix_nil.mp h
  · intro hcomment
    obtain ⟨t, ht⟩ := h
    unfold IsComment at hcomment
    rw [← ht] at hcomment
    rw [← (List.cons_prefix_cons.mp hcomment).1] at hletter
    exact absurd hletter (by decide)
  · intro hd
    obtain ⟨d, s, rfl, hvisible, hfirst⟩ := hd.exists_eq_cons
    rw [Text.trim_cons hvisible] at h
    rw [← (List.cons_prefix_cons.mp h).1] at hfirst
    simp only [List.mem_cons, List.not_mem_nil, or_false] at hletter
    rcases hletter with rfl | rfl
    · exact absurd hfirst (by decide)
    · exact absurd hfirst (by decide)

end Line

/-! ## The lines of a text -/

/-- Every line is blank, a comment or a line of code, and only one of these. -/
theorem length_lines_eq (text : Text) : (Text.lines text).length = codeLineCount text +
    (Text.lines text).countP (fun l => decide (Line.IsBlank l)) +
    (Text.lines text).countP (fun l => decide (Line.IsComment l)) := by
  have hother : (Text.lines text).countP (fun l => decide (¬ Line.IsCode l)) =
      (Text.lines text).countP (fun l => decide (Line.IsBlank l)) +
        (Text.lines text).countP (fun l => decide (Line.IsComment l)) :=
    countP_eq_add Line.not_isCode_iff (fun _ hblank hcomment => hcomment.not_isBlank hblank) _
  have hsplit := List.length_eq_countP_add_countP (fun l => decide (Line.IsCode l)) (l := Text.lines text)
  simp only [decide_eq_true_eq] at hsplit
  rw [hsplit, hother, codeLineCount, Nat.add_assoc]

/-- The number of the declarations of a text, of variables and nodes. -/
theorem length_declarations_eq (text : Text) :
    (Declarations.ofText text).globals.length + (Declarations.ofText text).nodes.length =
      (Text.lines text).countP fun l => decide (Line.Declares l) := by
  rw [countP_eq_add (r := Line.Declares) (fun _ => Iff.rfl) (fun _ hglobal => hglobal.not_isNode), Declarations.ofText,
    List.length_map, List.length_map, List.countP_eq_length_filter, List.countP_eq_length_filter]

/-- The code of a text is made of its declarations and of code that declares nothing. -/
theorem codeLineCount_eq (text : Text) : codeLineCount text =
    (Declarations.ofText text).globals.length + (Declarations.ofText text).nodes.length +
      (Text.lines text).countP fun l => decide (Line.IsUndeclaring l) := by
  rw [length_declarations_eq, codeLineCount]
  exact countP_eq_add Line.isCode_iff (fun _ hd hother => hother.2 hd) _

/-! ## The lines that decide on the kind -/

namespace Profile

/-- The first line of code extends a class, and the line directly behind it gives a name to the class. -/
def Promotes (ls : List Text) : Prop :=
  (∃ first ∈ (codeFrom ls)[0]?, extendsKeyword <+: Text.trim first) ∧
    ∃ next ∈ (codeFrom ls)[1]?, classKeyword <+: Text.trim next

instance (ls : List Text) : Decidable (Promotes ls) := inferInstanceAs (Decidable ((∃ l ∈ _, _) ∧ ∃ l ∈ _, _))

theorem Promotes.exists_codeFrom_eq {ls : List Text} (h : Promotes ls) : ∃ first next rest,
    codeFrom ls = first :: next :: rest ∧ extendsKeyword <+: Text.trim first ∧ classKeyword <+: Text.trim next := by
  obtain ⟨⟨first, hfirst, hextends⟩, next, hnext, hclass⟩ := h
  rw [Option.mem_def, ← List.head?_eq_getElem?] at hfirst
  obtain ⟨behind, hcode⟩ := List.head?_eq_some_iff.mp hfirst
  rw [Option.mem_def, hcode, List.getElem?_cons_succ, ← List.head?_eq_getElem?] at hnext
  obtain ⟨rest, rfl⟩ := List.head?_eq_some_iff.mp hnext
  exact ⟨first, next, rest, hcode, hextends, hclass⟩

/-- The line that decides on the kind is code that declares nothing. -/
theorem HasProfile.isUndeclaring {code : List Text} {profile : Bool → Profile} {isEntry : Bool}
    (h : HasProfile code profile) (hkind : (profile isEntry).kind ≠ .unknown) : ∃ first ∈ code, Line.IsUndeclaring first := by
  cases h with
  | empty | unknown => exact absurd rfl hkind
  | named hclass => exact ⟨_, List.mem_cons_self, Line.isUndeclaring_of_keyword (by simp) hclass⟩
  | promoted hextends | extension hextends =>
    exact ⟨_, List.mem_cons_self, Line.isUndeclaring_of_keyword (by simp) hextends⟩

/-- Lines that have a kind hold code that declares nothing. -/
theorem one_le_countP_isUndeclaring {ls : List Text} {isEntry : Bool} (h : (ofLines ls isEntry).kind ≠ .unknown) :
    1 ≤ ls.countP fun l => decide (Line.IsUndeclaring l) := by
  obtain ⟨first, hfirst, hother⟩ := (hasProfile_ofLines ls).isUndeclaring h
  exact List.one_le_countP_iff.mpr ⟨first, (codeFrom_suffix ls).subset hfirst, decide_eq_true hother⟩

/-- When a class gets its name from the line behind the first one, both lines are code that declares nothing. -/
theorem Promotes.two_le_countP {ls : List Text} (h : Promotes ls) :
    2 ≤ ls.countP fun l => decide (Line.IsUndeclaring l) := by
  obtain ⟨first, next, rest, hcode, hextends, hclass⟩ := h.exists_codeFrom_eq
  have hboth : List.Sublist [first, next] ls := by
    have hfront : [first, next] <+: codeFrom ls := ⟨rest, hcode.symm⟩
    exact hfront.sublist.trans (codeFrom_suffix ls).sublist
  have hfirst : Line.IsUndeclaring first := Line.isUndeclaring_of_keyword (by simp) hextends
  have hnext : Line.IsUndeclaring next := Line.isUndeclaring_of_keyword (by simp) hclass
  have htwo : [first, next].countP (fun l => decide (Line.IsUndeclaring l)) = 2 := by simp [hfirst, hnext]
  rw [← htwo]
  exact hboth.countP_le

/-- A class that gets its name from the line behind the first one is a named class. -/
theorem Promotes.kind_ofLines {ls : List Text} (h : Promotes ls) (isEntry : Bool) : (ofLines ls isEntry).kind = .named := by
  obtain ⟨first, next, rest, hcode, hextends, hclass⟩ := h.exists_codeFrom_eq
  have hrule := hasProfile_ofLines ls
  generalize ofLines ls = profile at hrule
  rw [hcode] at hrule
  cases hrule with
  | named | promoted => rfl
  | extension _ hnone => exact absurd hclass (hnone next rfl)
  | unknown _ hnone => exact absurd hextends hnone

end Profile

/-! ## Declarations and lines of code -/

/-- The lines of a text, and what they say of the rows of an index, in three parts.
1. The lines of a text are its lines of code, its blank lines and its comments.
2. It has no more declarations than lines of code. It has fewer when its kind is known; and at least two fewer when its first line
   of code extends a class to which the next line gives a name, which makes it a named class.
3. So no row of an index has more variables than lines, and the rows of a known kind have fewer. -/
theorem lines_accounted (text : Text) (isEntry : Bool) (scripts : List Script) (entryName : Text) :
    (Text.lines text).length = codeLineCount text + (Text.lines text).countP (fun l => decide (Line.IsBlank l)) +
      (Text.lines text).countP (fun l => decide (Line.IsComment l)) ∧
    ((Declarations.ofText text).globals.length + (Declarations.ofText text).nodes.length ≤ codeLineCount text ∧
      ((Profile.ofText text isEntry).kind ≠ .unknown →
        (Declarations.ofText text).globals.length + (Declarations.ofText text).nodes.length < codeLineCount text) ∧
      (Profile.Promotes (Text.lines text) → (Profile.ofText text isEntry).kind = .named ∧
        (Declarations.ofText text).globals.length + (Declarations.ofText text).nodes.length + 2 ≤ codeLineCount text)) ∧
    ∀ r ∈ IndexRow.ofScripts scripts entryName, r.globals ≤ r.lines ∧ (r.kind ≠ .unknown → r.globals < r.lines) := by
  have hcode := codeLineCount_eq text
  refine ⟨length_lines_eq text, ⟨?_, fun hkind => ?_, fun hpromotes => ⟨hpromotes.kind_ofLines isEntry, ?_⟩⟩, ?_⟩
  · omega
  · have hone := Profile.one_le_countP_isUndeclaring hkind
    omega
  · have htwo := hpromotes.two_le_countP
    omega
  · intro r hr
    obtain ⟨s, -, rfl⟩ := (IndexRow.mem_ofScripts_iff scripts entryName r).mp hr
    have hrow := codeLineCount_eq s.text
    simp only [IndexRow.ofScript, Declarations.count]
    refine ⟨by omega, fun hkind => ?_⟩
    have hone := Profile.one_le_countP_isUndeclaring hkind
    omega

/-- A named class whose name stands behind the class it extends, in a text of six lines: these two, a variable, a node, a blank line
and a comment; and the row of a script with one variable behind the line that extends a class. -/
theorem lines_accounted_promoted :
    let text : Text := "\textends Node\n class_name A\nvar a\nonready var b = get_node(\"B\")\n\n# c\n".toList
    let s : Script := ⟨"b.gd".toList, "extends Node\nvar a\n".toList⟩
    let row := IndexRow.ofScript [] s
    (Profile.Promotes (Text.lines text) ∧ row ∈ IndexRow.ofScripts [s] [] ∧ row.kind ≠ .unknown) ∧
      (Text.lines text).length = 4 + 1 + 1 ∧ (Profile.ofText text false).kind = .named ∧
      (Declarations.ofText text).globals.length + (Declarations.ofText text).nodes.length + 2 ≤ 4 ∧
      (Declarations.ofText text).globals.length + (Declarations.ofText text).nodes.length < 4 ∧
      row.globals < row.lines := by
  intro text s row
  have hpromotes : Profile.Promotes (Text.lines text) := by decide +kernel
  have hrow : row ∈ IndexRow.ofScripts [s] [] := (IndexRow.mem_ofScripts_iff [s] [] row).mpr ⟨s, List.mem_cons_self, rfl⟩
  have hknown : row.kind ≠ .unknown := by decide +kernel
  have hcode : codeLineCount text = 4 := by decide +kernel
  have hblank : (Text.lines text).countP (fun l => decide (Line.IsBlank l)) = 1 := by decide +kernel
  have hcomment : (Text.lines text).countP (fun l => decide (Line.IsComment l)) = 1 := by decide +kernel
  obtain ⟨hlines, ⟨-, hfewer, hpromoted⟩, hrows⟩ := lines_accounted text false [s] []
  rw [hcode] at hlines hfewer hpromoted
  rw [hblank, hcomment] at hlines
  obtain ⟨hkind, htwo⟩ := hpromoted hpromotes
  exact ⟨⟨hpromotes, hrow, hknown⟩, hlines, hkind, htwo, hfewer (by rw [hkind]; decide), (hrows row hrow).2 hknown⟩

end ScriptDigest
