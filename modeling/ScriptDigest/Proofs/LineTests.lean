import ScriptDigest.Proofs.Declarations
import ScriptDigest.Proofs.LineForms

/-!
# The form of a line and the tests on it

The form of a line (`LineForm.ofLine`) and the tests on lines are used side by side: the synopsis goes by the forms, the
declarations and the index go by the tests. They do not disagree. The rules for the forms are tried in an order, and `HasForm`
states what each of them asks without it: only the rules for doc comments, node calls and other comments have to know of
another one. A line has exactly the form that one of the rules gives it (`ofLine_eq_iff`), and from this `ofLine_agrees` reads
off how each test stands to the forms.
-/

namespace ScriptDigest

/-! ## Comments and code -/

namespace Line

/-- A line whose first character is visible is a comment when this character is the comment sign. -/
theorem isComment_cons_iff {c : Char} (h : Unicode.isWhiteSpace c = false) (r : Text) : IsComment (c :: r) ↔ c = '#' := by
  rw [IsComment, Text.trim_cons h]
  constructor
  · intro hp
    exact (List.cons_prefix_cons.mp hp).1.symm
  · rintro rfl
    exact List.cons_prefix_cons.mpr ⟨rfl, List.nil_prefix⟩

/-- A heading is a comment. -/
theorem isComment_of_marks {level : HeadingLevel} {line : Text} (h : level.Marks line) : IsComment line := by
  obtain ⟨⟨r, rfl⟩, -, -⟩ := h
  exact (isComment_cons_iff (by decide +kernel) r).mpr rfl

/-- A doc comment is a comment. -/
theorem IsDoc.isComment {line : Text} (h : IsDoc line) : IsComment line :=
  List.IsPrefix.trans ⟨['#'], rfl⟩ h

theorem StartsFunction.not_isComment {line : Text} (h : StartsFunction line) : ¬ IsComment line := by
  obtain ⟨r, rfl⟩ := h
  intro hc
  exact absurd ((isComment_cons_iff (by decide +kernel) _).mp hc) (by decide)

/-- A declaration begins with a keyword, fetched or not. -/
theorem Declares.exists_keyword {line : Text} (h : Declares line) : ∃ k ∈ globalKeywords, k <+: line := by
  rcases h with ⟨hk, -⟩ | ⟨⟨k, hk, hp⟩, -⟩
  · exact hk
  · exact ⟨k, List.mem_cons_of_mem _ hk, hp⟩

/-- A declaration begins with the first letter of a keyword, which is visible. -/
theorem Declares.exists_eq_cons {line : Text} (h : Declares line) :
    ∃ c r, line = c :: r ∧ Unicode.isWhiteSpace c = false ∧ c ∈ ['v', 'o', '@'] := by
  have hkeywords : ∀ k ∈ globalKeywords,
      k.head?.any (fun c => !Unicode.isWhiteSpace c && decide (c ∈ ['v', 'o', '@'])) = true := by decide +kernel
  obtain ⟨k, hk, t, rfl⟩ := h.exists_keyword
  obtain ⟨c, hc, hvisible⟩ := (Option.any_eq_true _ _).mp (hkeywords k hk)
  obtain ⟨r, rfl⟩ := List.head?_eq_some_iff.mp hc
  rw [Bool.and_eq_true, Bool.not_eq_true', decide_eq_true_eq] at hvisible
  exact ⟨c, r ++ t, rfl, hvisible⟩

theorem Declares.not_isComment {line : Text} (h : Declares line) : ¬ IsComment line := by
  obtain ⟨c, r, rfl, hvisible, hletter⟩ := h.exists_eq_cons
  intro hc
  rw [(isComment_cons_iff hvisible r).mp hc] at hletter
  exact absurd hletter (by decide)

theorem Declares.not_startsFunction {line : Text} (h : Declares line) : ¬ StartsFunction line := by
  obtain ⟨c, r, rfl, -, hletter⟩ := h.exists_eq_cons
  intro hs
  rw [← (List.cons_prefix_cons.mp hs).1] at hletter
  exact absurd hletter (by decide)

theorem Declares.not_isBlank {line : Text} (h : Declares line) : ¬ IsBlank line := by
  obtain ⟨c, r, rfl, -⟩ := h.exists_eq_cons
  exact List.cons_ne_nil c r

theorem IsComment.not_isBlank {line : Text} (h : IsComment line) : ¬ IsBlank line := by
  rintro rfl
  exact absurd h (by decide +kernel)

/-- A variable fetches nothing, and a node does. -/
theorem IsGlobal.not_isNode {line : Text} (h : IsGlobal line) : ¬ IsNode line := fun hn => h.2 hn.2

/-- A variable looks no node up. -/
theorem IsGlobal.not_holds_nodeCall {line : Text} (h : IsGlobal line) : ¬ line.Holds nodeCall := fun hc => h.2 (Or.inl hc)

end Line

namespace HeadingLevel

theorem marks_of_ofLine? {line : Text} {level : HeadingLevel} (h : ofLine? line = some level) : level.Marks line :=
  of_decide_eq_true (List.find?_some (p := fun l : HeadingLevel => decide (l.Marks line)) h)

/-- A line that is marked for no level is no heading. -/
theorem ofLine?_eq_none_iff (line : Text) : ofLine? line = none ↔ ∀ level : HeadingLevel, ¬ level.Marks line := by
  rw [ofLine?, List.find?_eq_none]
  constructor
  · intro h level hm
    exact h level (by cases level <;> simp) (decide_eq_true hm)
  · intro h level _ hm
    exact h level (of_decide_eq_true hm)

/-- What is no comment is no heading. -/
theorem ofLine?_eq_none_of_not_isComment {line : Text} (h : ¬ Line.IsComment line) : ofLine? line = none := by
  rw [ofLine?_eq_none_iff]
  intro level hm
  exact h (Line.isComment_of_marks hm)

end HeadingLevel

/-! ## The rules without their order -/

namespace LineForm

/-- Whether a form is a heading. -/
def isHeading : LineForm → Bool
  | heading _ _ => true
  | _ => false

/-- Whether a form is a call that looks a node up. -/
def isNodeCall : LineForm → Bool
  | nodeCall _ => true
  | _ => false

/-- A rule gives a line its form. -/
inductive HasForm (line : Text) : LineForm → Prop where
  /-- A heading has the lowest level that it is marked for. -/
  | heading {level : HeadingLevel} : HeadingLevel.ofLine? line = some level →
      HasForm line (.heading level (level.nameIn line))
  /-- The first line of a function. -/
  | function : Line.StartsFunction line → HasForm line (.function (Line.ClosesSignature line))
  /-- A doc comment with the mark of a title. -/
  | brief : HeadingLevel.ofLine? line = none → Line.IsDoc line → line.Holds Line.briefMark →
      HasForm line (.brief (Line.briefTitle line))
  /-- A doc comment without the mark. -/
  | doc : HeadingLevel.ofLine? line = none → Line.IsDoc line → ¬ line.Holds Line.briefMark →
      HasForm line (.doc (Line.docBody line))
  /-- A line that looks a node up. -/
  | nodeCall : HeadingLevel.ofLine? line = none → ¬ Line.StartsFunction line → ¬ Line.IsDoc line →
      line.Holds Line.nodeCall → HasForm line (.nodeCall (Line.callArgument line))
  /-- A variable. -/
  | global : Line.IsGlobal line → HasForm line .global
  /-- A node that is not looked up, but preloaded. -/
  | node : Line.IsNode line → ¬ line.Holds Line.nodeCall → HasForm line .node
  /-- A comment that nothing else claims. -/
  | comment : HeadingLevel.ofLine? line = none → ¬ Line.IsDoc line → ¬ line.Holds Line.nodeCall → Line.IsComment line →
      HasForm line .comment
  /-- The empty line. -/
  | blank : Line.IsBlank line → HasForm line .blank
  /-- Anything else. -/
  | plain : ¬ Line.StartsFunction line → ¬ Line.IsComment line → ¬ line.Holds Line.nodeCall → ¬ Line.Declares line →
      ¬ Line.IsBlank line → HasForm line .plain

theorem hasForm_ofContent {line : Text} (h : HeadingLevel.ofLine? line = none) : HasForm line (ofContent line) := by
  rw [ofContent]
  split
  · rename_i hfunction
    exact .function hfunction
  rename_i hfunction
  split
  · rename_i hdoc
    split
    · rename_i hbrief
      exact .brief h hdoc hbrief
    · rename_i hbrief
      exact .doc h hdoc hbrief
  rename_i hdoc
  split
  · rename_i hcall
    exact .nodeCall h hfunction hdoc hcall
  rename_i hcall
  split
  · rename_i hglobal
    exact .global hglobal
  rename_i hglobal
  split
  · rename_i hnode
    exact .node hnode hcall
  rename_i hnode
  split
  · rename_i hcomment
    exact .comment h hdoc hcall hcomment
  rename_i hcomment
  split
  · rename_i hblank
    exact .blank hblank
  · rename_i hblank
    exact .plain hfunction hcomment hcall (not_or.mpr ⟨hglobal, hnode⟩) hblank

/-- The form of a line is given by one of the rules. -/
theorem hasForm_ofLine (line : Text) : HasForm line (ofLine line) := by
  rw [ofLine]
  split
  · rename_i level h
    exact .heading h
  · rename_i h
    exact hasForm_ofContent h

/-- What no rule for comments can claim is judged by the rules for code. -/
theorem ofLine_of_not_isComment {line : Text} (h : ¬ Line.IsComment line) : ofLine line =
    if Line.StartsFunction line then .function (Line.ClosesSignature line)
    else if line.Holds Line.nodeCall then .nodeCall (Line.callArgument line)
    else if Line.IsGlobal line then .global
    else if Line.IsNode line then .node
    else if Line.IsBlank line then .blank
    else .plain := by
  rw [ofLine_of_none (HeadingLevel.ofLine?_eq_none_of_not_isComment h), ofContent, if_neg (mt Line.IsDoc.isComment h),
    if_neg h]

/-- A rule that gives a line a form is the one that counts. -/
theorem HasForm.ofLine_eq {line : Text} {form : LineForm} (h : HasForm line form) : ofLine line = form := by
  cases h with
  | heading h => exact ofLine_of_heading h
  | function h => rw [ofLine_of_not_isComment h.not_isComment, if_pos h]
  | brief h hdoc hbrief =>
    have hfunction : ¬ Line.StartsFunction line := fun hs => hs.not_isComment hdoc.isComment
    rw [ofLine_of_none h, ofContent, if_neg hfunction, if_pos hdoc, if_pos hbrief]
  | doc h hdoc hbrief =>
    have hfunction : ¬ Line.StartsFunction line := fun hs => hs.not_isComment hdoc.isComment
    rw [ofLine_of_none h, ofContent, if_neg hfunction, if_pos hdoc, if_neg hbrief]
  | nodeCall h hfunction hdoc hcall => rw [ofLine_of_none h, ofContent, if_neg hfunction, if_neg hdoc, if_pos hcall]
  | global h =>
    have hdeclares : Line.Declares line := Or.inl h
    rw [ofLine_of_not_isComment hdeclares.not_isComment, if_neg hdeclares.not_startsFunction,
      if_neg h.not_holds_nodeCall, if_pos h]
  | node h hcall =>
    have hdeclares : Line.Declares line := Or.inr h
    rw [ofLine_of_not_isComment hdeclares.not_isComment, if_neg hdeclares.not_startsFunction, if_neg hcall,
      if_neg fun hg => Line.IsGlobal.not_isNode hg h, if_pos h]
  | comment h hdoc hcall hcomment =>
    have hfunction : ¬ Line.StartsFunction line := fun hs => hs.not_isComment hcomment
    have hdeclares : ¬ Line.Declares line := fun hd => hd.not_isComment hcomment
    rw [ofLine_of_none h, ofContent, if_neg hfunction, if_neg hdoc, if_neg hcall,
      if_neg fun hg => hdeclares (Or.inl hg), if_neg fun hn => hdeclares (Or.inr hn), if_pos hcomment]
  | blank h =>
    cases h
    decide +kernel
  | plain hfunction hcomment hcall hdeclares hblank =>
    rw [ofLine_of_not_isComment hcomment, if_neg hfunction, if_neg hcall, if_neg fun hg => hdeclares (Or.inl hg),
      if_neg fun hn => hdeclares (Or.inr hn), if_neg hblank]

/-- A line has a form exactly when a rule gives it this form. -/
theorem ofLine_eq_iff (line : Text) (form : LineForm) : ofLine line = form ↔ HasForm line form := by
  constructor
  · rintro rfl
    exact hasForm_ofLine line
  · exact HasForm.ofLine_eq

/-! ## How the tests stand to the forms -/

theorem ofLine_eq_global_iff (line : Text) : ofLine line = .global ↔ Line.IsGlobal line := by
  rw [ofLine_eq_iff]
  exact ⟨fun | .global h => h, .global⟩

theorem ofLine_eq_node_iff (line : Text) :
    ofLine line = .node ↔ Line.IsNode line ∧ ¬ line.Holds Line.nodeCall := by
  rw [ofLine_eq_iff]
  exact ⟨fun | .node h hcall => ⟨h, hcall⟩, fun h => .node h.1 h.2⟩

theorem ofLine_eq_blank_iff (line : Text) : ofLine line = .blank ↔ Line.IsBlank line := by
  rw [ofLine_eq_iff]
  exact ⟨fun | .blank h => h, .blank⟩

/-- A heading begins with the comment sign. -/
theorem head?_of_ofLine_eq_heading {line : Text} {level : HeadingLevel} {name : Text}
    (h : ofLine line = .heading level name) : line.head? = some '#' := by
  cases (ofLine_eq_iff line _).mp h with
  | heading hl =>
    obtain ⟨⟨r, rfl⟩, -, -⟩ := HeadingLevel.marks_of_ofLine? hl
    rfl

/-- The headings are the lines that are marked for a level. -/
theorem isHeading_ofLine_iff (line : Text) :
    (ofLine line).isHeading = true ↔ ∃ level, HeadingLevel.ofLine? line = some level := by
  constructor
  · have hform := hasForm_ofLine line
    generalize ofLine line = form at hform
    intro h
    cases hform with
    | heading hl => exact ⟨_, hl⟩
    | function | brief | doc | nodeCall | global | node | comment | blank | plain => nomatch h
  · rintro ⟨level, h⟩
    rw [ofLine_of_heading h]
    rfl

/-- The comments are those lines that have the form of one, and those that look a node up behind a comment sign. -/
theorem isComment_iff (line : Text) : Line.IsComment line ↔
    (ofLine line).isHeading = true ∨ (ofLine line).isBrief = true ∨ (ofLine line).isDoc = true ∨ ofLine line = .comment ∨
      (ofLine line).isNodeCall = true ∧ "#".toList <+: Text.trim line := by
  have hform := hasForm_ofLine line
  generalize ofLine line = form at hform
  cases hform with
  | heading h => exact iff_of_true (Line.isComment_of_marks (HeadingLevel.marks_of_ofLine? h)) (Or.inl rfl)
  | function h => simpa [isHeading, isBrief, isDoc, isNodeCall] using h.not_isComment
  | brief _ h _ => exact iff_of_true h.isComment (Or.inr (Or.inl rfl))
  | doc _ h _ => exact iff_of_true h.isComment (Or.inr (Or.inr (Or.inl rfl)))
  | nodeCall => simp [isHeading, isBrief, isDoc, isNodeCall, Line.IsComment]
  | global h => simpa [isHeading, isBrief, isDoc, isNodeCall] using Line.Declares.not_isComment (Or.inl h)
  | node h _ => simpa [isHeading, isBrief, isDoc, isNodeCall] using Line.Declares.not_isComment (Or.inr h)
  | comment _ _ _ h => exact iff_of_true h (Or.inr (Or.inr (Or.inr (Or.inl rfl))))
  | blank h => simpa [isHeading, isBrief, isDoc, isNodeCall] using fun hc : Line.IsComment line => hc.not_isBlank h
  | plain _ h _ _ _ => simpa [isHeading, isBrief, isDoc, isNodeCall] using h

/-- A call that looks a node up is seen in every line but the first ones of functions, headings and doc comments. -/
theorem isNodeCall_ofLine_iff (line : Text) : (ofLine line).isNodeCall = true ↔
    line.Holds Line.nodeCall ∧ ¬ Line.StartsFunction line ∧ (ofLine line).isHeading = false ∧
      ¬ "##".toList <+: Text.trim line := by
  constructor
  · have hform := hasForm_ofLine line
    generalize ofLine line = form at hform
    intro h
    cases hform with
    | nodeCall _ hfunction hdoc hcall => exact ⟨hcall, hfunction, rfl, hdoc⟩
    | heading | function | brief | doc | global | node | comment | blank | plain => nomatch h
  · rintro ⟨hcall, hfunction, hheading, hdoc⟩
    have hnone : HeadingLevel.ofLine? line = none := by
      rw [Option.eq_none_iff_forall_ne_some]
      intro level hl
      exact Bool.false_ne_true (hheading.symm.trans ((isHeading_ofLine_iff line).mpr ⟨level, hl⟩))
    rw [(HasForm.nodeCall hnone hfunction hdoc hcall).ofLine_eq]
    rfl

/-- No two of the tests pass for the same line. -/
theorem pairwise_tests (line : Text) :
    [Line.IsComment line, Line.IsBlank line, Line.IsGlobal line, Line.IsNode line].Pairwise fun p q => ¬ (p ∧ q) := by
  have hglobal : Line.IsGlobal line → Line.Declares line := Or.inl
  have hnode : Line.IsNode line → Line.Declares line := Or.inr
  simp only [List.pairwise_cons, List.forall_mem_cons, List.not_mem_nil, List.Pairwise.nil, false_implies, implies_true,
    and_true]
  refine ⟨⟨fun h => h.1.not_isBlank h.2, fun h => (hglobal h.2).not_isComment h.1, fun h => (hnode h.2).not_isComment h.1⟩,
    ⟨fun h => (hglobal h.2).not_isBlank h.1, fun h => (hnode h.2).not_isBlank h.1⟩, fun h => h.1.not_isNode h.2⟩

/-- The forms of lines and the tests on lines agree, for every line. A variable has the form of one and passes the test for
one, and so on; where a line passes a test and has another form, it is a declaration or a comment that looks a node up. And no
line passes two of the tests. -/
theorem ofLine_agrees (line : Text) :
    (ofLine line = .global ↔ Line.IsGlobal line) ∧
    (ofLine line = .node ↔ Line.IsNode line ∧ ¬ line.Holds Line.nodeCall) ∧
    (ofLine line = .blank ↔ Line.IsBlank line) ∧
    (∀ closed, ofLine line = .function closed ↔
      Line.StartsFunction line ∧ closed = decide (Line.ClosesSignature line)) ∧
    (∀ level name, ofLine line = .heading level name → line.head? = some '#') ∧
    (Line.IsComment line ↔
      (ofLine line).isHeading = true ∨ (ofLine line).isBrief = true ∨ (ofLine line).isDoc = true ∨
        ofLine line = .comment ∨ (ofLine line).isNodeCall = true ∧ "#".toList <+: Text.trim line) ∧
    ((ofLine line).isNodeCall = true ↔
      line.Holds Line.nodeCall ∧ ¬ Line.StartsFunction line ∧ (ofLine line).isHeading = false ∧
        ¬ "##".toList <+: Text.trim line) ∧
    [Line.IsComment line, Line.IsBlank line, Line.IsGlobal line, Line.IsNode line].Pairwise fun p q => ¬ (p ∧ q) :=
  ⟨ofLine_eq_global_iff line, ofLine_eq_node_iff line, ofLine_eq_blank_iff line, ofLine_eq_function_iff line,
    fun _ _ h => head?_of_ofLine_eq_heading h, isComment_iff line, isNodeCall_ofLine_iff line, pairwise_tests line⟩

end LineForm

end ScriptDigest
