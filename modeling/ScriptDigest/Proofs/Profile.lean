import Mathlib.Logic.Basic
import ScriptDigest.Proofs.LineTests
import ScriptDigest.Proofs.Text.LineEnds
import ScriptDigest.Proofs.Synopsis.Concatenation
import ScriptDigest.Script

/-!
# What a profile looks at

The profile of a text is judged by two of its lines, the first line of code and the line that stands directly behind it
(`Profile.ofLines_eq_of_take_eq`). What the two of them may declare is listed by `Profile.HasProfile`, and the question whether
the text is the entry point has no part in it: it only adds a note to the remark on a script that extends another one. So lines
without code in front of a text change nothing that is found in it, and whatever stands behind the two lines does not change the
profile. `Profile.ofText_surrounded` puts this together.
-/

namespace ScriptDigest

/-! ## Lines without code -/

namespace Line

theorem not_isCode_iff (line : Text) : ¬ IsCode line ↔ IsBlank line ∨ IsComment line := by
  rw [IsCode, not_and_or, not_not, not_not]

/-- A declaration is a line of code. -/
theorem Declares.isCode {line : Text} (h : Declares line) : IsCode line := ⟨h.not_isBlank, h.not_isComment⟩

end Line

/-- Lines without code declare nothing. -/
theorem Declarations.ofText_of_not_isCode {text : Text} (h : ∀ l ∈ Text.lines text, ¬ Line.IsCode l) :
    ofText text = ⟨[], []⟩ := by
  have hglobals : (Text.lines text).filter (fun l => decide (Line.IsGlobal l)) = [] := by
    rw [List.filter_eq_nil_iff]
    intro l hl hglobal
    exact h l hl (Line.Declares.isCode (Or.inl (of_decide_eq_true hglobal)))
  have hnodes : (Text.lines text).filter (fun l => decide (Line.IsNode l)) = [] := by
    rw [List.filter_eq_nil_iff]
    intro l hl hnode
    exact h l hl (Line.Declares.isCode (Or.inr (of_decide_eq_true hnode)))
  rw [ofText, hglobals, hnodes, List.map_nil]

theorem codeLineCount_of_not_isCode {text : Text} (h : ∀ l ∈ Text.lines text, ¬ Line.IsCode l) :
    codeLineCount text = 0 := by
  rw [codeLineCount, List.countP_eq_zero]
  intro l hl hcode
  exact h l hl (of_decide_eq_true hcode)

namespace Profile

/-! ## The two lines -/

/-- The lines from the first line of code on. -/
def codeFrom (ls : List Text) : List Text := ls.dropWhile fun l => !decide (Line.IsCode l)

theorem codeFrom_suffix (ls : List Text) : codeFrom ls <:+ ls := List.dropWhile_suffix _

theorem codeFrom_append_of_not_isCode {front : List Text} (h : ∀ l ∈ front, ¬ Line.IsCode l) (ls : List Text) :
    codeFrom (front ++ ls) = codeFrom ls :=
  List.dropWhile_append_of_pos fun l hl => by simpa using h l hl

/-- Behind the first line of code, lines are only added. -/
theorem codeFrom_append_of_ne_nil {ls : List Text} (h : codeFrom ls ≠ []) (ls' : List Text) :
    codeFrom (ls ++ ls') = codeFrom ls ++ ls' := by
  have hne : ¬ (codeFrom ls).isEmpty = true := fun hempty => h (List.isEmpty_iff.mp hempty)
  rw [codeFrom, List.dropWhile_append, if_neg (by exact hne), codeFrom]

theorem ofLines_of_codeFrom_eq_nil {ls : List Text} (h : codeFrom ls = []) (isEntry : Bool) :
    ofLines ls isEntry = ⟨.unknown, "first line: ".toList⟩ := by
  unfold codeFrom at h
  rw [ofLines, h]

theorem ofLines_of_codeFrom_eq_cons {ls : List Text} {first : Text} {rest : List Text} (h : codeFrom ls = first :: rest)
    (isEntry : Bool) : ofLines ls isEntry = ofFirst (Text.trim first) (rest.head?.map Text.trim) isEntry := by
  unfold codeFrom at h
  rw [ofLines, h]

/-- No line but the first line of code and the one directly behind it is looked at. -/
theorem ofLines_eq_of_take_eq {ls ls' : List Text} (h : (codeFrom ls).take 2 = (codeFrom ls').take 2) (isEntry : Bool) :
    ofLines ls isEntry = ofLines ls' isEntry := by
  cases hls : codeFrom ls with
  | nil =>
    rw [hls, List.take_nil, eq_comm, List.take_eq_nil_iff] at h
    rw [ofLines_of_codeFrom_eq_nil hls, ofLines_of_codeFrom_eq_nil (h.resolve_left (by decide))]
  | cons first rest =>
    cases hls' : codeFrom ls' with
    | nil =>
      rw [hls, hls'] at h
      nomatch h
    | cons first' rest' =>
      rw [hls, hls', List.take_succ_cons, List.take_succ_cons] at h
      obtain ⟨rfl, hrest⟩ := List.cons_eq_cons.mp h
      have hnext : rest.head? = rest'.head? := by
        cases rest <;> cases rest' <;> simp_all
      rw [ofLines_of_codeFrom_eq_cons hls, ofLines_of_codeFrom_eq_cons hls', hnext]

/-! ## What the two lines declare -/

/-- A rule gives lines, of which the first is one of code, their profile: one as the text of the entry point, and one as any other
text. -/
inductive HasProfile : List Text → (Bool → Profile) → Prop where
  /-- There is no code. -/
  | empty : HasProfile [] fun _ => ⟨.unknown, "first line: ".toList⟩
  /-- The first line names the class. -/
  | named {first : Text} {rest : List Text} : classKeyword <+: Text.trim first →
      HasProfile (first :: rest) fun _ => ⟨.named, defines (Text.trim first)⟩
  /-- The first line extends a class, and the next one gives it a name. -/
  | promoted {first next : Text} {rest : List Text} : extendsKeyword <+: Text.trim first →
      classKeyword <+: Text.trim next → HasProfile (first :: next :: rest) fun _ =>
        ⟨.named, defines (Text.trim next) ++ " (".toList ++ Text.trim first ++ [')']⟩
  /-- The first line extends a class that gets no name. -/
  | extension {first : Text} {rest : List Text} : extendsKeyword <+: Text.trim first →
      (∀ next ∈ rest.head?, ¬ classKeyword <+: Text.trim next) → HasProfile (first :: rest) fun isEntry =>
        ⟨.extension, Text.trim first ++ if isEntry then entryNote else []⟩
  /-- The first line does neither. -/
  | unknown {first : Text} {rest : List Text} : ¬ classKeyword <+: Text.trim first →
      ¬ extendsKeyword <+: Text.trim first → HasProfile (first :: rest) fun _ =>
        ⟨.unknown, "first line: ".toList ++ Text.trim first⟩

/-- The profile of lines is given by one of the rules. -/
theorem hasProfile_ofLines (ls : List Text) : HasProfile (codeFrom ls) (ofLines ls) := by
  cases hls : codeFrom ls with
  | nil =>
    rw [funext (ofLines_of_codeFrom_eq_nil hls)]
    exact .empty
  | cons first rest =>
    rw [funext (ofLines_of_codeFrom_eq_cons hls)]
    unfold ofFirst
    by_cases hclass : classKeyword <+: Text.trim first
    · simp only [if_pos hclass]
      exact .named hclass
    by_cases hextends : extendsKeyword <+: Text.trim first
    · simp only [if_neg hclass, if_pos hextends]
      split
      · rename_i declaration hnext
        obtain ⟨hnext, hnamed⟩ := Option.filter_eq_some_iff.mp hnext
        obtain ⟨next, hhead, rfl⟩ := Option.map_eq_some_iff.mp hnext
        obtain ⟨rest, rfl⟩ := List.head?_eq_some_iff.mp hhead
        exact .promoted hextends (of_decide_eq_true hnamed)
      · rename_i hnext
        refine .extension hextends fun next hhead hnamed => ?_
        exact Option.filter_eq_none_iff.mp hnext _ (Option.mem_map_of_mem Text.trim hhead) (decide_eq_true hnamed)
    · simp only [if_neg hclass, if_neg hextends]
      exact .unknown hclass hextends

section

variable {code : List Text} {profile : Bool → Profile} (h : HasProfile code profile)

include h

theorem HasProfile.kind_eq (isEntry isEntry' : Bool) : (profile isEntry).kind = (profile isEntry').kind := by
  cases h with
  | empty | named | promoted | extension | unknown => rfl

theorem HasProfile.detail_ne_iff (isEntry : Bool) :
    (profile true).detail ≠ (profile false).detail ↔ (profile isEntry).kind = .extension := by
  cases h with
  | extension =>
    have hnote : entryNote ≠ [] := by decide +kernel
    simp [hnote]
  | empty | named | promoted | unknown => simp

end

/-- The kind of a text does not depend on whether it is that of the entry point. -/
theorem kind_ofText (text : Text) (isEntry isEntry' : Bool) :
    (ofText text isEntry).kind = (ofText text isEntry').kind :=
  (hasProfile_ofLines (Text.lines text)).kind_eq isEntry isEntry'

/-- The remark on the text of the entry point is another one exactly when the text extends a class that gets no name. -/
theorem detail_ofText_ne_iff (text : Text) (isEntry : Bool) :
    (ofText text true).detail ≠ (ofText text false).detail ↔ (ofText text isEntry).kind = .extension :=
  (hasProfile_ofLines (Text.lines text)).detail_ne_iff isEntry

/-! ## Texts around a text -/

/-- What is found in a text that stands between two others, in four parts.
1. Blank lines and comments in front of it change neither its profile, nor the number of its lines of code, nor its declarations.
2. When it ends its last line, and there is a line behind its first line of code, nothing that stands behind it changes the profile.
3. Its kind does not depend on whether it is the text of the entry point.
4. The remark on it does exactly when its kind is that of a script that extends another one. -/
theorem ofText_surrounded (p t s : Text) (isEntry : Bool) :
    (Text.EndsLine p → (∀ l ∈ Text.lines p, Line.IsBlank l ∨ Line.IsComment l) →
      ofText (p ++ t) isEntry = ofText t isEntry ∧ codeLineCount (p ++ t) = codeLineCount t ∧
        Declarations.ofText (p ++ t) = Declarations.ofText t) ∧
    (t.getLast? = some '\n' → 2 ≤ (codeFrom (Text.lines t)).length → ofText (t ++ s) isEntry = ofText t isEntry) ∧
    (∀ isEntry', (ofText t isEntry').kind = (ofText t isEntry).kind) ∧
    ((ofText t true).detail ≠ (ofText t false).detail ↔ (ofText t isEntry).kind = .extension) := by
  refine ⟨fun hends hfront => ?_, fun hlast hbehind => ?_, fun _ => kind_ofText t _ _, detail_ofText_ne_iff t isEntry⟩
  · have hnone : ∀ l ∈ Text.lines p, ¬ Line.IsCode l := fun l hl => (Line.not_isCode_iff l).mpr (hfront l hl)
    refine ⟨?_, ?_, ?_⟩
    · refine ofLines_eq_of_take_eq ?_ isEntry
      rw [Text.lines_append hends, codeFrom_append_of_not_isCode hnone]
    · rw [codeLineCount_append hends, codeLineCount_of_not_isCode hnone, Nat.zero_add]
    · rw [Declarations.ofText_append hends, Declarations.ofText_of_not_isCode hnone]
      rfl
  · have hne : codeFrom (Text.lines t) ≠ [] := by
      intro hnil
      rw [hnil] at hbehind
      nomatch hbehind
    refine ofLines_eq_of_take_eq ?_ isEntry
    rw [Text.lines_append (Or.inr hlast), codeFrom_append_of_ne_nil hne, List.take_append_of_le_length hbehind]

/-- Behind comments and an empty line, an entry point that extends a class gets no name from a line behind the empty one. -/
theorem ofText_surrounded_extension :
    let p : Text := "## about\r\n\n\t# note\n".toList
    let t : Text := "extends Node\n\n".toList
    let s : Text := "class_name B\n".toList
    let profile : Profile := ⟨.extension, "extends Node <--- THIS IS THE MAIN SCRIPT".toList⟩
    (Text.EndsLine p ∧ (∀ l ∈ Text.lines p, Line.IsBlank l ∨ Line.IsComment l) ∧ t.getLast? = some '\n' ∧
        2 ≤ (codeFrom (Text.lines t)).length) ∧
      ofText (p ++ t) true = profile ∧ ofText (t ++ s) true = profile ∧ codeLineCount (p ++ t) = 1 ∧
      Declarations.ofText (p ++ t) = ⟨[], []⟩ ∧ (ofText t false).kind = .extension ∧
      (ofText t true).detail ≠ (ofText t false).detail := by
  intro p t s profile
  have hends : Text.EndsLine p := by decide +kernel
  have hfront : ∀ l ∈ Text.lines p, Line.IsBlank l ∨ Line.IsComment l := by decide +kernel
  have hlast : t.getLast? = some '\n' := by decide +kernel
  have hbehind : 2 ≤ (codeFrom (Text.lines t)).length := by decide +kernel
  have ht : ofText t true = profile := by decide +kernel
  obtain ⟨hbefore, hafter, hkind, hdetail⟩ := ofText_surrounded p t s true
  obtain ⟨hprofile, hcount, hdeclarations⟩ := hbefore hends hfront
  refine ⟨⟨hends, hfront, hlast, hbehind⟩, hprofile.trans ht, (hafter hlast hbehind).trans ht, ?_, ?_, ?_, ?_⟩
  · rw [hcount]
    decide +kernel
  · rw [hdeclarations]
    decide +kernel
  · rw [hkind, ht]
  · rw [hdetail, ht]

/-- Directly behind the line that extends a class, the same line gives the class its name. -/
example : (ofText ("extends Node\n".toList ++ "class_name B\n".toList) true).kind = .named := by decide +kernel

end Profile

end ScriptDigest
