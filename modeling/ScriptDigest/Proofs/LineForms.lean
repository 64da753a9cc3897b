import ScriptDigest.Line.Form
import ScriptDigest.Proofs.Text.Trimming

/-!
# What the form of a line says of the line

A line has one form (`LineForm.ofLine`), and some forms carry a text that a synopsis shows: the name of a section, the title
or the body of a doc comment, the path of a node (`LineForm.shown`). Whatever is shown was written: every character of it
stands in the line (`LineForm.shown_subset`). The form of a function is the one that no other rule can claim, since such a
line does not start with a comment sign (`LineForm.ofLine_eq_function_iff`).
-/

namespace ScriptDigest

/-! ## The names of sections -/

namespace HeadingLevel

theorem cut?_subset (level : HeadingLevel) {t name : Text} (h : level.cut? t = some name) : name ⊆ t := by
  induction t generalizing name with
  | nil =>
    cases h
    exact List.Subset.refl _
  | cons c r ih =>
    rw [cut?] at h
    split at h
    · cases h
      exact List.nil_subset _
    · split at h
      · nomatch h
      · obtain ⟨name', hn, rfl⟩ := Option.map_eq_some_iff.mp h
        exact List.cons_subset_cons c (ih hn)

theorem enclosedName_subset (level : HeadingLevel) (t : Text) : level.enclosedName t ⊆ t := by
  induction t with
  | nil => exact List.Subset.refl _
  | cons c r ih =>
    have ih' : level.enclosedName r ⊆ c :: r := List.subset_cons_of_subset c ih
    rw [enclosedName]
    split
    · split
      · rename_i name hn
        exact List.Subset.trans (level.cut?_subset hn) (List.drop_suffix _ _).subset
      · exact ih'
    · exact ih'

theorem barredName_subset (line : Text) : barredName line ⊆ line := by
  intro c hc
  exact Text.after_subset _ _ (Text.before_subset _ _ (Text.trim_subset _ hc))

theorem nameIn_subset (level : HeadingLevel) (line : Text) : level.nameIn line ⊆ line := by
  cases level with
  | one => exact barredName_subset line
  | two => exact enclosedName_subset .two line
  | three => exact enclosedName_subset .three line

/-- Only a line that starts with a comment sign is a heading. -/
theorem ofLine?_eq_none {line : Text} (h : ¬ "#".toList <+: line) : ofLine? line = none := by
  rw [ofLine?, List.find?_eq_none]
  intro level _ hm
  exact h (of_decide_eq_true hm).1

end HeadingLevel

/-! ## Doc comments and node calls -/

namespace Line

theorem docBody_subset (line : Text) : docBody line ⊆ line := by
  intro c hc
  exact Text.trim_subset _ ((List.dropWhile_suffix _).subset (Text.trim_subset _ hc))

theorem briefTitle_subset (line : Text) : briefTitle line ⊆ line := by
  intro c hc
  exact docBody_subset _ (Text.eraseFirst_subset _ _ (Text.trim_subset _ hc))

theorem callArgument_subset (line : Text) : callArgument line ⊆ line := by
  intro c hc
  exact Text.after_subset _ _ (Text.before_subset _ _ (Text.strip_subset _ _ hc))

/-- The path of a node ends before the next parenthesis of either sort. -/
theorem paren_not_mem_callArgument (line : Text) : '(' ∉ callArgument line := by
  intro h
  exact absurd (Text.not_of_mem_before (Text.strip_subset _ _ h)) (by decide)

/-- A line that starts a function does not start with a comment sign. -/
theorem StartsFunction.not_hash {line : Text} (h : StartsFunction line) : ¬ "#".toList <+: line := by
  obtain ⟨r, rfl⟩ := h
  intro hp
  exact absurd (List.cons_prefix_cons.mp hp).1 (by decide)

end Line

/-! ## The form of a line -/

namespace LineForm

/-- The text that a form carries along. -/
def shown : LineForm → Text
  | heading _ name => name
  | brief title => title
  | doc body => body
  | nodeCall path => path
  | function _ | global | node | comment | blank | plain => []

/-- Whether a form opens a doc block. -/
def isBrief : LineForm → Bool
  | brief _ => true
  | _ => false

/-- Whether a form is a doc comment without a title. -/
def isDoc : LineForm → Bool
  | doc _ => true
  | _ => false

theorem shown_ofContent_subset (line : Text) : (ofContent line).shown ⊆ line := by
  rw [ofContent]
  split
  · exact List.nil_subset _
  split
  · split
    · exact Line.briefTitle_subset line
    · exact Line.docBody_subset line
  split
  · exact Line.callArgument_subset line
  -- The forms that are left carry no text.
  repeat' split
  all_goals exact List.nil_subset _

/-- Every character that a form shows stands in the line. -/
theorem shown_subset (line : Text) : (ofLine line).shown ⊆ line := by
  rw [ofLine]
  split
  · exact HeadingLevel.nameIn_subset _ line
  · exact shown_ofContent_subset line

theorem ofLine_of_heading {line : Text} {level : HeadingLevel} (h : HeadingLevel.ofLine? line = some level) :
    ofLine line = .heading level (level.nameIn line) := by
  rw [ofLine, h]

theorem ofLine_of_none {line : Text} (h : HeadingLevel.ofLine? line = none) : ofLine line = ofContent line := by
  rw [ofLine, h]

/-- The lines with the form of a function are those that start one. -/
theorem ofLine_eq_function_iff (line : Text) (closed : Bool) :
    ofLine line = .function closed ↔ Line.StartsFunction line ∧ closed = decide (Line.ClosesSignature line) := by
  constructor
  · intro h
    rw [ofLine] at h
    split at h
    · nomatch h
    · rw [ofContent] at h
      split at h
      · rename_i hs
        cases h
        exact ⟨hs, rfl⟩
      · repeat' split at h
        all_goals nomatch h
  · rintro ⟨hs, rfl⟩
    rw [ofLine, HeadingLevel.ofLine?_eq_none hs.not_hash]
    exact if_pos hs

/-- The path of a node call is the argument of the call. -/
theorem eq_callArgument_of_ofLine {line path : Text} (h : ofLine line = .nodeCall path) :
    path = Line.callArgument line := by
  rw [ofLine] at h
  split at h
  · nomatch h
  rw [ofContent] at h
  split at h
  · nomatch h
  split at h
  · split at h <;> nomatch h
  split at h
  · cases h
    rfl
  repeat' split at h
  all_goals nomatch h

end LineForm

end ScriptDigest
