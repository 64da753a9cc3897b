import ScriptDigest.Proofs.Synopsis.LookBack
import ScriptDigest.Proofs.Text.Printing

/-!
# The fragments of a synopsis, one sort at a time

`Shows` lists the sorts of fragments with what each says of its line; a place contributes a fragment exactly when one of the
rules gives it (`fragmentAt?_eq_some_iff`). Statements on what fragments look like go through these rules. The first of them
is that a fragment is one line (`Synopsis.newline_not_mem_fragments`).
-/

namespace ScriptDigest

/-- The line at a place contributes a fragment to a synopsis. -/
inductive Shows (ls : List Text) (i : Nat) (line : Text) : Text → Prop where
  /-- A line of a signature that an earlier line starts. -/
  | continuation : Continues ls i → Shows ls i line ("        ".toList ++ Text.trim line)
  /-- The first line of a function. -/
  | function : ¬ Continues ls i → Line.StartsFunction line →
      Shows ls i line ("    ".toList ++ Text.ofNat (i + 1) ++ " : ".toList ++ Text.trim line)
  /-- A section heading. -/
  | heading (level : HeadingLevel) (name : Text) : ¬ Continues ls i → LineForm.ofLine line = .heading level name →
      Shows ls i line (headingFragment level name)
  /-- The title of a doc block. -/
  | title (title : Text) : ¬ Continues ls i → LineForm.ofLine line = .brief title →
      Shows ls i line ("**".toList ++ title ++ "**".toList)
  /-- A doc comment in a doc block with a title. -/
  | quotation (body : Text) : InDocBlock ls i → LineForm.ofLine line = .doc body → Shows ls i line (quotation body)
  /-- Any other doc comment. -/
  | remark (body : Text) : ¬ Continues ls i → ¬ InDocBlock ls i → LineForm.ofLine line = .doc body →
      Shows ls i line body
  /-- The path of a node. -/
  | path (path : Text) : ¬ Continues ls i → LineForm.ofLine line = .nodeCall path →
      Shows ls i line ("    ".toList ++ path)

/-- The line at a place is a doc comment that stands in no doc block with a title and in no signature. -/
def RemarkAt (ls : List Text) (i : Nat) : Prop := ¬ Continues ls i ∧ ¬ InDocBlock ls i ∧ At Line.HasDocForm ls i

instance (ls : List Text) (i : Nat) : Decidable (RemarkAt ls i) := inferInstanceAs (Decidable (_ ∧ _ ∧ _))

/-- The line at a place is the first line of a function. -/
def FunctionAt (ls : List Text) (i : Nat) : Prop := ¬ Continues ls i ∧ At Line.StartsFunction ls i

instance (ls : List Text) (i : Nat) : Decidable (FunctionAt ls i) := inferInstanceAs (Decidable (_ ∧ _))

theorem headingFragment_eq (level : HeadingLevel) (name : Text) :
    headingFragment level name = (match level with
      | .one => "## ".toList | .two => "### ".toList | .three => "#### ".toList) ++ name := by
  cases level <;> rfl

theorem quotation_eq (body : Text) :
    quotation body = if body = [] then ">".toList else "> *".toList ++ body ++ "*".toList := rfl

section

variable {ls : List Text} {i : Nat} {line : Text} (h : ls[i]? = some line)

include h

/-- A place contributes what the rules of `Shows` give, and nothing else. -/
theorem fragmentAt?_eq_some_iff (f : Text) : fragmentAt? ls i = some f ↔ Shows ls i line f := by
  constructor
  · rw [fragmentAt?, h, Option.bind_some]
    intro hf
    split at hf
    · rename_i hc
      cases hf
      exact .continuation hc
    · rename_i hc
      split at hf
      · rename_i name hl
        cases hf
        exact .heading .one name hc hl
      · rename_i name hl
        cases hf
        exact .heading .two name hc hl
      · rename_i name hl
        cases hf
        exact .heading .three name hc hl
      · rename_i closed hl
        cases hf
        exact .function hc ((LineForm.ofLine_eq_function_iff line closed).mp hl).1
      · rename_i title hl
        cases hf
        exact .title title hc hl
      · rename_i body hl
        split at hf
        · rename_i hb
          cases hf
          exact .quotation body hb hl
        · rename_i hb
          cases hf
          exact .remark _ hc hb hl
      · rename_i path hl
        cases hf
        exact .path path hc hl
      all_goals cases hf
  · intro hf
    rw [fragmentAt?, h, Option.bind_some]
    cases hf with
    | continuation hc => rw [if_pos hc]
    | function hc hs => rw [if_neg hc, (LineForm.ofLine_eq_function_iff line _).mpr ⟨hs, rfl⟩]
    | heading level name hc hl =>
      rw [if_neg hc, hl]
      cases level <;> rfl
    | title title hc hl => rw [if_neg hc, hl]
    | quotation body hb hl =>
      rw [if_neg hb.1, hl]
      exact if_pos hb
    | remark body hc hb hl =>
      rw [if_neg hc, hl]
      exact if_neg hb
    | path path hc hl => rw [if_neg hc, hl]

end

/-- A contribution comes from a line. -/
theorem exists_shows {ls : List Text} {i : Nat} {f : Text} (h : fragmentAt? ls i = some f) :
    ∃ line, ls[i]? = some line ∧ Shows ls i line f := by
  cases hl : ls[i]? with
  | none =>
    rw [fragmentAt?, hl, Option.bind_none] at h
    cases h
  | some line => exact ⟨line, rfl, (fragmentAt?_eq_some_iff hl f).mp h⟩

/-! ## Fragments are single lines -/

/-- A fragment of a line without a line feed has none. -/
theorem Shows.newline_not_mem {ls : List Text} {i : Nat} {line f : Text} (hf : Shows ls i line f)
    (hline : '\n' ∉ line) : '\n' ∉ f := by
  have hshown : '\n' ∉ (LineForm.ofLine line).shown := fun hm => hline (LineForm.shown_subset line hm)
  have htrim : '\n' ∉ Text.trim line := fun hm => hline (Text.trim_subset line hm)
  cases hf with
  | continuation => simpa using htrim
  | function =>
    have hn : '\n' ∉ Text.ofNat (i + 1) := Text.not_mem_ofNat (by decide) (i + 1)
    simpa [htrim] using hn
  | heading level name _ hl =>
    have hname : '\n' ∉ name := by rwa [hl] at hshown
    cases level <;> simpa [headingFragment] using hname
  | title title _ hl =>
    have htitle : '\n' ∉ title := by rwa [hl] at hshown
    simpa using htitle
  | quotation body _ hl =>
    have hbody : '\n' ∉ body := by rwa [hl] at hshown
    rw [quotation_eq]
    split
    · decide
    · simpa using hbody
  | remark body _ _ hl => rwa [hl] at hshown
  | path path _ hl =>
    have hpath : '\n' ∉ path := by rwa [hl] at hshown
    simpa using hpath

/-- No fragment of a text holds a line feed. -/
theorem newline_not_mem_fragmentAt? {text f : Text} {i : Nat} (h : fragmentAt? (Text.lines text) i = some f) :
    '\n' ∉ f := by
  obtain ⟨line, hl, hf⟩ := exists_shows h
  exact hf.newline_not_mem (Text.newline_not_mem_of_mem_lines text line (List.mem_of_getElem? hl))

/-- No fragment of the synopsis of a text holds a line feed. -/
theorem Synopsis.newline_not_mem_fragments {text f : Text} (h : f ∈ (ofText text).fragments) : '\n' ∉ f := by
  rw [ofText, readings, fragments_of_lines] at h
  obtain ⟨i, -, hi⟩ := List.mem_filterMap.mp h
  exact newline_not_mem_fragmentAt? hi

end ScriptDigest
