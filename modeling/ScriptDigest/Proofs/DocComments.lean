import ScriptDigest.Proofs.LineTests

/-!
# Doc comments as they are written

A doc comment (`DocLine`) is written with white space in front of its comment signs, between these and its body, and behind the
body. The white space and the signs can be told from the body again, whatever it holds (`DocLine.docBody_line`): a body that
begins with a comment sign stands behind a gap, and signs at its end are not looked at. A line that is marked for a heading is
read as one, and no indented line is (`DocLine.not_marks_line`). Any other doc comment has the form of one, with the body that
was written, or with the title that is left of it when the first mark for titles is taken out (`DocLine.ofLine_written`).
-/

namespace ScriptDigest

/-- The body of a doc comment holds a marker exactly when the line does, unless white space begins or ends the marker, or the
comment sign begins it. -/
theorem Line.holds_docBody_iff {m : Text} (h : Text.Firm Unicode.isWhiteSpace m) (hsign : m.head? ≠ some '#') (line : Text) :
    (docBody line).Holds m ↔ line.Holds m := by
  have hne : m ≠ [] := by
    rintro rfl
    obtain ⟨c, hc, -⟩ := h.1
    nomatch hc
  have hhead := Text.exists_head?_of_ne hne hsign
  rw [docBody, Text.holds_trim_iff h, Text.holds_dropWhile_iff hhead, Text.holds_trim_iff h]

/-- A doc comment as it is written: white space, two or more comment signs, a gap, the body, and white space again. The body is
trimmed, and a body that begins with a comment sign stands behind a gap that is not empty. -/
structure DocLine where
  indentation : Text
  signs : Nat
  gap : Text
  body : Text
  tail : Text
  two_le_signs : 2 ≤ signs
  trim_body : Text.trim body = body
  gap_or_body : gap ≠ [] ∨ body.head? ≠ some '#'
  isWhiteSpace_indentation : ∀ c ∈ indentation, Unicode.isWhiteSpace c = true
  isWhiteSpace_gap : ∀ c ∈ gap, Unicode.isWhiteSpace c = true
  isWhiteSpace_tail : ∀ c ∈ tail, Unicode.isWhiteSpace c = true

namespace DocLine

variable (d : DocLine)

/-- The line of a doc comment. -/
def line : Text := d.indentation ++ List.replicate d.signs '#' ++ d.gap ++ d.body ++ d.tail

theorem isWhiteSpace_sign : Unicode.isWhiteSpace '#' = false := by decide +kernel

theorem firm_signs : Text.Firm Unicode.isWhiteSpace (List.replicate d.signs '#') := by
  have hsigns := d.two_le_signs
  refine Text.Firm.of_forall ?_ fun c hc => ?_
  · rw [ne_eq, List.replicate_eq_nil_iff]
    omega
  · rw [List.eq_of_mem_replicate hc]
    exact isWhiteSpace_sign

/-- A trimmed doc comment begins with its comment signs and ends with its body. -/
theorem trim_line : Text.trim d.line =
    List.replicate d.signs '#' ++ (if d.body = [] then [] else d.gap ++ d.body) := by
  by_cases hbody : d.body = []
  · have hblank : ∀ c ∈ d.gap ++ d.tail, Unicode.isWhiteSpace c = true := by
      intro c hc
      rcases List.mem_append.mp hc with hc | hc
      · exact d.isWhiteSpace_gap c hc
      · exact d.isWhiteSpace_tail c hc
    have hline : d.line = d.indentation ++ List.replicate d.signs '#' ++ (d.gap ++ d.tail) := by
      simp only [line, hbody, List.append_nil, List.append_assoc]
    rw [hline, if_pos hbody, List.append_nil]
    exact Text.strip_append_append d.isWhiteSpace_indentation d.firm_signs hblank
  · have hfirm : Text.Firm Unicode.isWhiteSpace (List.replicate d.signs '#' ++ d.gap ++ d.body) :=
      d.firm_signs.append_append d.gap (Text.firm_of_strip_eq_self d.trim_body hbody)
    have hline : d.line = d.indentation ++ (List.replicate d.signs '#' ++ d.gap ++ d.body) ++ d.tail := by
      simp only [line, List.append_assoc]
    rw [if_neg hbody, ← List.append_assoc, hline]
    exact Text.strip_append_append d.isWhiteSpace_indentation hfirm d.isWhiteSpace_tail

/-- No comment sign stands behind those in front of the gap and the body. -/
theorem head?_gap_append_body : (d.gap ++ d.body).head? ≠ some '#' := by
  cases hgap : d.gap with
  | nil => exact d.gap_or_body.resolve_left (fun h => h hgap)
  | cons c r =>
    intro hc
    have hsign : '#' ∈ d.gap := by
      rw [hgap, ← Option.some.inj hc]
      exact List.mem_cons_self
    exact Bool.false_ne_true (isWhiteSpace_sign.symm.trans (d.isWhiteSpace_gap '#' hsign))

theorem isDoc_line : Line.IsDoc d.line := by
  obtain ⟨n, hn⟩ := Nat.exists_eq_add_of_le' d.two_le_signs
  rw [Line.IsDoc, trim_line, hn]
  exact List.prefix_append ['#', '#'] _

/-- The body of a doc comment is read off its line as it was written. -/
theorem docBody_line : Line.docBody d.line = d.body := by
  have hsigns : ∀ c ∈ List.replicate d.signs '#', (c == '#') = true :=
    fun c hc => beq_iff_eq.mpr (List.eq_of_mem_replicate hc)
  rw [Line.docBody, trim_line, List.dropWhile_append_of_pos hsigns]
  by_cases hbody : d.body = []
  · rw [if_pos hbody, hbody]
    rfl
  · have hne : d.gap ++ d.body ≠ [] := List.append_ne_nil_of_right_ne_nil d.gap hbody
    have hhead := Text.exists_head?_of_ne hne d.head?_gap_append_body
    have htrim := Text.strip_append_append d.isWhiteSpace_gap (Text.firm_of_strip_eq_self d.trim_body hbody)
      (List.forall_mem_nil _)
    rw [if_neg hbody, Text.dropWhile_of_head hhead, Text.trim, ← List.append_nil (d.gap ++ d.body)]
    exact htrim

/-- The mark of a title stands in the line of a doc comment when it stands in its body. -/
theorem holds_briefMark_line_iff : d.line.Holds Line.briefMark ↔ d.body.Holds Line.briefMark := by
  have hbody := Line.holds_docBody_iff (by decide +kernel) (by decide +kernel) d.line (m := Line.briefMark)
  rw [← hbody, docBody_line]

/-- An indented doc comment is no heading. -/
theorem not_marks_line (h : d.indentation ≠ []) (level : HeadingLevel) : ¬ level.Marks d.line := by
  rintro ⟨hsign, -, -⟩
  obtain ⟨c, r, hc⟩ := List.exists_cons_of_ne_nil h
  have hline : d.line = c :: (r ++ List.replicate d.signs '#' ++ d.gap ++ d.body ++ d.tail) := by
    rw [line, hc]
    rfl
  rw [hline] at hsign
  obtain rfl : '#' = c := (List.cons_prefix_cons.mp hsign).1
  have hwhite := d.isWhiteSpace_indentation '#' (hc ▸ List.mem_cons_self)
  exact Bool.false_ne_true (isWhiteSpace_sign.symm.trans hwhite)

/-- A doc comment is read as it was written, in two parts.
1. When it is indented, it is marked for no heading.
2. When it is marked for none, it has the form of a doc comment with its body; or, if the mark of a title stands in the body, the
   form of a title, which is the body without the first of these marks, trimmed. -/
theorem ofLine_written :
    (d.indentation ≠ [] → ∀ level : HeadingLevel, ¬ level.Marks d.line) ∧
    ((∀ level : HeadingLevel, ¬ level.Marks d.line) →
      (¬ d.body.Holds Line.briefMark → LineForm.ofLine d.line = .doc d.body) ∧
      (d.body.Holds Line.briefMark → ∃ front rest, d.body.FirstBetween Line.briefMark front rest ∧
        LineForm.ofLine d.line = .brief (Text.trim (front ++ rest)))) := by
  refine ⟨d.not_marks_line, fun hmarks => ?_⟩
  have hnone : HeadingLevel.ofLine? d.line = none := (HeadingLevel.ofLine?_eq_none_iff d.line).mpr hmarks
  constructor
  · intro hbrief
    have hform := LineForm.HasForm.doc hnone d.isDoc_line (mt d.holds_briefMark_line_iff.mp hbrief)
    rw [hform.ofLine_eq, docBody_line]
  · intro hbrief
    obtain ⟨front, rest, hfirst, herase⟩ := Text.exists_firstBetween (by decide) hbrief
    have hform := LineForm.HasForm.brief hnone d.isDoc_line (d.holds_briefMark_line_iff.mpr hbrief)
    refine ⟨front, rest, hfirst, ?_⟩
    rw [hform.ofLine_eq, Line.briefTitle, docBody_line, herase]

/-- An indented doc comment with a title, in whose body comment signs and a second mark stand, and a doc comment at the start of
its line that has no body. -/
theorem ofLine_written_titled :
    let titled : DocLine := ⟨['\u00a0'], 3, [' '], "# plan \\brief the \\brief#".toList, "\t\r".toList,
      by decide, by decide +kernel, by decide, List.all_eq_true.mp (by decide +kernel),
      List.all_eq_true.mp (by decide +kernel), List.all_eq_true.mp (by decide +kernel)⟩
    let empty : DocLine := ⟨[], 5, ['\u3000'], [], [],
      by decide, by decide +kernel, by decide, List.all_eq_true.mp (by decide +kernel),
      List.all_eq_true.mp (by decide +kernel), List.all_eq_true.mp (by decide +kernel)⟩
    (titled.indentation ≠ [] ∧ titled.body.Holds Line.briefMark ∧
      ∃ front rest, titled.body.FirstBetween Line.briefMark front rest ∧
        LineForm.ofLine titled.line = .brief (Text.trim (front ++ rest))) ∧
    ((∀ level : HeadingLevel, ¬ level.Marks empty.line) ∧ ¬ empty.body.Holds Line.briefMark ∧
      LineForm.ofLine empty.line = .doc []) := by
  intro titled empty
  have hindented : titled.indentation ≠ [] := by decide
  have htitle : titled.body.Holds Line.briefMark := by decide +kernel
  have hempty : ∀ level : HeadingLevel, ¬ level.Marks empty.line := by
    intro level
    cases level <;> decide +kernel
  have hplain : ¬ empty.body.Holds Line.briefMark := by decide +kernel
  obtain ⟨hmarks, hform⟩ := ofLine_written titled
  exact ⟨⟨hindented, htitle, (hform (hmarks hindented)).2 htitle⟩, hempty, hplain,
    ((ofLine_written empty).2 hempty).1 hplain⟩

end DocLine

end ScriptDigest
