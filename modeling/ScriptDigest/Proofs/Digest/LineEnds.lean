import Mathlib.Data.List.Forall2
import ScriptDigest.Digest
import ScriptDigest.Proofs.Text.LineEnds

/-!
# Digests of scripts with other line ends

Every part of a digest divides the texts into lines anew, and none of them takes notice of how the line ends are written. All
of them work on lines alone, and none of them tells an empty line from no line (`Text.Relined.eq_of_lines`). So the number of
lines of code, the declarations, the profile and the synopsis of a text stay the same with other line ends, and with them the
whole digest does (`render_relined`).
-/

namespace ScriptDigest

/-- A script of the same name in which the line ends may be written in another way. -/
def Script.Relined (s s' : Script) : Prop := s'.name = s.name ∧ s.text.Relined s'.text

/-! ## The parts of a digest -/

namespace Text.Relined

variable {t t' : Text} (h : Relined t t')

include h

/-- What is found in lines is the same with other line ends, when nothing is found in an empty line. -/
theorem eq_of_lines {α : Type} (f : List Text → α) (hf : f [[]] = f []) : f (lines t') = f (lines t) := by
  rcases h.lines_eq with hl | ⟨rfl, hl⟩
  · rw [hl]
  · rw [hl, hf]
    rfl

theorem codeLineCount_eq : codeLineCount t' = codeLineCount t :=
  h.eq_of_lines (fun ls => ls.countP fun l => decide (Line.IsCode l)) (by decide +kernel)

theorem declarations_eq : Declarations.ofText t' = Declarations.ofText t :=
  h.eq_of_lines (fun ls => (⟨(ls.filter fun l => decide (Line.IsGlobal l)).map trimEnd,
    (ls.filter fun l => decide (Line.IsNode l)).map trimEnd⟩ : Declarations)) (by decide +kernel)

theorem profile_eq (isEntry : Bool) : Profile.ofText t' isEntry = Profile.ofText t isEntry :=
  h.eq_of_lines (Profile.ofLines · isEntry) (by cases isEntry <;> decide +kernel)

theorem synopsis_eq : Synopsis.ofText t' = Synopsis.ofText t :=
  h.eq_of_lines (fun ls => (⟨(readingsFrom .body 1 ls).filterMap Reading.fragment?,
    (readingsFrom .body 1 ls).filterMap Reading.entry?⟩ : Synopsis)) (by decide +kernel)

end Text.Relined

/-! ## The digest -/

namespace Script.Relined

variable {s s' : Script} (h : s.Relined s')

include h

theorem indexRow_eq (entryName : Text) : IndexRow.ofScript entryName s' = IndexRow.ofScript entryName s := by
  obtain ⟨hname, htext⟩ := h
  simp only [IndexRow.ofScript, hname, htext.codeLineCount_eq, htext.declarations_eq, htext.profile_eq]

theorem synopsis_eq : s'.synopsis = s.synopsis := by
  simp only [Script.synopsis, h.2.synopsis_eq, h.2.declarations_eq]

theorem entrySection_eq (target : Text) : s'.entrySection target = s.entrySection target := by
  simp only [Script.entrySection, Script.sectionHead, h.synopsis_eq, h.1, h.2.codeLineCount_eq]

end Script.Relined

/-- Scripts with other line ends have the same rows in an index. -/
theorem indexRows_relined {ss ss' : List Script} (h : List.Forall₂ Script.Relined ss ss') (entryName : Text) :
    IndexRow.ofScripts ss' entryName = IndexRow.ofScripts ss entryName := by
  have hrows : ss'.map (IndexRow.ofScript entryName) = ss.map (IndexRow.ofScript entryName) := by
    induction h with
    | nil => rfl
    | cons hs _ ih => rw [List.map_cons, List.map_cons, hs.indexRow_eq, ih]
  rw [IndexRow.ofScripts, hrows, IndexRow.ofScripts]

/-- A digest stays the same, to the last character, when any of its texts are written with other line ends. -/
theorem render_relined (d : Digest) (scripts : List Script) (entry : Script)
    (hs : List.Forall₂ Script.Relined d.scripts scripts) (he : d.entry.Relined entry) :
    ({ d with scripts, entry } : Digest).render = d.render := by
  have hrows : IndexRow.ofScripts scripts d.entryName = IndexRow.ofScripts d.scripts d.entryName :=
    indexRows_relined hs d.entryName
  have hsection : entry.entrySection d.target = d.entry.entrySection d.target := he.entrySection_eq d.target
  rw [Digest.render, Digest.render, hrows, hsection]

/-- The digest of two scripts, of which one gets carriage returns and the other one both these and a last line feed, and of
an entry point without text that gets a line feed. -/
theorem render_relined_three :
    let a : Script := ⟨"A.gd".toList, "extends Node\n\n# | Globals |\nvar a\n".toList⟩
    let b : Script := ⟨"B.gd".toList, "class_name B\n## remark".toList⟩
    let c : Script := ⟨"C.gd".toList, []⟩
    let a' : Script := ⟨"A.gd".toList, "extends Node\r\n\r\n# | Globals |\r\nvar a\r\n".toList⟩
    let b' : Script := ⟨"B.gd".toList, "class_name B\r\n## remark\r\n".toList⟩
    let c' : Script := ⟨"C.gd".toList, ['\n']⟩
    (List.Forall₂ Script.Relined [a, b] [a', b'] ∧ c.Relined c') ∧
      (⟨[a', b'], c', c.name, b.name, "Main.md".toList, true⟩ : Digest).render =
        (⟨[a, b], c, c.name, b.name, "Main.md".toList, true⟩ : Digest).render := by
  intro a b c a' b' c'
  have ha : a.Relined a' := ⟨rfl, by
    have ht : a'.text = Text.withReturns a.text := by decide +kernel
    rw [ht]
    exact .returns (by decide +kernel)⟩
  have hb : b.Relined b' := ⟨rfl, by
    have ht : b'.text = Text.withReturns (Text.ended b.text) := by decide +kernel
    rw [ht]
    exact .endedReturns (by decide +kernel) (by decide +kernel)⟩
  have hc : c.Relined c' := ⟨rfl, .ended (by decide +kernel) (by decide +kernel)⟩
  have hs : List.Forall₂ Script.Relined [a, b] [a', b'] := .cons ha (.cons hb .nil)
  exact ⟨⟨hs, hc⟩, render_relined ⟨[a, b], c, c.name, b.name, "Main.md".toList, true⟩ [a', b'] c' hs hc⟩

end ScriptDigest
