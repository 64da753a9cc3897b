import ScriptDigest.Declarations
import ScriptDigest.Proofs.Text.Printing

/-!
# What the block of the declarations holds

The block repeats the declarations of a script between fences. So a marker that neither a fence holds nor white space ends is
found in the block exactly when a line that declares something holds it (`holds_block_iff`). And whatever is declared, the
block has a line feed before its first colon, and trimming does not remove it (`newline_mem_trim_before_block`).
-/

namespace ScriptDigest

/-- The line declares a variable of the whole script, fetched or not. -/
def Line.Declares (line : Text) : Prop := Line.IsGlobal line ∨ Line.IsNode line

instance (line : Text) : Decidable (Line.Declares line) := inferInstanceAs (Decidable (_ ∨ _))

namespace Declarations

/-- The declarations of a text are its lines that declare something, each less the white space at its end. -/
theorem mem_ofText_iff (text l : Text) : l ∈ (ofText text).globals ∨ l ∈ (ofText text).nodes ↔
    ∃ line ∈ Text.lines text, Line.Declares line ∧ Text.trimEnd line = l := by
  simp only [ofText, Line.Declares, List.mem_map, List.mem_filter, decide_eq_true_eq, and_assoc, or_and_right, and_or_left,
    exists_or]

/-! ## Finding a marker in the block -/

section marker

variable {m : Text} (hne : m ≠ []) (hlf : '\n' ∉ m) (ho : ¬ fenceOpening.Holds m) (hc : ¬ fenceClosing.Holds m)

include hne hlf ho hc

/-- A marker that no fence holds is found in lines of code between fences when one of them holds it. -/
theorem holds_fence_iff (code : List Text) : (fence code).Holds m ↔ ∃ l ∈ code, l.Holds m := by
  rw [fence, Text.holds_joinLines_iff hne hlf]
  simp only [List.mem_append, List.mem_cons, List.not_mem_nil, or_false]
  constructor
  · rintro ⟨l, (rfl | hl) | rfl, h⟩
    · exact absurd h ho
    · exact ⟨l, hl, h⟩
    · exact absurd h hc
  · rintro ⟨l, hl, h⟩
    exact ⟨l, Or.inl (Or.inr hl), h⟩

/-- A marker that no fence holds is found in the block when a declaration holds it. -/
theorem holds_block (d : Declarations) : d.block.Holds m ↔ ∃ l, (l ∈ d.globals ∨ l ∈ d.nodes) ∧ l.Holds m := by
  have hempty : ¬ Text.Holds [] m := fun h => hne (List.infix_nil.mp h)
  rw [block, Text.holds_joinLines_iff hne hlf]
  simp only [List.mem_cons, List.not_mem_nil, or_false, exists_eq_left, hempty, false_or,
    holds_fence_iff hne hlf ho hc, or_and_right, exists_or]

/-- A marker that no fence holds, and that does not end in white space, is found in the block of a text exactly when a line
that declares something holds it. -/
theorem holds_block_iff (hend : ∃ c ∈ m.getLast?, Unicode.isWhiteSpace c = false) (text : Text) :
    (ofText text).block.Holds m ↔ ∃ line ∈ Text.lines text, Line.Declares line ∧ line.Holds m := by
  rw [holds_block hne hlf ho hc]
  constructor
  · rintro ⟨l, hl, h⟩
    obtain ⟨line, hline, hd, rfl⟩ := (mem_ofText_iff text l).mp hl
    exact ⟨line, hline, hd, (Text.holds_dropEndWhile_iff hend line).mp h⟩
  · rintro ⟨line, hline, hd, h⟩
    exact ⟨Text.trimEnd line, (mem_ofText_iff text _).mpr ⟨line, hline, hd, rfl⟩,
      (Text.holds_dropEndWhile_iff hend line).mpr h⟩

end marker

/-! ## The first lines of the block -/

/-- A variable of the script begins with a visible character that is no colon, also without the white space at its end. -/
theorem exists_prefix_trimEnd {line : Text} (h : Line.IsGlobal line) :
    ∃ c, [c] <+: Text.trimEnd line ∧ Unicode.isWhiteSpace c = false ∧ c ≠ ':' := by
  have hk : ∀ k ∈ Line.globalKeywords, k.head?.any (fun c => !Unicode.isWhiteSpace c && c != ':') = true := by
    decide +kernel
  obtain ⟨⟨k, hmem, t, rfl⟩, -⟩ := h
  obtain ⟨c, hc, hvisible⟩ := (Option.any_eq_true _ _).mp (hk k hmem)
  obtain ⟨r, rfl⟩ := List.head?_eq_some_iff.mp hc
  rw [Bool.and_eq_true, Bool.not_eq_true', bne_iff_ne] at hvisible
  have hsplit : c :: r ++ t = [c] ++ (r ++ t) := rfl
  refine ⟨c, ?_, hvisible⟩
  rw [hsplit, Text.trimEnd, Text.dropEndWhile_append ⟨c, rfl, hvisible.1⟩]
  exact List.prefix_append _ _

/-- Behind the line that opens its first fence, the block goes on with a visible character that is no colon. -/
theorem exists_prefix_block (text : Text) :
    ∃ c, fenceOpening ++ ['\n', c] <+: (ofText text).block ∧ Unicode.isWhiteSpace c = false ∧ c ≠ ':' := by
  have hblock : fence (ofText text).globals <+: (ofText text).block := Text.prefix_joinLines _ _
  have hfence : ∀ (c : Char) (l : Text) (ls : List Text), [c] <+: l →
      fenceOpening ++ ['\n', c] <+: Text.joinLines (fenceOpening :: l :: ls) := by
    intro c l ls hl
    rw [Text.joinLines_cons_cons]
    exact (List.prefix_append_right_inj _).mpr
      (List.cons_prefix_cons.mpr ⟨rfl, hl.trans (Text.prefix_joinLines l ls)⟩)
  cases hg : (ofText text).globals with
  | nil =>
    rw [hg] at hblock
    exact ⟨'`', (hfence _ _ _ ⟨_, rfl⟩).trans hblock, by decide +kernel⟩
  | cons l ls =>
    have hl : l ∈ (ofText text).globals := hg ▸ List.mem_cons_self
    obtain ⟨line, hline, rfl⟩ := List.mem_map.mp hl
    obtain ⟨c, hc, hvisible⟩ := exists_prefix_trimEnd (of_decide_eq_true (List.mem_filter.mp hline).2)
    rw [hg] at hblock
    exact ⟨c, (hfence _ _ _ hc).trans hblock, hvisible⟩

/-- What stands before the first colon of the block holds a line feed, also when it is trimmed. -/
theorem newline_mem_trim_before_block (text : Text) :
    '\n' ∈ Text.trim (Text.before (· == ':') (ofText text).block) := by
  obtain ⟨c, ⟨r, hr⟩, hw, hcolon⟩ := exists_prefix_block text
  have hsplit : fenceOpening ++ ['\n', c] = fenceOpening ++ ['\n'] ++ [c] := rfl
  have hbefore : ':' ∉ fenceOpening ++ ['\n'] ++ [c] := by
    rw [List.mem_append, List.mem_singleton, not_or]
    exact ⟨by decide, hcolon.symm⟩
  have hfirm : Text.Firm Unicode.isWhiteSpace (fenceOpening ++ ['\n'] ++ [c]) :=
    ⟨⟨'`', rfl, by decide +kernel⟩, c, List.getLast?_concat, hw⟩
  rw [← hr, hsplit, Text.before_append_of_not_mem hbefore, Text.trim, Text.strip_append hfirm]
  exact List.mem_append_left _ (List.mem_append_left _ (List.mem_append_right _ List.mem_cons_self))

end Declarations

end ScriptDigest
