import ScriptDigest.Proofs.LineTests
import ScriptDigest.Proofs.Text.Joining

/-!
# The block of the declarations read again

The block repeats the declarations of a text line by line, each without the white space at its end. This white space may have been
part of what makes a line a declaration: the keyword of a variable ends in a blank. So a variable is one also without it exactly
when something stands behind the keyword (`Line.isGlobal_trimEnd_iff`), and a node always is, since it fetches something
(`Line.isNode_trimEnd_iff`). No declaration is a fence or more than one line (`Declarations.shape_of_mem`), and so the lines of the
block are found again (`Declarations.lines_block`). `Declarations.block_readBack` puts together what is read in the block.
-/

namespace ScriptDigest

/-! ## Declarations without the white space at their ends -/

namespace Line

/-- The beginnings of declarations without the blank at their end. They declare nothing. -/
def bareKeywords : List Text := ["var".toList, "onready var".toList, "@onready var".toList]

theorem fetches_trimEnd_iff (l : Text) : Fetches (Text.trimEnd l) ↔ Fetches l := by
  have hnode : ∃ c ∈ nodeCall.getLast?, Unicode.isWhiteSpace c = false := ⟨'(', by decide, by decide +kernel⟩
  have hpreload : ∃ c ∈ preloadCall.getLast?, Unicode.isWhiteSpace c = false := ⟨'(', by decide, by decide +kernel⟩
  unfold Fetches Text.trimEnd
  rw [Text.holds_dropEndWhile_iff hnode, Text.holds_dropEndWhile_iff hpreload]

/-- A line begins with a keyword also without the white space at its end, unless only the keyword is left of it. -/
theorem prefix_trimEnd_iff {k : Text} (hk : k ∈ globalKeywords) (l : Text) :
    k <+: Text.trimEnd l ↔ k <+: l ∧ Text.trimEnd l ∉ bareKeywords := by
  constructor
  · intro hp
    refine ⟨hp.trans (Text.dropEndWhile_isPrefix _ l), fun hbare => ?_⟩
    have hshort : ∀ k ∈ globalKeywords, ∀ b ∈ bareKeywords, ¬ k <+: b := by decide +kernel
    exact hshort k hk _ hbare hp
  · rintro ⟨⟨r, rfl⟩, hbare⟩
    have hkeyword : ∀ k ∈ globalKeywords, Text.trimEnd k ∈ bareKeywords := by decide +kernel
    unfold Text.trimEnd at hbare ⊢
    by_cases hr : Text.dropEndWhile Unicode.isWhiteSpace r = []
    · rw [Text.dropEndWhile_append_of_eq_nil hr] at hbare
      exact absurd (hkeyword k hk) hbare
    · rw [Text.dropEndWhile_append_of_ne_nil hr]
      exact List.prefix_append k _

/-- A variable is one also without the white space at its end, unless only the keyword is left of it. -/
theorem isGlobal_trimEnd_iff (l : Text) : IsGlobal (Text.trimEnd l) ↔ IsGlobal l ∧ Text.trimEnd l ∉ bareKeywords := by
  unfold IsGlobal
  rw [fetches_trimEnd_iff]
  constructor
  · rintro ⟨⟨k, hk, hp⟩, hf⟩
    obtain ⟨hl, hbare⟩ := (prefix_trimEnd_iff hk l).mp hp
    exact ⟨⟨⟨k, hk, hl⟩, hf⟩, hbare⟩
  · rintro ⟨⟨⟨k, hk, hl⟩, hf⟩, hbare⟩
    exact ⟨⟨k, hk, (prefix_trimEnd_iff hk l).mpr ⟨hl, hbare⟩⟩, hf⟩

/-- A node is one also without the white space at its end, since what it fetches is left of it. -/
theorem isNode_trimEnd_iff (l : Text) : IsNode (Text.trimEnd l) ↔ IsNode l := by
  have hbare : ∀ b ∈ bareKeywords, ¬ Fetches b := by decide +kernel
  unfold IsNode
  rw [fetches_trimEnd_iff]
  constructor
  · rintro ⟨⟨k, hk, hp⟩, hf⟩
    exact ⟨⟨k, hk, ((prefix_trimEnd_iff (List.mem_cons_of_mem _ hk) l).mp hp).1⟩, hf⟩
  · rintro ⟨⟨k, hk, hl⟩, hf⟩
    have hleft : Text.trimEnd l ∉ bareKeywords := fun hb => hbare _ hb ((fetches_trimEnd_iff l).mpr hf)
    exact ⟨⟨k, hk, (prefix_trimEnd_iff (List.mem_cons_of_mem _ hk) l).mpr ⟨hl, hleft⟩⟩, hf⟩

/-- A declaration does not begin like a fence. -/
theorem Declares.not_fence {line : Text} (h : Declares line) : ¬ ['`'] <+: line := by
  have hkeywords : ∀ k ∈ globalKeywords, ¬ ['`'] <+: k ∧ ¬ k <+: ['`'] := by decide +kernel
  obtain ⟨k, hk, hkp⟩ := h.exists_keyword
  intro hp
  rcases List.prefix_or_prefix_of_prefix hp hkp with hq | hq
  · exact (hkeywords k hk).1 hq
  · exact (hkeywords k hk).2 hq

end Line

namespace Declarations

/-! ## The lines of the block -/

/-- The lines of the block: each group of declarations between its fences, and an empty line between the groups. -/
def blockLines (d : Declarations) : List Text :=
  [fenceOpening] ++ d.globals ++ [fenceClosing, [], fenceOpening] ++ d.nodes ++ [fenceClosing]

theorem block_eq_joinLines (d : Declarations) : d.block = Text.joinLines d.blockLines := by
  let nodeLines : List Text := fenceOpening :: d.nodes ++ [fenceClosing]
  have hlines : d.blockLines = (fenceOpening :: d.globals ++ [fenceClosing]) ++ ([[]] ++ nodeLines) := by
    simp [blockLines, nodeLines]
  have houter : Text.joinLines ((fenceOpening :: d.globals ++ [fenceClosing]) ++ ([[]] ++ nodeLines)) =
      fence d.globals ++ '\n' :: Text.joinLines ([[]] ++ nodeLines) := Text.joinLines_append (by simp) (by simp)
  have hinner : Text.joinLines ([[]] ++ nodeLines) = '\n' :: fence d.nodes :=
    Text.joinLines_append (by simp) (by simp [nodeLines])
  rw [hlines, houter, hinner, block, Text.joinLines_cons_cons, Text.joinLines_cons_cons]
  simp [Text.joinLines]

theorem mem_globals_iff {text l : Text} :
    l ∈ (ofText text).globals ↔ ∃ line ∈ Text.lines text, Line.IsGlobal line ∧ Text.trimEnd line = l := by
  simp only [ofText, List.mem_map, List.mem_filter, decide_eq_true_eq, and_assoc]

theorem mem_nodes_iff {text l : Text} :
    l ∈ (ofText text).nodes ↔ ∃ line ∈ Text.lines text, Line.IsNode line ∧ Text.trimEnd line = l := by
  simp only [ofText, List.mem_map, List.mem_filter, decide_eq_true_eq, and_assoc]

/-- A declaration of a text is a single line without white space at its end, and no fence. -/
theorem shape_of_mem {text l : Text} (h : l ∈ (ofText text).globals ∨ l ∈ (ofText text).nodes) :
    '\n' ∉ l ∧ Text.trimEnd l = l ∧ l ≠ fenceOpening ∧ l ≠ fenceClosing := by
  obtain ⟨line, hline, hdeclares, rfl⟩ := (mem_ofText_iff text l).mp h
  have hbegins : Text.trimEnd line <+: line := Text.dropEndWhile_isPrefix _ line
  have hfence : ¬ ['`'] <+: Text.trimEnd line := fun hp => hdeclares.not_fence (hp.trans hbegins)
  refine ⟨fun hlf => ?_, Text.dropEndWhile_dropEndWhile _ line, fun heq => hfence ?_, fun heq => hfence ?_⟩
  · exact Text.newline_not_mem_of_mem_lines text line hline (hbegins.subset hlf)
  · rw [heq]
    decide
  · rw [heq]
    decide

/-! ## Reading the block -/

/-- The lines of the block hold no line feed, and none of them ends in a carriage return. -/
theorem plain_of_mem_blockLines {text l : Text} (h : l ∈ (ofText text).blockLines) :
    '\n' ∉ l ∧ l.getLast? ≠ some '\r' := by
  have hfences : ∀ l ∈ [fenceOpening, fenceClosing, []], '\n' ∉ l ∧ l.getLast? ≠ some '\r' := by decide +kernel
  have hdeclared : l ∈ (ofText text).globals ∨ l ∈ (ofText text).nodes → '\n' ∉ l ∧ l.getLast? ≠ some '\r' := by
    intro hmem
    obtain ⟨hlf, htrim, -⟩ := shape_of_mem hmem
    refine ⟨hlf, fun hcr => ?_⟩
    rw [← htrim] at hcr
    exact absurd (Text.getLast?_dropEndWhile hcr) (by decide +kernel)
  simp only [blockLines, List.mem_append, List.mem_cons, List.not_mem_nil, or_false] at h
  rcases h with (((rfl | h) | rfl | rfl | rfl) | h) | rfl
  · exact hfences _ (by simp)
  · exact hdeclared (Or.inl h)
  · exact hfences _ (by simp)
  · exact hfences _ (by simp)
  · exact hfences _ (by simp)
  · exact hdeclared (Or.inr h)
  · exact hfences _ (by simp)

theorem lines_block (text : Text) : Text.lines (ofText text).block = (ofText text).blockLines := by
  rw [block_eq_joinLines]
  refine Text.lines_joinLines (fun l hl => plain_of_mem_blockLines hl) ?_
  rw [blockLines, List.getLast?_concat]
  decide

section members

variable {text l : Text}

theorem isGlobal_iff_of_mem_globals (h : l ∈ (ofText text).globals) : Line.IsGlobal l ↔ l ∉ Line.bareKeywords := by
  obtain ⟨line, -, hglobal, rfl⟩ := mem_globals_iff.mp h
  rw [Line.isGlobal_trimEnd_iff, and_iff_right hglobal]

theorem not_isNode_of_mem_globals (h : l ∈ (ofText text).globals) : ¬ Line.IsNode l := by
  obtain ⟨line, -, hglobal, rfl⟩ := mem_globals_iff.mp h
  rw [Line.isNode_trimEnd_iff]
  exact hglobal.not_isNode

theorem isNode_of_mem_nodes (h : l ∈ (ofText text).nodes) : Line.IsNode l := by
  obtain ⟨line, -, hnode, rfl⟩ := mem_nodes_iff.mp h
  exact (Line.isNode_trimEnd_iff line).mpr hnode

end members

/-- What a test that no fence passes finds in the block, it finds in the two groups. -/
theorem filter_blockLines {p : Text → Bool} (hp : ∀ l ∈ [fenceOpening, fenceClosing, []], p l = false) (d : Declarations) :
    d.blockLines.filter p = d.globals.filter p ++ d.nodes.filter p := by
  have hopening : p fenceOpening = false := hp _ (by simp)
  have hclosing : p fenceClosing = false := hp _ (by simp)
  have hempty : p [] = false := hp _ (by simp)
  simp [blockLines, hopening, hclosing, hempty]

/-- The variables in the block are those of the text of which more than a keyword is left. -/
theorem filter_isGlobal_blockLines (text : Text) : (ofText text).blockLines.filter (fun l => decide (Line.IsGlobal l)) =
    (ofText text).globals.filter fun l => decide (l ∉ Line.bareKeywords) := by
  have hglobals : (ofText text).globals.filter (fun l => decide (Line.IsGlobal l)) =
      (ofText text).globals.filter fun l => decide (l ∉ Line.bareKeywords) :=
    List.filter_congr fun l hl => decide_eq_decide.mpr (isGlobal_iff_of_mem_globals hl)
  have hnodes : (ofText text).nodes.filter (fun l => decide (Line.IsGlobal l)) = [] := by
    rw [List.filter_eq_nil_iff]
    intro l hl hglobal
    exact Line.IsGlobal.not_isNode (of_decide_eq_true hglobal) (isNode_of_mem_nodes hl)
  rw [filter_blockLines (by decide +kernel), hglobals, hnodes, List.append_nil]

/-- The nodes in the block are those of the text. -/
theorem filter_isNode_blockLines (text : Text) :
    (ofText text).blockLines.filter (fun l => decide (Line.IsNode l)) = (ofText text).nodes := by
  have hglobals : (ofText text).globals.filter (fun l => decide (Line.IsNode l)) = [] := by
    rw [List.filter_eq_nil_iff]
    intro l hl hnode
    exact not_isNode_of_mem_globals hl (of_decide_eq_true hnode)
  have hnodes : (ofText text).nodes.filter (fun l => decide (Line.IsNode l)) = (ofText text).nodes := by
    rw [List.filter_eq_self]
    intro l hl
    exact decide_eq_true (isNode_of_mem_nodes hl)
  rw [filter_blockLines (by decide +kernel), hglobals, hnodes, List.nil_append]

/-- The declarations that are read in the block are those of the text, but for the variables of which only a keyword is left. -/
theorem ofText_block (text : Text) : ofText (ofText text).block =
    ⟨(ofText text).globals.filter fun l => decide (l ∉ Line.bareKeywords), (ofText text).nodes⟩ := by
  have hkeep : ∀ ls : List Text, (∀ l ∈ ls, l ∈ (ofText text).globals ∨ l ∈ (ofText text).nodes) →
      ls.map Text.trimEnd = ls := by
    intro ls h
    have hself : ls.map Text.trimEnd = ls.map id := List.map_congr_left fun l hl => (shape_of_mem (h l hl)).2.1
    rw [hself, List.map_id]
  have hglobals := hkeep ((ofText text).globals.filter fun l => decide (l ∉ Line.bareKeywords))
    fun l hl => Or.inl (List.mem_filter.mp hl).1
  have hnodes := hkeep (ofText text).nodes fun l hl => Or.inr hl
  have hread (t : Text) : ofText t = ⟨((Text.lines t).filter fun l => decide (Line.IsGlobal l)).map Text.trimEnd,
    ((Text.lines t).filter fun l => decide (Line.IsNode l)).map Text.trimEnd⟩ := rfl
  rw [hread (ofText text).block, lines_block, filter_isGlobal_blockLines, filter_isNode_blockLines, hglobals, hnodes]

/-- A second reading of the block changes nothing. -/
theorem ofText_block_again (text : Text) :
    ofText (ofText (ofText text).block).block = ofText (ofText text).block := by
  rw [ofText_block (ofText text).block, ofText_block text]
  simp only [List.filter_filter, Bool.and_self]

/-- The block of the declarations of a text, and what is found when it is read like a text, in four parts.
1. Its lines are the declarations between their fences, with an empty line between the two groups.
2. No declaration can be taken for a fence or for more than one line.
3. The nodes that are read are those of the text, and so are the variables, except those of which only the keyword is left:
   without the blank behind it, it declares nothing.
4. Reading the block of what was read changes nothing further. -/
theorem block_readBack (text : Text) :
    (ofText text).block.splitOn '\n' = [fenceOpening] ++ (ofText text).globals ++ [fenceClosing, [], fenceOpening] ++
      (ofText text).nodes ++ [fenceClosing] ∧
    (∀ l, l ∈ (ofText text).globals ∨ l ∈ (ofText text).nodes → '\n' ∉ l ∧ l ≠ fenceOpening ∧ l ≠ fenceClosing) ∧
    ((ofText (ofText text).block).nodes = (ofText text).nodes ∧
      (ofText (ofText text).block).globals = (ofText text).globals.filter fun l => decide (l ∉ Line.bareKeywords)) ∧
    ofText (ofText (ofText text).block).block = ofText (ofText text).block := by
  refine ⟨?_, ?_, ?_, ofText_block_again text⟩
  · have hplain : ∀ l ∈ (ofText text).blockLines, '\n' ∉ l := fun l hl => (plain_of_mem_blockLines hl).1
    rw [block_eq_joinLines]
    exact List.splitOn_intercalate '\n' hplain (by simp [blockLines])
  · intro l hl
    obtain ⟨hlf, -, hfences⟩ := shape_of_mem hl
    exact ⟨hlf, hfences⟩
  · rw [ofText_block]
    exact ⟨rfl, rfl⟩

/-- Of a keyword with a blank behind it only the keyword is kept, and this is not found again. -/
example : (ofText "var \nvar a\n".toList).globals = ["var".toList, "var a".toList] ∧
    (ofText (ofText "var \nvar a\n".toList).block).globals = ["var a".toList] := by decide +kernel

end Declarations

end ScriptDigest
