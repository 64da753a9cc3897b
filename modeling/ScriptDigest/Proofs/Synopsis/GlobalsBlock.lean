import ScriptDigest.Digest
import ScriptDigest.Proofs.Declarations
import ScriptDigest.Proofs.Synopsis.Callbacks
import ScriptDigest.Proofs.Synopsis.Sections

/-!
# The block of the globals in the search for callbacks

The section on an entry point prints the values of the callbacks after the block of the declarations has been put in, so the
block is one of the fragments that are searched. It is found when a declaration holds the marker and no fragment before the
heading of the globals does (`Callback.OverriddenIn`), and then a piece of the block is printed in place of a line number.
`Script.printed_callback` says that this is the only case in which the block changes what is printed. That it never does is
false (`Script.printed_callback_ne`).
-/

namespace ScriptDigest

namespace Callback

/-- A line that declares something holds the marker of the callback. -/
def DeclaredIn (c : Callback) (text : Text) : Prop :=
  ∃ line ∈ Text.lines text, Line.Declares line ∧ line.Holds c.marker

instance (c : Callback) (text : Text) : Decidable (c.DeclaredIn text) := inferInstanceAs (Decidable (∃ line ∈ _, _))

/-- The block of the declarations is the first fragment that holds the marker: a declaration holds it, there is a heading to
put the block behind, and no line before this heading has a fragment that holds the marker. -/
def OverriddenIn (c : Callback) (text : Text) : Prop :=
  c.DeclaredIn text ∧ ∃ i ∈ firstPlace? (GlobalsAt (Text.lines text)) (Text.lines text).length,
    ∀ j, j < i → ¬ c.MentionedAt (Text.lines text) j

instance (c : Callback) (text : Text) : Decidable (c.OverriddenIn text) :=
  inferInstanceAs (Decidable (_ ∧ ∃ i ∈ _, ∀ j, j < i → _))

/-- The line of the head of a section that has the value of the callback, counted from zero. -/
def headLine : Callback → Nat
  | ready => 5
  | process => 8

/-! ## Markers and the block -/

/-- The block of a text holds the marker when a line that declares something does. -/
theorem holds_block_iff (c : Callback) (text : Text) :
    (Declarations.ofText text).block.Holds c.marker ↔ c.DeclaredIn text := by
  have hmarker : c.marker ≠ [] ∧ '\n' ∉ c.marker ∧ ¬ Declarations.fenceOpening.Holds c.marker ∧
      ¬ Declarations.fenceClosing.Holds c.marker := by
    cases c <;> decide +kernel
  obtain ⟨hne, hlf, ho, hc⟩ := hmarker
  exact Declarations.holds_block_iff hne hlf ho hc c.firm_marker.2 text

theorem not_holds_globalsTitle (c : Callback) : ¬ Synopsis.globalsTitle.Holds c.marker := by cases c <;> decide +kernel

/-- No fragment before a place holds the marker when no line before it has such a fragment. -/
theorem not_holds_fragmentsBefore_iff (c : Callback) (ls : List Text) (i : Nat) :
    (∀ f ∈ fragmentsBefore ls i, ¬ f.Holds c.marker) ↔ ∀ j, j < i → ¬ c.MentionedAt ls j := by
  constructor
  · rintro h j hj ⟨f, hf, hm⟩
    exact h f (List.mem_filterMap.mpr ⟨j, List.mem_range.mpr hj, hf⟩) hm
  · intro h f hf hm
    obtain ⟨j, hj, hf⟩ := List.mem_filterMap.mp hf
    exact h j (List.mem_range.mp hj) ⟨f, hf, hm⟩

end Callback

/-! ## The search with the block in place -/

/-- An item put in behind another one that fails the test is found when it passes the test and nothing in front does. -/
theorem find?_append_cons_cons {α : Type} (q : α → Prop) [DecidablePred q] {mark : α} (hmark : ¬ q mark) (item : α)
    (front rest : List α) : (front ++ mark :: item :: rest).find? (fun a => decide (q a)) =
      if q item ∧ ∀ a ∈ front, ¬ q a then some item else (front ++ mark :: rest).find? fun a => decide (q a) := by
  have hskip : ∀ l : List α, (mark :: l).find? (fun a => decide (q a)) = l.find? fun a => decide (q a) :=
    fun l => List.find?_cons_of_neg (by simpa using hmark)
  rw [List.find?_append, List.find?_append, hskip, hskip]
  cases hfront : front.find? fun a => decide (q a) with
  | some a =>
    have ha : q a := by simpa using List.find?_some hfront
    have hnot : ¬ (q item ∧ ∀ b ∈ front, ¬ q b) := fun h => h.2 a (List.mem_of_find?_eq_some hfront) ha
    rw [if_neg hnot, Option.some_or, Option.some_or]
  | none =>
    have hall : ∀ a ∈ front, ¬ q a := fun a ha => by simpa using List.find?_eq_none.mp hfront a ha
    rw [Option.none_or, Option.none_or]
    by_cases hitem : q item
    · rw [if_pos ⟨hitem, hall⟩, List.find?_cons_of_pos (by simpa using hitem)]
    · rw [if_neg fun h => hitem h.1, List.find?_cons_of_neg (by simpa using hitem)]

/-- The value of a callback that is read off the lines of a script holds no line feed. -/
theorem newline_not_mem_lineOf (c : Callback) (text : Text) : '\n' ∉ (Synopsis.ofText text).lineOf c := by
  rw [Synopsis.lineOf_eq]
  cases hfind : (Synopsis.ofText text).fragments.find? fun f => decide (f.Holds c.marker) with
  | none => exact (by decide : '\n' ∉ ['0'])
  | some f =>
    intro hmem
    exact Synopsis.newline_not_mem_fragments (List.mem_of_find?_eq_some hfind)
      (Text.before_subset _ f (Text.trim_subset _ hmem))

namespace Script

/-- The synopsis of a script without a heading for the globals is that of its text alone. -/
theorem synopsis_of_none {s : Script} (h : firstPlace? (GlobalsAt (Text.lines s.text)) (Text.lines s.text).length = none) :
    s.synopsis = Synopsis.ofText s.text := by
  rw [synopsis, insertGlobals?_ofText, h]
  rfl

/-- The fragments of a script with a heading for the globals. -/
theorem fragments_synopsis_of_some {s : Script} {i : Nat}
    (h : firstPlace? (GlobalsAt (Text.lines s.text)) (Text.lines s.text).length = some i) :
    s.synopsis.fragments = fragmentsBefore (Text.lines s.text) i ++
      Synopsis.globalsTitle :: (Declarations.ofText s.text).block :: fragmentsBehind (Text.lines s.text) i := by
  rw [synopsis, insertGlobals?_ofText, h]
  rfl

/-- The value of a callback with the block in place is the one without it, unless the block is the first fragment that holds
the marker. -/
theorem lineOf_synopsis (s : Script) (c : Callback) : s.synopsis.lineOf c =
    if c.OverriddenIn s.text then Text.trim (Text.before (· == ':') (Declarations.ofText s.text).block)
    else (Synopsis.ofText s.text).lineOf c := by
  cases hfirst : firstPlace? (GlobalsAt (Text.lines s.text)) (Text.lines s.text).length with
  | none =>
    have hnot : ¬ c.OverriddenIn s.text := by
      rintro ⟨-, i, hi, -⟩
      rw [hfirst] at hi
      nomatch hi
    rw [if_neg hnot, synopsis_of_none hfirst]
  | some i =>
    have hplain := fragments_eq_append_cons ((fragmentAt?_eq_globalsTitle_iff _ i).mpr (firstPlace?_eq_some_iff.mp hfirst).1)
    have hoverridden : c.OverriddenIn s.text ↔ (Declarations.ofText s.text).block.Holds c.marker ∧
        ∀ f ∈ fragmentsBefore (Text.lines s.text) i, ¬ f.Holds c.marker := by
      rw [c.holds_block_iff, c.not_holds_fragmentsBefore_iff, Callback.OverriddenIn, hfirst]
      simp only [Option.mem_some_iff, exists_eq_left']
    rw [Synopsis.lineOf_eq, Synopsis.lineOf_eq, fragments_synopsis_of_some hfirst, hplain,
      find?_append_cons_cons (Text.Holds · c.marker) c.not_holds_globalsTitle]
    by_cases h : c.OverriddenIn s.text
    · rw [if_pos h, if_pos (hoverridden.mp h), Option.elim_some]
    · rw [if_neg h, if_neg fun hf => h (hoverridden.mpr hf)]

/-- The value of a callback stands on its line of the head of the section, in front of a full stop. -/
theorem getElem?_sectionHead (s : Script) (c : Callback) :
    s.sectionHead[c.headLine]? = some (s.synopsis.lineOf c ++ ['.']) := by
  cases c <;> rfl

/-- What the section on an entry point prints for a callback, in four parts.
1. The section begins with the lines of its head.
2. One of these is the value of the callback with the block of the globals in place, and a full stop.
3. This value is the one read off the lines of the script alone, unless the block is the first fragment that holds the
   marker, and then it is what stands before the first colon of the block.
4. So the printed value is the one read off the lines of the script alone exactly when the block is not that fragment. -/
theorem printed_callback (s : Script) (target : Text) (c : Callback) :
    (∃ rest, s.entrySection target = Text.joinLines (s.sectionHead ++ rest)) ∧
      s.sectionHead[c.headLine]? = some (s.synopsis.lineOf c ++ ['.']) ∧
      s.synopsis.lineOf c =
        (if c.OverriddenIn s.text then Text.trim (Text.before (· == ':') (Declarations.ofText s.text).block)
        else (Synopsis.ofText s.text).lineOf c) ∧
      (s.sectionHead[c.headLine]? = some ((Synopsis.ofText s.text).lineOf c ++ ['.']) ↔ ¬ c.OverriddenIn s.text) := by
  refine ⟨⟨_, rfl⟩, s.getElem?_sectionHead c, s.lineOf_synopsis c, ?_⟩
  rw [getElem?_sectionHead, Option.some_inj, List.append_left_inj, lineOf_synopsis]
  constructor
  · intro heq hover
    rw [if_pos hover] at heq
    exact newline_not_mem_lineOf c s.text (heq ▸ Declarations.newline_mem_trim_before_block s.text)
  · intro hover
    rw [if_neg hover]

/-- The block of the globals can change what is printed for a callback: a variable whose value is the result of a function
with a name that ends like that of the callback is found before the callback itself. -/
theorem printed_callback_ne :
    let s : Script := ⟨"Main.gd".toList, "# | Globals |\nvar a = is_ready()\nfunc _ready():\n".toList⟩
    s.sectionHead[Callback.headLine .ready]? ≠ some ((Synopsis.ofText s.text).lineOf .ready ++ ['.']) ∧
      (Synopsis.ofText s.text).lineOf .ready = ['3'] ∧
      s.synopsis.lineOf .ready = "```gdscript\nvar a = is_ready()\n```\n\n```gdscript\n```".toList := by
  decide +kernel

end Script

end ScriptDigest
