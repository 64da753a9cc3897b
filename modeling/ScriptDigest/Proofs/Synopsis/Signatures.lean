import Mathlib.Data.List.Find
import ScriptDigest.Proofs.LineTests
import ScriptDigest.Proofs.Synopsis.Callbacks

/-!
# Callbacks that are found in signatures

The fragment of a function has the number of its line in front of a colon. A printed number holds no colon, so what stands
before the first colon of such a fragment is the number, however the signature goes on. And the fragment holds a marker
exactly when the line does, since no marker reaches back over the blank behind that colon (`holds_functionFragment_iff`).

The paths of nodes hold no marker. So whatever holds one is the first line of a function, or a line that is shown in words of
the author: a heading, a doc comment, or a line that goes on with a signature (`Callback.MentionedAt.origin`). Where no words
hold the marker, the value of the callback is the number of the first line of a function that does
(`Callback.namedNumber`), as `lineOf_signature` says.
-/

namespace ScriptDigest

/-- Whether a form is a heading or a doc comment, with a title or without. -/
def LineForm.isProse : LineForm → Bool
  | heading _ _ | brief _ | doc _ => true
  | function _ | nodeCall _ | global | node | comment | blank | plain => false

/-- The line is a heading or a doc comment. -/
def Line.IsProse (line : Text) : Prop := (LineForm.ofLine line).isProse = true

instance (line : Text) : Decidable (Line.IsProse line) := inferInstanceAs (Decidable (_ = _))

/-- The line shows the path of a node that it looks up. -/
def Line.ShowsPath (line : Text) : Prop := (LineForm.ofLine line).isNodeCall = true

instance (line : Text) : Decidable (Line.ShowsPath line) := inferInstanceAs (Decidable (_ = _))

namespace Callback

/-- The line at a place is the first one of a function and holds the marker of the callback. -/
def NamedAt (c : Callback) (ls : List Text) (i : Nat) : Prop := FunctionAt ls i ∧ At (Text.Holds · c.marker) ls i

instance (c : Callback) (ls : List Text) (i : Nat) : Decidable (c.NamedAt ls i) := inferInstanceAs (Decidable (_ ∧ _))

/-- The number of the first line of a function that holds the marker, and zero when no such line does. -/
def namedNumber (c : Callback) (ls : List Text) : Nat := (firstPlace? (c.NamedAt ls) ls.length).elim 0 (· + 1)

/-! ## Where markers come from -/

/-- The fragment of a function holds the marker exactly when the line does. -/
theorem holds_functionFragment_iff (c : Callback) (n : Nat) (line : Text) :
    Text.Holds ("    ".toList ++ Text.ofNat n ++ " : ".toList ++ Text.trim line) c.marker ↔ line.Holds c.marker := by
  -- The marker holds no blank, so it lies on one side of the blank behind the colon; the number in front has no parenthesis.
  have hblank : ' ' ∉ c.marker := by cases c <;> decide +kernel
  have hfront : ¬ Text.Holds ("    ".toList ++ Text.ofNat n ++ " :".toList) c.marker := by
    intro h
    have hmem := h.subset c.paren_mem_marker
    rw [List.mem_append, List.mem_append] at hmem
    rcases hmem with (hmem | hmem) | hmem
    · exact absurd hmem (by decide)
    · exact absurd hmem (Text.not_mem_ofNat (by decide) n)
    · exact absurd hmem (by decide)
  have hsplit : "    ".toList ++ Text.ofNat n ++ " : ".toList ++ Text.trim line =
      ("    ".toList ++ Text.ofNat n ++ " :".toList) ++ ' ' :: Text.trim line := by simp
  rw [hsplit, Text.holds_append_cons_iff hblank, or_iff_right hfront]
  exact Text.holds_trim_iff c.firm_marker line

/-- The first line of a function is found when it holds the marker. -/
theorem mentionedAt_iff_of_functionAt (c : Callback) {ls : List Text} {i : Nat} (h : FunctionAt ls i) :
    c.MentionedAt ls i ↔ At (Text.Holds · c.marker) ls i := by
  obtain ⟨hc, line, hl, hs⟩ := h
  have hf := (fragmentAt?_eq_some_iff hl _).mpr (.function hc hs)
  simp only [MentionedAt, hf, Option.mem_some_iff, exists_eq_left', at_iff hl]
  exact c.holds_functionFragment_iff (i + 1) line

/-- A line whose fragment holds the marker is the first one of a function, or goes on with a signature, or is a heading or a
doc comment. -/
theorem MentionedAt.origin {c : Callback} {ls : List Text} {i : Nat} (h : c.MentionedAt ls i) :
    FunctionAt ls i ∨ Continues ls i ∨ At Line.IsProse ls i := by
  obtain ⟨f, hf, hheld⟩ := h
  obtain ⟨line, hl, hs⟩ := exists_shows hf
  have hprose : (LineForm.ofLine line).isProse = true → At Line.IsProse ls i := fun hp => ⟨line, hl, hp⟩
  cases hs with
  | continuation hc => exact Or.inr (Or.inl hc)
  | function hc hs => exact Or.inl ⟨hc, line, hl, hs⟩
  | heading _ _ _ hform | title _ _ hform | quotation _ _ hform | remark _ _ _ hform =>
    exact Or.inr (Or.inr (hprose (by rw [hform]; rfl)))
  | path _ _ hform => exact absurd hheld (c.not_holds_path hform)

/-- A line that shows the path of a node is not found. -/
theorem not_mentionedAt_of_showsPath (c : Callback) {ls : List Text} {i : Nat} (hc : ¬ Continues ls i)
    (h : At Line.ShowsPath ls i) : ¬ c.MentionedAt ls i := by
  obtain ⟨line, hl, hp⟩ := h
  unfold Line.ShowsPath at hp
  intro hm
  rcases hm.origin with ⟨-, hs⟩ | hcont | hprose
  · rw [(LineForm.ofLine_eq_function_iff line _).mpr ⟨(at_iff hl _).mp hs, rfl⟩] at hp
    exact Bool.false_ne_true hp
  · exact hc hcont
  · have hprose := (at_iff hl _).mp hprose
    unfold Line.IsProse at hprose
    revert hp hprose
    cases LineForm.ofLine line <;> simp [LineForm.isNodeCall, LineForm.isProse]

/-- Where no heading, doc comment or line in a signature holds the marker, the first place that is found is the first line of
a function that holds it. -/
theorem firstMention?_eq {c : Callback} {ls : List Text}
    (h : ∀ i, i < ls.length → Continues ls i ∨ At Line.IsProse ls i → ¬ c.MentionedAt ls i) :
    c.firstMention? ls = firstPlace? (c.NamedAt ls) ls.length := by
  unfold firstMention? firstPlace?
  refine List.find?_congr fun i hi => decide_eq_decide.mpr ?_
  constructor
  · intro hm
    have hfun : FunctionAt ls i := hm.origin.resolve_right fun ho => h i (List.mem_range.mp hi) ho hm
    exact ⟨hfun, (c.mentionedAt_iff_of_functionAt hfun).mp hm⟩
  · intro hn
    exact (c.mentionedAt_iff_of_functionAt hn.1).mpr hn.2

end Callback

/-! ## The value of a callback -/

/-- The number of a function is the value of the callback when no earlier fragment holds the marker. -/
theorem lineOf_of_functionAt {c : Callback} {text : Text} {i : Nat} (h : c.firstMention? (Text.lines text) = some i)
    (hf : FunctionAt (Text.lines text) i) : (Synopsis.ofText text).lineOf c = Text.ofNat (i + 1) := by
  rw [lineOf_of_fragments, h, Option.elim_some, readOffAt, if_pos hf]

/-- The value of a callback that is found in a signature, in four parts, for every text.
1. It is zero when no fragment holds the marker.
2. The first fragment that holds the marker is that of the first place that has such a fragment, and the value is the number
   of the line there when that line is the first one of a function, whatever else the signature holds.
3. The path of a node never holds the marker.
4. So when the fragments of headings, doc comments and lines in signatures do not hold it, the value is the number of the
   first line that starts a function and holds the marker, and zero when there is none. -/
theorem lineOf_signature (c : Callback) (text : Text) :
    ((∀ f ∈ (Synopsis.ofText text).fragments, ¬ f.Holds c.marker) → (Synopsis.ofText text).lineOf c = ['0']) ∧
      ((Synopsis.ofText text).fragments.find? (fun f => decide (f.Holds c.marker)) =
          (c.firstMention? (Text.lines text)).bind (fragmentAt? (Text.lines text)) ∧
        ∀ i, c.firstMention? (Text.lines text) = some i → FunctionAt (Text.lines text) i →
          (Synopsis.ofText text).lineOf c = Text.ofNat (i + 1)) ∧
      (∀ i, ¬ Continues (Text.lines text) i → At Line.ShowsPath (Text.lines text) i →
        ¬ c.MentionedAt (Text.lines text) i) ∧
      ((∀ i, i < (Text.lines text).length → Continues (Text.lines text) i ∨ At Line.IsProse (Text.lines text) i →
          ¬ c.MentionedAt (Text.lines text) i) →
        (Synopsis.ofText text).lineOf c = Text.ofNat (c.namedNumber (Text.lines text))) := by
  refine ⟨fun h => ?_, ⟨find?_fragments c text, fun i => lineOf_of_functionAt⟩,
    fun i => c.not_mentionedAt_of_showsPath, fun h => ?_⟩
  · have hnone : (Synopsis.ofText text).fragments.find? (fun f => decide (f.Holds c.marker)) = none := by
      rw [List.find?_eq_none]
      intro f hf
      simpa using h f hf
    rw [Synopsis.lineOf_eq, hnone, Option.elim_none]
  · have hfirst := Callback.firstMention?_eq h
    unfold Callback.namedNumber
    rw [← hfirst]
    cases hm : c.firstMention? (Text.lines text) with
    | none =>
      rw [lineOf_of_fragments, hm]
      rfl
    | some i =>
      have hnamed := (firstPlace?_eq_some_iff.mp (hfirst.symm.trans hm)).1
      exact lineOf_of_functionAt hm hnamed.1

/-- The value is read off a signature with further colons in it, in which a path and a line that goes on with the signature
come first and last. There is no other callback. -/
theorem lineOf_signature_colons :
    let text : Text := "var a = get_node(\"_ready\")\nfunc get_é_ready(a: A, b = \": \u2003\",\n\tc: C):\n".toList
    (Callback.firstMention? .ready (Text.lines text) = some 1 ∧ FunctionAt (Text.lines text) 1 ∧
        (¬ Continues (Text.lines text) 0 ∧ At Line.ShowsPath (Text.lines text) 0) ∧
        (∀ f ∈ (Synopsis.ofText text).fragments, ¬ f.Holds (Callback.marker .process)) ∧
        ∀ i, i < (Text.lines text).length → Continues (Text.lines text) i ∨ At Line.IsProse (Text.lines text) i →
          ¬ Callback.MentionedAt .ready (Text.lines text) i) ∧
      (Synopsis.ofText text).lineOf .ready = ['2'] ∧
      Text.ofNat (Callback.namedNumber .ready (Text.lines text)) = ['2'] ∧
      ¬ Callback.MentionedAt .ready (Text.lines text) 0 ∧
      (Synopsis.ofText text).lineOf .process = ['0'] := by
  intro text
  have hfirst : Callback.firstMention? .ready (Text.lines text) = some 1 := by decide +kernel
  have hfun : FunctionAt (Text.lines text) 1 := by decide +kernel
  have hcont : ¬ Continues (Text.lines text) 0 := by decide +kernel
  have hpath : At Line.ShowsPath (Text.lines text) 0 := by decide +kernel
  have hnone : ∀ f ∈ (Synopsis.ofText text).fragments, ¬ f.Holds (Callback.marker .process) := by decide +kernel
  have hwords : ∀ i, i < (Text.lines text).length → Continues (Text.lines text) i ∨ At Line.IsProse (Text.lines text) i →
      ¬ Callback.MentionedAt .ready (Text.lines text) i := by
    decide +kernel
  obtain ⟨-, ⟨-, hnumber⟩, hnot, hnamed⟩ := lineOf_signature .ready text
  obtain ⟨hzero, -⟩ := lineOf_signature .process text
  have hvalue : (Synopsis.ofText text).lineOf .ready = ['2'] := hnumber 1 hfirst hfun
  exact ⟨⟨hfirst, hfun, ⟨hcont, hpath⟩, hnone, hwords⟩, hvalue, (hnamed hwords).symm.trans hvalue, hnot 0 hcont hpath,
    hzero hnone⟩

end ScriptDigest
