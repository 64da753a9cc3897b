import ScriptDigest.Proofs.Synopsis.Fragments
import ScriptDigest.Proofs.Text.LineEnds
import ScriptDigest.Script

/-!
# Texts that are put together

A text that ends its last line can be followed by another one, and whatever is collected line by line is then the sum of
both: the declarations and the lines of code. A synopsis carries a mode and a number from line to line. When the first text
leaves nothing open, the second one is read as if it stood alone, only with its numbers raised by the lines of the first one
(`readings_append`). A number shows in the entries of the table of contents and in the fragments of functions, and nowhere
else (`Reading.entry?_raise`, `Reading.fragment?_raise`). `synopsis_append` puts all of this together.
-/

namespace ScriptDigest

/-! ## Raised numbers -/

/-- An entry of a table of contents, for a line that stands further down. -/
def ContentsEntry.raise (k : Nat) (e : ContentsEntry) : ContentsEntry := { e with line := e.line + k }

/-- A reading of a line that stands further down. -/
def Reading.raise (k : Nat) (r : Reading) : Reading := { r with number := r.number + k }

/-- What the line at a place contributes when the places are numbered from `k + 1` on. The first line of a function shows the
raised number, and every other line contributes the same as always. -/
def raisedFragmentAt? (k : Nat) (ls : List Text) (i : Nat) : Option Text :=
  if FunctionAt ls i then
    ls[i]?.map fun line => "    ".toList ++ Text.ofNat (i + 1 + k) ++ " : ".toList ++ Text.trim line
  else fragmentAt? ls i

/-- The entry of a line that stands further down has a raised number, and the line is an entry no sooner. -/
theorem Reading.entry?_raise (k : Nat) (r : Reading) :
    Reading.entry? (r.raise k) = r.entry?.map (ContentsEntry.raise k) := by
  obtain ⟨number, mode, line⟩ := r
  cases mode with
  | signature => rfl
  | body | docBlock =>
    simp only [Reading.entry?, Reading.raise]
    cases LineForm.ofLine line with
    | heading level name => cases level <;> rfl
    | _ => rfl

/-- Only the first line of a function shows its number in a fragment. -/
theorem Reading.fragment?_raise (k : Nat) {r : Reading} (h : r.mode = .signature ∨ ¬ Line.StartsFunction r.line) :
    (r.raise k).fragment? = r.fragment? := by
  obtain ⟨number, mode, line⟩ := r
  cases mode with
  | signature => rfl
  | body | docBlock =>
    have hs : ¬ Line.StartsFunction line := h.resolve_left ReadingMode.noConfusion
    simp only [Reading.fragment?, Reading.formFragment?, Reading.raise]
    cases hl : LineForm.ofLine line with
    | function closed => exact absurd ((LineForm.ofLine_eq_function_iff line closed).mp hl).1 hs
    | _ => rfl

/-! ## Reading lines behind other lines -/

theorem readingsFrom_append (mode : ReadingMode) (number : Nat) (ls ls' : List Text) :
    readingsFrom mode number (ls ++ ls') =
      readingsFrom mode number ls ++ readingsFrom (ls.foldl ReadingMode.after mode) (number + ls.length) ls' := by
  induction ls generalizing mode number with
  | nil => rfl
  | cons line rest ih =>
    have hnumber : number + 1 + rest.length = number + (line :: rest).length := by
      rw [List.length_cons]
      omega
    rw [List.cons_append, readingsFrom, ih, hnumber]
    rfl

/-- Lines that are numbered from a higher number on are read in the same modes. -/
theorem readingsFrom_add (mode : ReadingMode) (number k : Nat) (ls : List Text) :
    readingsFrom mode (number + k) ls = (readingsFrom mode number ls).map (Reading.raise k) := by
  induction ls generalizing mode number with
  | nil => rfl
  | cons line rest ih =>
    rw [readingsFrom, readingsFrom, List.map_cons, ← ih, Nat.add_right_comm]
    rfl

/-- Behind a text that ends its last line and leaves nothing open, a text is read as if it stood alone, with raised numbers.
-/
theorem readings_append {a : Text} (h : Text.EndsLine a)
    (hmode : modeAt (Text.lines a) (Text.lines a).length = .body) (b : Text) :
    readings (a ++ b) = readings a ++ (readings b).map (Reading.raise (Text.lines a).length) := by
  rw [modeAt, List.take_length] at hmode
  rw [readings, Text.lines_append h, readingsFrom_append, hmode, readingsFrom_add, readings, readings]

/-- A line in its mode contributes what a look back says, also with a raised number. -/
theorem readingAt?_bind_fragment?_raise (k : Nat) {ls : List Text} {i : Nat} (hi : i < ls.length) :
    (readingAt? ls i).bind (fun r => (r.raise k).fragment?) = raisedFragmentAt? k ls i := by
  have hl : ls[i]? = some ls[i] := List.getElem?_eq_getElem hi
  have hr : readingAt? ls i = some ⟨i + 1, modeAt ls i, ls[i]⟩ := by rw [readingAt?, hl, Option.map_some]
  have hmode := (modeAt_iff ls i (Nat.le_of_lt hi)).1
  rw [raisedFragmentAt?]
  split
  · rename_i hf
    have hs : Line.StartsFunction ls[i] := (at_iff hl _).mp hf.2
    have hbody : modeAt ls i ≠ .signature := fun hm => hf.1 (hmode.mp hm)
    rw [hr, hl, Option.bind_some, Option.map_some, Reading.fragment?_of_ne (by exact hbody), Reading.formFragment?]
    simp only [Reading.raise, (LineForm.ofLine_eq_function_iff ls[i] _).mpr ⟨hs, rfl⟩]
    simp [indent]
  · rename_i hf
    have hsame : modeAt ls i = .signature ∨ ¬ Line.StartsFunction ls[i] := by
      rcases not_and_or.mp hf with hc | hs
      · exact Or.inl (hmode.mpr (not_not.mp hc))
      · exact Or.inr fun hs' => hs ((at_iff hl _).mpr hs')
    rw [← readingAt?_bind_fragment? hi, hr, Option.bind_some, Option.bind_some]
    exact Reading.fragment?_raise k hsame

/-- The fragments of lines with raised numbers, place by place. -/
theorem filterMap_fragment?_raise (k : Nat) (text : Text) :
    ((readings text).map (Reading.raise k)).filterMap Reading.fragment? =
      (List.range (Text.lines text).length).filterMap (raisedFragmentAt? k (Text.lines text)) := by
  rw [List.filterMap_map, readings, filterMap_readingsFrom]
  exact List.filterMap_congr fun i hi => readingAt?_bind_fragment?_raise k (List.mem_range.mp hi)

/-- The entries of lines with raised numbers. -/
theorem filterMap_entry?_raise (k : Nat) (rs : List Reading) :
    (rs.map (Reading.raise k)).filterMap Reading.entry? = (rs.filterMap Reading.entry?).map (ContentsEntry.raise k) := by
  rw [List.filterMap_map, List.map_filterMap]
  exact List.filterMap_congr fun r _ => Reading.entry?_raise k r

/-! ## The sum of two texts -/

theorem Declarations.ofText_append {a : Text} (h : Text.EndsLine a) (b : Text) :
    Declarations.ofText (a ++ b) = ⟨(Declarations.ofText a).globals ++ (Declarations.ofText b).globals,
      (Declarations.ofText a).nodes ++ (Declarations.ofText b).nodes⟩ := by
  simp only [Declarations.ofText, Text.lines_append h, List.filter_append, List.map_append]

theorem codeLineCount_append {a : Text} (h : Text.EndsLine a) (b : Text) :
    codeLineCount (a ++ b) = codeLineCount a + codeLineCount b := by
  rw [codeLineCount, Text.lines_append h, List.countP_append, codeLineCount, codeLineCount]

/-- What is found in two texts that are put together, when the first one is empty or ends in a line feed. The declarations
and the number of lines of code are the sum of both. If besides the first text leaves nothing open at its end, so are the
fragments and the contents of the synopsis, with the numbers of the second text raised by the lines of the first: in the
fragments of functions, and in all the entries. -/
theorem synopsis_append (a b : Text) (h : Text.EndsLine a) :
    (Declarations.ofText (a ++ b)).globals = (Declarations.ofText a).globals ++ (Declarations.ofText b).globals ∧
    (Declarations.ofText (a ++ b)).nodes = (Declarations.ofText a).nodes ++ (Declarations.ofText b).nodes ∧
    codeLineCount (a ++ b) = codeLineCount a + codeLineCount b ∧
    (modeAt (Text.lines a) (Text.lines a).length = .body →
      (Synopsis.ofText b).fragments =
        (List.range (Text.lines b).length).filterMap (fragmentAt? (Text.lines b)) ∧
      (Synopsis.ofText (a ++ b)).fragments = (Synopsis.ofText a).fragments ++
        (List.range (Text.lines b).length).filterMap (raisedFragmentAt? (Text.lines a).length (Text.lines b)) ∧
      (Synopsis.ofText (a ++ b)).contents = (Synopsis.ofText a).contents ++
        (Synopsis.ofText b).contents.map (ContentsEntry.raise (Text.lines a).length)) := by
  rw [Declarations.ofText_append h]
  refine ⟨rfl, rfl, codeLineCount_append h b, fun hmode => ⟨fragments_of_lines _, ?_, ?_⟩⟩
  · simp only [Synopsis.ofText, readings_append h hmode, List.filterMap_append, filterMap_fragment?_raise]
  · simp only [Synopsis.ofText, readings_append h hmode, List.filterMap_append, filterMap_entry?_raise]

/-- Behind a text of three lines, the function in the first line of another text shows the number 4, a line that continues
its signature shows none, and a section in the third line gets the number 6. -/
theorem synopsis_append_three :
    let a : Text := "# | A |\nvar a\nfunc f():\n".toList
    let b : Text := "func g(x,\n\ty):\n# | B |\n".toList
    (Text.EndsLine a ∧ modeAt (Text.lines a) (Text.lines a).length = .body) ∧
      (Synopsis.ofText (a ++ b)).fragments = (Synopsis.ofText a).fragments ++
        ["    4 : func g(x,".toList, "        y):".toList, "## B".toList] ∧
      (Synopsis.ofText (a ++ b)).contents = (Synopsis.ofText a).contents ++ [⟨6, ['B']⟩] := by
  intro a b
  have hends : Text.EndsLine a := by decide +kernel
  have hmode : modeAt (Text.lines a) (Text.lines a).length = .body := by decide +kernel
  obtain ⟨-, -, -, h⟩ := synopsis_append a b hends
  obtain ⟨-, hfragments, hcontents⟩ := h hmode
  refine ⟨⟨hends, hmode⟩, ?_, ?_⟩
  · rw [hfragments]
    exact congrArg _ (by decide +kernel)
  · rw [hcontents]
    exact congrArg _ (by decide +kernel)

end ScriptDigest
