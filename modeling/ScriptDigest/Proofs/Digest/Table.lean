import ScriptDigest.FileIndex
import ScriptDigest.Proofs.Profile
import ScriptDigest.Proofs.Text.Joining

/-!
# The table of the index read back

The table sets the cells of a row flush right in columns of fixed widths, with bars between them. Nothing is cut off, so a cell may
be wider than its column, and the last one, which is not padded, may hold bars itself. `FileIndex.readTable?` takes a table apart:
it cuts each line at its first bars and takes the padding off. A row is read back when its name holds no bar, does not begin with a
blank and is a single line like the remark (`IndexRow.Readable`). The remark on a script always is one
(`Profile.newline_not_mem_detail`). So the table of such rows loses nothing (`FileIndex.readTable?_table`).
-/

namespace ScriptDigest

/-- What a table shows of a row. It shows the number of global variables only if it has a column for it. -/
structure ShownRow where
  kind : ScriptKind
  name : Text
  lines : Nat
  globals? : Option Nat
  detail : Text
  deriving DecidableEq, Repr

/-- The kind with a label. -/
def ScriptKind.ofLabel? (label : Text) : Option ScriptKind :=
  [ScriptKind.named, .extension, .unknown].find? fun kind => decide (kind.label = label)

theorem ScriptKind.ofLabel?_label (kind : ScriptKind) : ofLabel? kind.label = some kind := by
  cases kind <;> decide +kernel

namespace FileIndex

/-! ## Reading a table -/

/-- What stands in a cell: the blanks in front of it and the one behind it belong to the table. -/
def cellContent (cell : Text) : Text := (cell.dropWhile (· == ' ')).dropLast

/-- The contents of the cells of a line that is cut at so many of its first bars. The last cell has one blank in front of it and
none behind it. -/
def readCells : Nat → Text → List Text
  | 0, rest => [rest.drop 1]
  | bars + 1, rest => cellContent (Text.before (· == '|') rest) :: readCells bars (Text.after (· == '|') rest)

/-- The row that a line of a table shows. -/
def readRow? (showsGlobals : Bool) (line : Text) : Option ShownRow :=
  match readCells (if showsGlobals then 4 else 3) line with
  | [kind, name, lines, globals, detail] =>
    (ScriptKind.ofLabel? kind).map (⟨·, name, Text.toNat lines, some (Text.toNat globals), detail⟩)
  | [kind, name, lines, detail] => (ScriptKind.ofLabel? kind).map (⟨·, name, Text.toNat lines, none, detail⟩)
  | _ => none

/-- The rows that a table shows: the first four of its lines are the heading, and behind its last line feed stands nothing. -/
def readTable? (showsGlobals : Bool) (table : Text) : Option (List ShownRow) :=
  ((table.splitOn '\n').drop 4).dropLast.mapM (readRow? showsGlobals)

/-! ## The cells of a line -/

/-- A blank in front of a line belongs to the padding of its first cell. -/
theorem readCells_blank_cons (bars : Nat) (line : Text) : readCells (bars + 1) (' ' :: line) = readCells (bars + 1) line := by
  have hbefore : Text.before (· == '|') (' ' :: line) = ' ' :: Text.before (· == '|') line :=
    Text.before_cons_of_neg (by decide) line
  have hafter : Text.after (· == '|') (' ' :: line) = Text.after (· == '|') line := rfl
  have hcontent (cell : Text) : cellContent (' ' :: cell) = cellContent cell := rfl
  rw [readCells, readCells, hbefore, hafter, hcontent]

/-- A text that is set flush right between blanks is what stands in the cell, unless it begins with a blank. -/
theorem cellContent_alignRight {t : Text} (h : t.head? ≠ some ' ') (width : Nat) :
    cellContent (' ' :: Text.alignRight width t ++ [' ']) = t := by
  have hpadding : ∀ c ∈ ' ' :: List.replicate (width - t.length) ' ', (c == ' ') = true := by
    intro c hc
    rcases List.mem_cons.mp hc with rfl | hc
    · rfl
    · rw [List.eq_of_mem_replicate hc]
      rfl
  have hcell : ' ' :: Text.alignRight width t ++ [' '] =
      (' ' :: List.replicate (width - t.length) ' ') ++ (t ++ [' ']) := by
    simp [Text.alignRight_eq]
  rw [cellContent, hcell, List.dropWhile_append_of_pos hpadding]
  cases t with
  | nil => rfl
  | cons c r =>
    have hc : ¬ (c == ' ') = true := fun hc => h (congrArg some (beq_iff_eq.mp hc))
    rw [List.cons_append, List.dropWhile_cons, if_neg hc, ← List.cons_append, List.dropLast_concat]

/-- Texts that are set flush right in columns between bars are read back, whatever their widths, unless one of them holds a bar
or begins with a blank. What stands behind the last bar may be anything. -/
theorem readCells_intercalate {cells : List (Nat × Text)} (h : ∀ c ∈ cells, '|' ∉ c.2 ∧ c.2.head? ≠ some ' ')
    (detail : Text) :
    readCells cells.length (' ' :: " | ".toList.intercalate (cells.map (fun c => Text.alignRight c.1 c.2) ++ [detail])) =
      cells.map (·.2) ++ [detail] := by
  induction cells with
  | nil => simp [readCells]
  | cons c cells ih =>
    obtain ⟨⟨hbar, hblank⟩, hcells⟩ := List.forall_mem_cons.mp h
    let rest : Text := ' ' :: " | ".toList.intercalate (cells.map (fun c => Text.alignRight c.1 c.2) ++ [detail])
    have hline : ' ' :: " | ".toList.intercalate ((c :: cells).map (fun c => Text.alignRight c.1 c.2) ++ [detail]) =
        (' ' :: Text.alignRight c.1 c.2 ++ [' ']) ++ '|' :: rest := by
      rw [List.map_cons, List.cons_append, List.intercalate_cons_of_ne_nil (by simp)]
      simp [rest]
    have hcell : '|' ∉ ' ' :: Text.alignRight c.1 c.2 ++ [' '] := by
      have hpadded := Text.not_mem_alignRight (by decide) hbar c.1
      simp [hpadded]
    rw [hline, List.length_cons, readCells, Text.before_append_of_not_mem hcell, Text.before_cons_of_pos rfl,
      Text.after_append_cons hcell, List.append_nil, cellContent_alignRight hblank, ih hcells]
    rfl

end FileIndex

/-! ## The lines of rows -/

namespace IndexRow

/-- What a table shows of a row. -/
def shown (showsGlobals : Bool) (r : IndexRow) : ShownRow :=
  ⟨r.kind, r.name, r.lines, if showsGlobals then some r.globals else none, r.detail⟩

/-- A table with all columns shows all of a row. -/
theorem shown_injective {r r' : IndexRow} (h : r.shown true = r'.shown true) : r = r' := by
  cases r
  cases r'
  simpa [shown] using h

/-- A row can be told from the padding and the bars of a table: its name holds no bar and does not begin with a blank. Its name
and its remark are single lines. -/
def Readable (r : IndexRow) : Prop := '|' ∉ r.name ∧ r.name.head? ≠ some ' ' ∧ '\n' ∉ r.name ∧ '\n' ∉ r.detail

instance (r : IndexRow) : Decidable r.Readable := inferInstanceAs (Decidable (_ ∧ _ ∧ _ ∧ _))

/-- The widths and the contents of the cells in front of the last one. -/
def columns (showsGlobals : Bool) (r : IndexRow) : List (Nat × Text) :=
  [(7, r.kind.label), (15, r.name), (6, Text.ofNat r.lines)] ++ if showsGlobals then [(8, Text.ofNat r.globals)] else []

theorem cells_eq_columns (showsGlobals : Bool) (r : IndexRow) :
    r.cells showsGlobals = (r.columns showsGlobals).map (fun c => Text.alignRight c.1 c.2) ++ [r.detail] := by
  cases showsGlobals <;> rfl

section readable

variable {r : IndexRow} (h : r.Readable) (showsGlobals : Bool)

include h

theorem Readable.plain_columns : ∀ c ∈ r.columns showsGlobals, '|' ∉ c.2 ∧ '\n' ∉ c.2 ∧ c.2.head? ≠ some ' ' := by
  obtain ⟨hbar, hblank, hlf, -⟩ := h
  have hlabel : '|' ∉ r.kind.label ∧ '\n' ∉ r.kind.label ∧ r.kind.label.head? ≠ some ' ' := by
    cases r.kind <;> decide +kernel
  have hnumber (n : Nat) : '|' ∉ Text.ofNat n ∧ '\n' ∉ Text.ofNat n ∧ (Text.ofNat n).head? ≠ some ' ' := by
    have hblank : ' ' ∉ Text.ofNat n := Text.not_mem_ofNat (by decide) n
    exact ⟨Text.not_mem_ofNat (by decide) n, Text.not_mem_ofNat (by decide) n, fun hc => hblank (List.mem_of_head? hc)⟩
  cases showsGlobals <;> simp [IndexRow.columns, hlabel, hnumber, hbar, hlf, hblank]

theorem Readable.newline_not_mem_line : '\n' ∉ r.line showsGlobals := by
  rw [line, cells_eq_columns]
  refine Text.not_mem_intercalate (by decide) fun t ht => ?_
  rcases List.mem_append.mp ht with ht | ht
  · obtain ⟨c, hc, rfl⟩ := List.mem_map.mp ht
    exact Text.not_mem_alignRight (by decide) (h.plain_columns showsGlobals c hc).2.1 c.1
  · rw [List.mem_singleton.mp ht]
    exact h.2.2.2

/-- The cells of a line are read back. -/
theorem Readable.readCells_line : FileIndex.readCells (if showsGlobals then 4 else 3) (r.line showsGlobals) =
    (r.columns showsGlobals).map (·.2) ++ [r.detail] := by
  have hcells := FileIndex.readCells_intercalate
    (fun c hc => ⟨(h.plain_columns showsGlobals c hc).1, (h.plain_columns showsGlobals c hc).2.2⟩) r.detail
  rw [← cells_eq_columns, ← line] at hcells
  cases showsGlobals with
  | true => exact (FileIndex.readCells_blank_cons 3 _).symm.trans hcells
  | false => exact (FileIndex.readCells_blank_cons 2 _).symm.trans hcells

/-- The line of a row shows the row. -/
theorem Readable.readRow?_line : FileIndex.readRow? showsGlobals (r.line showsGlobals) = some (r.shown showsGlobals) := by
  unfold FileIndex.readRow?
  rw [h.readCells_line showsGlobals]
  cases showsGlobals <;> simp [IndexRow.columns, shown, ScriptKind.ofLabel?_label, Text.toNat_ofNat]

end readable

end IndexRow

/-! ## Remarks -/

namespace Profile

theorem newline_not_mem_defines {code : Text} (h : '\n' ∉ code) : '\n' ∉ defines code := by
  have hwords : '\n' ∉ "defines `".toList ∧ '\n' ∉ "`".toList := by decide +kernel
  unfold defines
  exact List.not_mem_append (List.not_mem_append hwords.1 h) hwords.2

/-- The remark that a rule gives is a single line when the lines of code are. -/
theorem HasProfile.newline_not_mem_detail {code : List Text} {profile : Bool → Profile} (h : HasProfile code profile)
    (hcode : ∀ l ∈ code, '\n' ∉ Text.trim l) (isEntry : Bool) : '\n' ∉ (profile isEntry).detail := by
  have hwords : '\n' ∉ "first line: ".toList := by decide +kernel
  cases h with
  | empty => exact hwords
  | named => exact newline_not_mem_defines (hcode _ List.mem_cons_self)
  | promoted =>
    have hfirst := hcode _ List.mem_cons_self
    have hnext := newline_not_mem_defines (hcode _ (List.mem_cons_of_mem _ List.mem_cons_self))
    have hsigns : '\n' ∉ " (".toList ∧ '\n' ∉ [')'] := by decide +kernel
    exact List.not_mem_append (List.not_mem_append (List.not_mem_append hnext hsigns.1) hfirst) hsigns.2
  | extension =>
    have hnote : '\n' ∉ (if isEntry then entryNote else []) := by
      cases isEntry <;> decide +kernel
    exact List.not_mem_append (hcode _ List.mem_cons_self) hnote
  | unknown => exact List.not_mem_append hwords (hcode _ List.mem_cons_self)

/-- The remark on a script is a single line, whatever its text is. -/
theorem newline_not_mem_detail (text : Text) (isEntry : Bool) : '\n' ∉ (ofText text isEntry).detail := by
  refine (hasProfile_ofLines (Text.lines text)).newline_not_mem_detail (fun l hl hmem => ?_) isEntry
  exact Text.newline_not_mem_of_mem_lines text l ((codeFrom_suffix _).subset hl) (Text.trim_subset l hmem)

end Profile

/-! ## The table -/

namespace FileIndex

/-- The lines of a table are those of the heading and of the rows, and nothing stands behind the last of them. -/
theorem splitOn_table {rows : List IndexRow} (h : ∀ r ∈ rows, r.Readable) (showsGlobals : Bool) :
    (table rows showsGlobals).splitOn '\n' = heading showsGlobals ++ rows.map (IndexRow.line showsGlobals) ++ [[]] := by
  have hheading : ∀ l ∈ heading showsGlobals, '\n' ∉ l := by cases showsGlobals <;> decide +kernel
  refine List.splitOn_intercalate '\n' (fun l hl => ?_) (by simp)
  rcases List.mem_append.mp hl with hl | hl
  · rcases List.mem_append.mp hl with hl | hl
    · exact hheading l hl
    · obtain ⟨r, hr, rfl⟩ := List.mem_map.mp hl
      exact (h r hr).newline_not_mem_line showsGlobals
  · rw [List.mem_singleton.mp hl]
    exact List.not_mem_nil

/-- The lines of rows show these rows. -/
theorem mapM_readRow? {rows : List IndexRow} (h : ∀ r ∈ rows, r.Readable) (showsGlobals : Bool) :
    (rows.map (IndexRow.line showsGlobals)).mapM (readRow? showsGlobals) = some (rows.map (IndexRow.shown showsGlobals)) := by
  induction rows with
  | nil => rfl
  | cons r rows ih =>
    obtain ⟨hr, hrows⟩ := List.forall_mem_cons.mp h
    rw [List.map_cons, List.mapM_cons, hr.readRow?_line, ih hrows]
    rfl

/-- A table is read back. -/
theorem readTable?_eq {rows : List IndexRow} (h : ∀ r ∈ rows, r.Readable) (showsGlobals : Bool) :
    readTable? showsGlobals (table rows showsGlobals) = some (rows.map (IndexRow.shown showsGlobals)) := by
  have hheading : (heading showsGlobals).length = 4 := by cases showsGlobals <;> rfl
  rw [readTable?, splitOn_table h, List.append_assoc, List.drop_left' hheading, List.dropLast_concat, mapM_readRow? h]

/-- Tables of rows that can be told from their padding lose nothing, in three parts.
1. The rows are read back from the table, all of them and in their order, with the number of global variables if the table has
   a column for it.
2. So no other such rows have the same table with all columns.
3. The remark on a script is a single line, as a row asks of it. -/
theorem readTable?_table (rows : List IndexRow) (h : ∀ r ∈ rows, r.Readable) :
    (∀ showsGlobals, readTable? showsGlobals (table rows showsGlobals) = some (rows.map (IndexRow.shown showsGlobals))) ∧
    (∀ rows', (∀ r ∈ rows', IndexRow.Readable r) → table rows' true = table rows true → rows' = rows) ∧
    ∀ text isEntry, '\n' ∉ (Profile.ofText text isEntry).detail := by
  refine ⟨readTable?_eq h, fun rows' h' heq => ?_, Profile.newline_not_mem_detail⟩
  have hread := readTable?_eq h' true
  rw [heq, readTable?_eq h true] at hread
  exact (List.map_inj_right fun _ _ => IndexRow.shown_injective).mp (Option.some.inj hread).symm

/-- A table of two rows, with a name and a number that are wider than their columns, and a remark with bars and blanks. -/
theorem readTable?_table_wide :
    let rows : List IndexRow := [⟨.extension, "a file of some length .gd".toList, 12345678, 0, "  extends | X |".toList⟩,
      ⟨.unknown, [], 7, 3, []⟩]
    (∀ r ∈ rows, r.Readable) ∧
      (∀ showsGlobals, readTable? showsGlobals (table rows showsGlobals) = some (rows.map (IndexRow.shown showsGlobals))) ∧
      (∀ rows', (∀ r ∈ rows', IndexRow.Readable r) → table rows' true = table rows true → rows' = rows) ∧
      ∀ text isEntry, '\n' ∉ (Profile.ofText text isEntry).detail := by
  intro rows
  have hrows : ∀ r ∈ rows, r.Readable := by decide +kernel
  exact ⟨hrows, readTable?_table rows hrows⟩

end FileIndex

end ScriptDigest
