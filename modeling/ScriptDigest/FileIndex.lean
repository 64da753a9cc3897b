import ScriptDigest.Script

/-!
# The file index

The index is a table with one row for each script. Rows of one kind stand together, named classes first and unknown
files last, and the longer of two scripts of one kind comes first. Rows that tie keep the order in which the scripts are
given.
-/

namespace ScriptDigest

/-- What the index says of a script. -/
structure IndexRow where
  kind : ScriptKind
  name : Text
  lines : Nat
  globals : Nat
  detail : Text
  deriving DecidableEq, Repr

namespace IndexRow

/-- The row of a script, in a program whose entry point has the given name. -/
def ofScript (entryName : Text) (s : Script) : IndexRow :=
  let profile := Profile.ofText s.text (decide (s.name = entryName))
  ⟨profile.kind, s.name, codeLineCount s.text, (Declarations.ofText s.text).count, profile.detail⟩

/-- Whether a row may stand before another one: it is of an earlier kind, or of the same kind and no shorter. -/
def precedes (a b : IndexRow) : Bool :=
  a.kind.rank < b.kind.rank || a.kind == b.kind && b.lines ≤ a.lines

/-- The rows of scripts, in the order of the index. -/
def ofScripts (scripts : List Script) (entryName : Text) : List IndexRow :=
  (scripts.map (ofScript entryName)).mergeSort precedes

/-- The cells of a row; the column of global variables can be left out. -/
def cells (showsGlobals : Bool) (r : IndexRow) : List Text :=
  [Text.alignRight 7 r.kind.label, Text.alignRight 15 r.name, Text.alignRight 6 (Text.ofNat r.lines)] ++
    (if showsGlobals then [Text.alignRight 8 (Text.ofNat r.globals)] else []) ++ [r.detail]

/-- The line of a row. -/
def line (showsGlobals : Bool) (r : IndexRow) : Text := " | ".toList.intercalate (r.cells showsGlobals)

end IndexRow

namespace FileIndex

/-- The lines above the rows: the title, and the two lines of the table's head. -/
def heading (showsGlobals : Bool) : List Text :=
  ["# File Summary".toList, []] ++
    if showsGlobals then
      ["   type |  GDScript file  | nlines | nglobals | details".toList,
        "------- | --------------- | ------ | -------- | -------".toList]
    else
      ["   type |  GDScript file  | nlines | details".toList,
        "------- | --------------- | ------ | -------".toList]

/-- The table of the given rows, each line of it ended by a line feed. -/
def table (rows : List IndexRow) (showsGlobals : Bool) : Text :=
  Text.joinLines (heading showsGlobals ++ rows.map (IndexRow.line showsGlobals) ++ [[]])

end FileIndex

end ScriptDigest
