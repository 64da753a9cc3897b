import ScriptDigest.FileIndex
import ScriptDigest.Synopsis

/-!
# The digest of a program

The digest is one Markdown document about a program of several scripts. It has three parts: the index of all scripts, a
section on the entry point with its table of contents and its synopsis, and a section for the class, which is only
announced.
-/

namespace ScriptDigest

/-- What a digest is made from. The entry point need not be one of the scripts that are listed. -/
structure Digest where
  /-- The scripts that the index lists. -/
  scripts : List Script
  /-- The script whose synopsis is shown. -/
  entry : Script
  /-- The name by which the index knows the entry point. -/
  entryName : Text
  /-- The name of the class that is announced. -/
  className : Text
  /-- The name of the document itself, which the table of contents links to. -/
  target : Text
  /-- Whether the index has a column for the number of global variables. -/
  showsGlobals : Bool
  deriving DecidableEq, Repr

namespace Script

/-- The synopsis of a script with its declarations put in, if it has a heading for them. -/
def synopsis (s : Script) : Synopsis :=
  let plain := Synopsis.ofText s.text
  (plain.insertGlobals? (Declarations.ofText s.text).block).getD plain

/-- Whether a script has a heading under which its declarations are put. -/
def hasGlobalsHeading (s : Script) : Bool :=
  decide (Synopsis.globalsTitle ∈ (Synopsis.ofText s.text).fragments)

/-- The lines of the section on an entry point that stand above its table of contents. -/
def sectionHead (s : Script) : List Text :=
  ["## Summary".toList,
    [],
    indent 4 (s.name ++ ": ".toList ++ Text.ofNat (codeLineCount s.text) ++ " lines".toList),
    [],
    "Read ".toList ++ s.name ++ " by starting at the `_ready()` callback on line".toList,
    s.synopsis.lineOf .ready ++ ['.'],
    [],
    "All drawing happens in the `_process()` callback on line".toList,
    s.synopsis.lineOf .process ++ ['.'],
    [],
    "## Table of Contents".toList,
    []]

/-- The section on an entry point, in a document called `target`. -/
def entrySection (s : Script) (target : Text) : Text :=
  Text.joinLines (s.sectionHead ++
    [Text.joinLines (s.synopsis.contents.map (·.item target)), [], Text.joinLines s.synopsis.fragments, []])

end Script

namespace Digest

/-- The section that announces a class. -/
def classSection (className : Text) : Text :=
  Text.joinLines ["## ".toList ++ className, [], "_Class summary not generated yet._".toList, []]

/-- The text of a digest. -/
def render (d : Digest) : Text :=
  Text.joinLines
    [FileIndex.table (IndexRow.ofScripts d.scripts d.entryName) d.showsGlobals,
      [],
      d.entry.entrySection d.target,
      classSection d.className]

end Digest

end ScriptDigest
