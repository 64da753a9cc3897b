import ScriptDigest.Files.Tree

/-!
# Finding scripts

The scripts of a program are the files directly in its source folder whose names end in `.gd`, in the order of their
names. Each is known by the path under which a listing of the folder shows it, which is spelled more simply than the
path of the folder: a dot segment in front is left out, and so are slashes in a row. A file whose path would be too long
is not found.
-/

namespace ScriptDigest

/-- The ending of the names of scripts. -/
def scriptEnding : Text := ".gd".toList

/-- A script that was found and has not been read. -/
structure FoundScript where
  path : Path
  name : Text
  content : ByteArray

namespace Path

/-- The path that a listing shows one segment further on. A listing of the current folder shows names alone; an empty
segment names nothing there. -/
def listedStep? (p : Path) (segment : Text) : Option Path :=
  if p = here then (if segment = [] then none else some ⟨segment⟩) else some (p.join ⟨segment⟩)

/-- The path that a listing shows for a folder. None when a listing finds nothing because an empty segment is met first.
-/
def listed? (p : Path) : Option Path :=
  if p.IsAbsolute then p.segments.tail.foldlM listedStep? root else p.segments.foldlM listedStep? here

/-- The path that a listing shows for a file in a folder which it shows as `p`. -/
def listedChild (p : Path) (name : Text) : Path :=
  if p = here then ⟨name⟩ else p.join ⟨name⟩

end Path

namespace Workspace

/-- The names and contents of the scripts in a folder, in the order of their names. -/
def scriptFiles (w : Workspace) (folder : Location) : List (Text × ByteArray) :=
  ((w.tree.filesIn folder).filter fun f => decide (scriptEnding <:+ f.1)).mergeSort fun a b => a.1.precedes b.1

/-- The scripts in the folder that a path leads to. -/
def findScripts (w : Workspace) (source : Path) : List FoundScript :=
  match source.listed?, w.locate source with
  | some shown, .ok folder =>
    ((w.scriptFiles folder).map fun f => ⟨shown.listedChild f.1, f.1, f.2⟩).filter fun f => !f.path.isLong
  | _, _ => []

end Workspace

end ScriptDigest
