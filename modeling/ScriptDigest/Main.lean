import ScriptDigest.Program

/-!
# The command line program

The outer layer. It looks at those places of the file system that a run can ask for, lets the library decide what to do,
writes the files that the library has changed, and prints what the library has to say.
-/

namespace ScriptDigest.Shell

/-- The path of a location, from the root on. -/
def pathOf (l : Location) : String := "/" ++ "/".intercalate (l.reverse.map String.ofList)

/-- The location of a path that starts at the root. -/
def locationOf (path : String) : Location :=
  ((Path.segments ⟨path.toList⟩).filter fun s => !Path.isIdle s).reverse

/-- A tree with the node that the file system has at a location, if it has one that can be read. -/
def look (t : FileTree) (l : Location) : IO FileTree := do
  let place := (← IO.currentDir) / pathOf l
  try
    if ← place.isDir then return t.put l .folder
    else return t.put l (.file (← IO.FS.readBinFile place))
  catch _ => return t

/-- A tree with the nodes from the root to a location. -/
def lookDownTo (t : FileTree) : Location → IO FileTree
  | [] => return t
  | name :: parent => do look (← lookDownTo t parent) (name :: parent)

/-- A tree with the nodes that are met on the way along segments, and the location at its end. -/
def walk (t : FileTree) (l : Location) : List Text → IO (FileTree × Location)
  | [] => return (t, l)
  | s :: rest => do
    let next := if Path.isIdle s then l else if s = "..".toList then l.tail else s :: l
    walk (← look t next) next rest

/-- A tree with the nodes on the way to a path, and the location of the path. -/
def visit (t : FileTree) (current : Location) (p : Path) : IO (FileTree × Location) :=
  walk t (if p.IsAbsolute then [] else current) p.segments

/-- A tree with the scripts of a folder. -/
def lookForScripts (t : FileTree) (folder : Location) : IO FileTree := do
  let place := (← IO.currentDir) / pathOf folder
  try
    let names := (← place.readDir).toList.map fun e => e.fileName.toList
    (names.filter fun name => decide (scriptEnding <:+ name)).foldlM (fun t name => look t (name :: folder)) t
  catch _ => return t

/-- The part of the file system that a run can ask for. -/
def survey (o : Options) : IO Workspace := do
  let current := locationOf (← IO.currentDir).toString
  let around ← lookDownTo FileTree.empty current
  let (withSource, source) ← visit around current o.sourcePath
  let withScripts ← lookForScripts withSource source
  let (withEntry, _) ← visit withScripts current (o.sourcePath.join ⟨o.entryName⟩)
  let (withFolder, _) ← visit withEntry current o.outputFolder
  let (tree, _) ← visit withFolder current o.outputPath
  return ⟨tree, current⟩

/-- The workspace that arguments are answered in. Only a run asks for files. -/
def workspaceFor (arguments : List Text) : IO Workspace :=
  match Command.ofArguments arguments with
  | .ok (.run o) => survey o
  | _ => return ⟨FileTree.empty, []⟩

/-- Answers arguments and returns the exit code. -/
def answer (arguments : List Text) : IO UInt32 := do
  let w ← workspaceFor arguments
  let r := w.execute arguments
  for (l, content) in r.workspace.tree.newFiles w.tree do
    IO.FS.writeBinFile ((← IO.currentDir) / pathOf l) content
  IO.print (String.ofList r.output)
  for e in r.events do
    IO.eprintln (String.ofList (e.level.label ++ ' ' :: e.origin ++ ": ".toList ++ e.report))
  if let some failure := r.failure then
    IO.eprintln (String.ofList failure.message)
  return UInt32.ofNat r.exitCode

end ScriptDigest.Shell

/-- The program. -/
def main (args : List String) : IO UInt32 := ScriptDigest.Shell.answer (args.map String.toList)
