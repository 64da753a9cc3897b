import ScriptDigest.Files.Path
import ScriptDigest.Text.Utf8

/-!
# File trees

A file tree says what stands at each location: a folder, a file with its bytes, or nothing. A workspace is a file tree
seen from one of its folders. Paths are followed segment by segment, and a step is possible only from a folder. Reading
and writing fail for one of five reasons.

A tree leaves some of what a disk has out. It has no permissions: whatever stands in a tree can be read, listed and written
over, so that no file fails to be read but one that is no text. It has no links and no nodes of other kinds. All names are
texts, while a disk may have names whose bytes are no text. And a write does not fail halfway, for lack of space say.
-/

namespace ScriptDigest

/-- A place in a file tree: the names from the innermost one out to the root. -/
abbrev Location := List Text

/-- What stands at a location. -/
inductive Node where
  | folder
  | file (content : ByteArray)

instance : DecidableEq Node
  | .folder, .folder => isTrue rfl
  | .folder, .file _ => isFalse nofun
  | .file _, .folder => isFalse nofun
  | .file a, .file b =>
    match ByteArray.instDecidableEq a b with
    | isTrue h => isTrue (congrArg Node.file h)
    | isFalse h => isFalse fun e => h (Node.file.inj e)

/-- The nodes of a tree with their locations. No location has two nodes. -/
structure FileTree where
  entries : List (Location × Node)
  distinct : (entries.map Prod.fst).Nodup

namespace FileTree

/-- The tree that holds nothing. -/
def empty : FileTree := ⟨[], List.nodup_nil⟩

/-- The node at a location. The root is always a folder. -/
def node? (t : FileTree) (l : Location) : Option Node :=
  if l = [] then some .folder else t.entries.lookup l

/-- The nodes other than the one at a location, and a new node there. -/
def put (t : FileTree) (l : Location) (n : Node) : FileTree where
  entries := (l, n) :: t.entries.filter fun e => e.1 ≠ l
  distinct := by
    rw [List.map_cons, List.nodup_cons]
    refine ⟨fun h => ?_, t.distinct.sublist (List.filter_sublist.map _)⟩
    obtain ⟨e, he, hl⟩ := List.mem_map.mp h
    simp [hl] at he

/-- After a node is put at a location it stands there, unless the location is the root. -/
theorem node?_put_self (t : FileTree) {l : Location} (n : Node) (h : l ≠ []) : (t.put l n).node? l = some n := by
  simp [node?, put, h]

/-- A node that is put at a location changes no other one. -/
theorem node?_put_of_ne (t : FileTree) {l m : Location} (n : Node) (h : m ≠ l) : (t.put l n).node? m = t.node? m := by
  have key : ∀ es : List (Location × Node), (es.filter fun e => e.1 ≠ l).lookup m = es.lookup m := by
    intro es
    induction es with
    | nil => rfl
    | cons e es ih =>
      obtain ⟨k, x⟩ := e
      by_cases hk : k = l
      · subst hk
        have hm : (m == k) = false := by simpa using h
        simpa [List.lookup_cons, hm] using ih
      · by_cases hm : m = k <;> simp_all [List.lookup_cons]
  have hm : (m == l) = false := by simpa using h
  simp only [node?, put, List.lookup_cons, hm, key]

/-- A tree with a folder at a location and at all the locations around it. -/
def putFolder (t : FileTree) : Location → FileTree
  | [] => t
  | name :: parent => (t.putFolder parent).put (name :: parent) .folder

/-- The name and the content of an entry that is a file directly in a folder. -/
def fileIn? (folder : Location) : Location × Node → Option (Text × ByteArray)
  | (name :: parent, .file content) => if parent = folder then some (name, content) else none
  | _ => none

/-- The files that stand directly in a folder, with their names. -/
def filesIn (t : FileTree) (folder : Location) : List (Text × ByteArray) := t.entries.filterMap (fileIn? folder)

/-- The files of a tree that another tree does not hold with the same bytes. -/
def newFiles (t old : FileTree) : List (Location × ByteArray) :=
  t.entries.filterMap fun
    | (l, .file content) => if old.node? l = some (.file content) then none else some (l, content)
    | _ => none

end FileTree

/-- Why a file cannot be read or written. -/
inductive FileError where
  | notFound
  | notFolder
  | isFolder
  | nameTooLong
  | notText
  deriving DecidableEq, Repr

/-- The wording of a file error. -/
def FileError.message : FileError → Text
  | notFound => "No such file or directory (os error 2)".toList
  | notFolder => "Not a directory (os error 20)".toList
  | isFolder => "Is a directory (os error 21)".toList
  | nameTooLong => "File name too long (os error 36)".toList
  | notText => "stream did not contain valid UTF-8".toList

/-- A file tree and the folder in it that relative paths start from. -/
structure Workspace where
  tree : FileTree
  current : Location

namespace Workspace

/-- A location at which a folder is expected. -/
def enter (w : Workspace) (place : Location) : Except FileError Location :=
  match w.tree.node? place with
  | none => .error .notFound
  | some (.file _) => .error .notFolder
  | some .folder => .ok place

/-- The location that a segment leads to. Above the root there is only the root. -/
def step (w : Workspace) (place : Location) (segment : Text) : Except FileError Location := do
  let folder ← w.enter place
  if Path.isIdle segment then .ok folder
  else if segment = "..".toList then .ok folder.tail
  else if Path.isLongName segment then .error .nameTooLong
  else .ok (segment :: folder)

/-- The location that segments lead to one after the other. -/
def follow (w : Workspace) (start : Location) (segments : List Text) : Except FileError Location :=
  segments.foldlM w.step start

/-- The location that a path starts from. -/
def start (w : Workspace) (p : Path) : Location := if p.IsAbsolute then [] else w.current

/-- The location of a path, at which there need not be a node. The empty path has none. -/
def locate (w : Workspace) (p : Path) : Except FileError Location :=
  if p.spelling = [] then .error .notFound
  else if p.isLong then .error .nameTooLong
  else w.follow (w.start p) p.segments

/-- Whether a path leads to a folder. -/
def isFolder (w : Workspace) (p : Path) : Bool :=
  match w.locate p with
  | .ok l => decide (w.tree.node? l = some .folder)
  | .error _ => false

/-- The text in bytes, for a reader of files. -/
def decode (content : ByteArray) : Except FileError Text :=
  match Text.ofUtf8? content with
  | some text => .ok text
  | none => .error .notText

/-- The text of the file that a path leads to. -/
def read (w : Workspace) (p : Path) : Except FileError Text := do
  match w.tree.node? (← w.locate p) with
  | none => .error .notFound
  | some .folder => .error .isFolder
  | some (.file content) => decode content

/-- The location of a file that is to be written. A path that ends in a slash or a dot segment names a folder, whether
there is one or not, and so does a path that leads to one. -/
def writable (w : Workspace) (p : Path) : Except FileError Location := do
  if p.spelling = [] then .error .notFound
  else if p.isLong then .error .nameTooLong
  else
    let named := (p.segments.reverse.dropWhile (· == [])).reverse
    let last := named.getLastD []
    let folder ← w.enter (← w.follow (w.start p) named.dropLast)
    if p.segments.getLastD [] = [] ∨ Path.isIdle last ∨ last = "..".toList then .error .isFolder
    else
      let target ← w.step folder last
      if w.tree.node? target = some .folder then .error .isFolder else .ok target

/-- The workspace after a text is written to a file, which is made if there is none. -/
def write (w : Workspace) (p : Path) (text : Text) : Except FileError Workspace := do
  return { w with tree := w.tree.put (← w.writable p) (.file (Text.toUtf8 text)) }

end Workspace

end ScriptDigest
