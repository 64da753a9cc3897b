import ScriptDigest.Text.Utf8

/-!
# Paths

A path is kept as it is written, since messages show it so. It is read as segments between slashes. A segment that is
empty or a single dot says nothing: at the end of a path it is passed over when the last name or the folder above is
asked for. Names and whole paths have a greatest number of bytes beyond which they name no file.

What the folder above, the last name and a joined path are is said, apart from how they are found here, by
`parent?_eq_some_iff`, `fileName?_eq_some_iff` and `segments_join`.
-/

namespace ScriptDigest

/-- A path as it is written. -/
structure Path where
  spelling : Text
  deriving DecidableEq, Repr

namespace Path

/-- The path of the folder that relative paths start from. -/
def here : Path := ⟨['.']⟩

/-- The path that consists of a slash. -/
def root : Path := ⟨['/']⟩

/-- A path that starts at the root. -/
def IsAbsolute (p : Path) : Prop := ['/'] <+: p.spelling

instance (p : Path) : Decidable p.IsAbsolute := inferInstanceAs (Decidable (_ <+: _))

/-- The parts of a path between its slashes. There is always at least one. -/
def segments (p : Path) : List Text := p.spelling.splitOn '/'

/-- The path with the given parts between its slashes. -/
def ofSegments (segments : List Text) : Path := ⟨['/'].intercalate segments⟩

/-- A path is put together from its own segments. -/
theorem ofSegments_segments (p : Path) : ofSegments p.segments = p := by
  rw [ofSegments, segments, List.intercalate_splitOn]

/-- The path of `q` seen from `p`. One slash stands between them, which is added only where there is none. An absolute
path is the same from everywhere. -/
def join (p q : Path) : Path :=
  if q.IsAbsolute ∨ p.spelling = [] then q
  else if p.spelling.getLast? = some '/' then ⟨p.spelling ++ q.spelling⟩
  else ⟨p.spelling ++ '/' :: q.spelling⟩

/-- Whether a segment says nothing. -/
def isIdle (segment : Text) : Bool := segment == [] || segment == ['.']

/-- Whether a name is too long: at most 255 bytes are allowed. -/
def isLongName (name : Text) : Bool := 255 < Text.byteCount name

/-- Whether a path is too long: at most 4095 bytes are allowed. -/
def isLong (p : Path) : Bool := 4095 < Text.byteCount p.spelling

/-- Segments without the idle ones at their end. -/
def dropIdleEnd (segments : List Text) : List Text := (segments.reverse.dropWhile isIdle).reverse

/-- The first segment, which is empty in an absolute path and may be a dot. -/
def first (p : Path) : Text := p.segments.headD []

/-- The segments after the first one, without the idle ones at their end. -/
def later (p : Path) : List Text := dropIdleEnd p.segments.tail

/-- The path without its last part. None when there is no part to leave out. -/
def parent? (p : Path) : Option Path :=
  if p.later = [] then
    if p.first = [] then none else some ⟨[]⟩
  else
    let front := dropIdleEnd p.later.dropLast
    if p.first = [] ∧ front = [] then some root else some (ofSegments (p.first :: front))

/-- The last part of a path, if it is a name. -/
def fileName? (p : Path) : Option Text :=
  let last := p.later.getLastD p.first
  if isIdle last ∨ last = "..".toList then none else some last

end Path

end ScriptDigest
