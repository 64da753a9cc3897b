import Mathlib.Data.List.Basic
import ScriptDigest.Discovery
import ScriptDigest.Proofs.Text.Bytes

/-!
# Paths of plain segments

Segments are plain when none of them is empty or holds a slash (`Path.Plain`). A path made of them consists of them again
(`Path.segments_ofSegments`), leads to where they lead (`Path.locate_ofSegments`), and has their bytes and those of the slashes
between them (`Path.byteCount_ofSegments`). A listing makes the path of a folder segment by segment. Of a path of plain segments
it leaves out the dot segments in front, and nothing else (`Path.listed?_eq`).
-/

namespace ScriptDigest.Path

/-- The path with the given parts between its slashes, which is the current folder when there are none. -/
def ofParts (segs : List Text) : Path := if segs = [] then here else ofSegments segs

/-- A path without the dot segments in front. -/
def undotted (p : Path) : Path := ofParts (p.segments.dropWhile fun s => s == ['.'])

/-- An absolute path begins with an empty segment. -/
theorem not_isAbsolute {p : Path} (h : [] ∉ p.segments) : ¬ p.IsAbsolute := by
  rintro ⟨rest, hrest⟩
  refine h ?_
  rw [segments, ← hrest, List.singleton_append, List.splitOn_cons_eq_if_modifyHead, if_pos (beq_self_eq_true '/')]
  exact List.mem_cons_self

/-- Segments that are neither empty nor hold a slash. -/
def Plain (segments : List Text) : Prop := ∀ s ∈ segments, s ≠ [] ∧ '/' ∉ s

/-- What stands between slashes holds no slash. -/
theorem notMem_of_mem_splitOn {a : Char} {t : Text} : ∀ s ∈ t.splitOn a, a ∉ s := by
  induction t with
  | nil =>
    rw [List.splitOn_nil]
    exact List.forall_mem_singleton.mpr List.not_mem_nil
  | cons c t ih =>
    rw [List.splitOn_cons_eq_if_modifyHead]
    split
    · exact List.forall_mem_cons.mpr ⟨List.not_mem_nil, ih⟩
    · rename_i hc
      obtain ⟨first, later, hsplit⟩ := List.exists_cons_of_ne_nil (List.splitOn_ne_nil a t)
      rw [hsplit] at ih ⊢
      have hfirst : a ∉ first := ih first List.mem_cons_self
      refine List.forall_mem_cons.mpr ⟨?_, fun s hs => ih s (List.mem_cons_of_mem first hs)⟩
      rw [List.mem_cons, not_or]
      exact ⟨fun h => hc (beq_iff_eq.mpr h.symm), hfirst⟩

theorem plain_segments {p : Path} (h : [] ∉ p.segments) : Plain p.segments := by
  intro s hs
  refine ⟨?_, notMem_of_mem_splitOn s hs⟩
  rintro rfl
  exact h hs

/-- A path is made of plain segments alone. -/
theorem segments_ofSegments {segs : List Text} (h : Plain segs) (hne : segs ≠ []) : (ofSegments segs).segments = segs :=
  List.splitOn_intercalate '/' (fun s hs => (h s hs).2) hne

theorem nil_notMem_segments_ofSegments {segs : List Text} (h : Plain segs) (hne : segs ≠ []) :
    [] ∉ (ofSegments segs).segments := by
  rw [segments_ofSegments h hne]
  exact fun hempty => (h [] hempty).1 rfl

/-- One more segment stands behind one more slash. -/
theorem spelling_ofSegments_concat {front : List Text} (hne : front ≠ []) (s : Text) :
    (ofSegments (front ++ [s])).spelling = (ofSegments front).spelling ++ '/' :: s := by
  change ['/'].intercalate (front ++ [s]) = ['/'].intercalate front ++ '/' :: s
  induction front with
  | nil => exact absurd rfl hne
  | cons x front ih =>
    rcases eq_or_ne front [] with rfl | hfront
    · simp
    · rw [List.cons_append, List.intercalate_cons_of_ne_nil (List.append_ne_nil_of_left_ne_nil hfront _), ih hfront,
        List.intercalate_cons_of_ne_nil hfront]
      simp only [List.append_assoc]

/-- A path made of plain segments ends like the last of them. -/
theorem getLast?_spelling_ofSegments {segs : List Text} (h : Plain segs) (hne : segs ≠ []) :
    (ofSegments segs).spelling ≠ [] ∧ (ofSegments segs).spelling.getLast? ≠ some '/' := by
  rcases List.eq_nil_or_concat segs with rfl | ⟨front, s, rfl⟩
  · exact absurd rfl hne
  rw [List.concat_eq_append] at h ⊢
  obtain ⟨hs, hslash⟩ := h s (by simp)
  have hend : s <:+ (ofSegments (front ++ [s])).spelling := by
    rcases eq_or_ne front [] with rfl | hfront
    · simp [ofSegments]
    · rw [spelling_ofSegments_concat hfront]
      exact ⟨(ofSegments front).spelling ++ ['/'], by simp⟩
  obtain ⟨before, hbefore⟩ := hend
  rw [← hbefore, List.getLast?_append_of_ne_nil _ hs]
  exact ⟨List.append_ne_nil_of_right_ne_nil _ hs, fun hlast => hslash (List.mem_of_getLast? hlast)⟩

/-- Seen from a path of plain segments, a plain segment is one more of them. -/
theorem join_ofSegments {segs : List Text} {s : Text} (hplain : Plain segs) (hne : segs ≠ []) (hslash : '/' ∉ s) :
    (ofSegments segs).join ⟨s⟩ = ofSegments (segs ++ [s]) := by
  have habsolute : ¬ (⟨s⟩ : Path).IsAbsolute := fun hroot => hslash (hroot.subset List.mem_cons_self)
  obtain ⟨hspelling, hlast⟩ := getLast?_spelling_ofSegments hplain hne
  rw [join, if_neg (not_or.mpr ⟨habsolute, hspelling⟩), if_neg hlast, ← spelling_ofSegments_concat hne]

/-- A path of plain segments is not the current folder, unless it begins with a dot segment. -/
theorem ofSegments_ne_here {first : Text} {later : List Text} (hplain : Plain (first :: later)) (hdot : first ≠ ['.']) :
    ofSegments (first :: later) ≠ here := by
  intro heq
  have hsegments : (ofSegments (first :: later)).segments = here.segments := congrArg segments heq
  rw [segments_ofSegments hplain (List.cons_ne_nil first later)] at hsegments
  exact hdot (List.cons.inj hsegments).1

/-- A step of a listing adds a segment to a path that is not the current folder. -/
theorem listedStep?_ofSegments {first : Text} {later : List Text} {s : Text} (hplain : Plain (first :: later))
    (hdot : first ≠ ['.']) (hslash : '/' ∉ s) :
    listedStep? (ofSegments (first :: later)) s = some (ofSegments (first :: later ++ [s])) := by
  rw [listedStep?, if_neg (ofSegments_ne_here hplain hdot), join_ofSegments hplain (List.cons_ne_nil first later) hslash]

/-- From a path that is not the current folder on, a listing adds the segments as they are. -/
theorem foldlM_listedStep?_ofSegments {first : Text} {later rest : List Text} (hplain : Plain (first :: later ++ rest))
    (hdot : first ≠ ['.']) :
    rest.foldlM listedStep? (ofSegments (first :: later)) = some (ofSegments (first :: later ++ rest)) := by
  induction rest generalizing later with
  | nil => rw [List.append_nil, List.foldlM_nil, Option.pure_def]
  | cons s rest ih =>
    obtain ⟨hfront, hrest⟩ := List.forall_mem_append.mp hplain
    have happend : first :: later ++ s :: rest = first :: (later ++ [s]) ++ rest := by simp
    have hstep := listedStep?_ofSegments hfront hdot (hrest s List.mem_cons_self).2
    rw [List.foldlM_cons, hstep, Option.bind_eq_bind, Option.bind_some, happend]
    exact ih (happend ▸ hplain)

/-- From the current folder on, a listing passes over dot segments. -/
theorem foldlM_listedStep?_here {segs : List Text} (h : Plain segs) :
    segs.foldlM listedStep? here = some (ofParts (segs.dropWhile fun s => s == ['.'])) := by
  induction segs with
  | nil => rfl
  | cons s segs ih =>
    obtain ⟨hs, hsegs⟩ := List.forall_mem_cons.mp h
    have hstep : listedStep? here s = some ⟨s⟩ := by rw [listedStep?, if_pos rfl, if_neg hs.1]
    rw [List.foldlM_cons, hstep, Option.bind_eq_bind, Option.bind_some]
    rw [List.dropWhile_cons]
    by_cases hdot : s = ['.']
    · rw [if_pos (beq_iff_eq.mpr hdot), hdot]
      exact ih hsegs
    · rw [if_neg (mt beq_iff_eq.mp hdot), ofParts, if_neg (List.cons_ne_nil s segs)]
      have hfirst : (⟨s⟩ : Path) = ofSegments [s] := by simp [ofSegments]
      rw [hfirst]
      exact foldlM_listedStep?_ofSegments h hdot

/-- A path of plain segments leads to where the segments lead from the current folder on. -/
theorem locate_ofSegments {w : Workspace} {segs : List Text} {l : Location} (hplain : Plain segs) (hne : segs ≠ [])
    (hshort : (ofSegments segs).isLong = false) (hfollow : w.follow w.current segs = .ok l) :
    w.locate (ofSegments segs) = .ok l := by
  have hsegments := segments_ofSegments hplain hne
  have hrelative : ¬ (ofSegments segs).IsAbsolute := not_isAbsolute (nil_notMem_segments_ofSegments hplain hne)
  obtain ⟨hspelling, -⟩ := getLast?_spelling_ofSegments hplain hne
  rw [Workspace.locate, if_neg hspelling, if_neg (Bool.eq_false_iff.mp hshort), Workspace.start, if_neg hrelative, hsegments,
    hfollow]

/-- A listing shows a relative path without empty segments, and leaves out the dot segments in front. -/
theorem listed?_eq {p : Path} (h : [] ∉ p.segments) : p.listed? = some p.undotted := by
  rw [listed?, if_neg (not_isAbsolute h), foldlM_listedStep?_here (plain_segments h)]
  rfl

/-- The number of bytes of segments, each with a slash behind it. -/
def slashedByteCount : List Text → Nat
  | [] => 0
  | s :: rest => Text.byteCount s + 1 + slashedByteCount rest

theorem slashedByteCount_append (front rest : List Text) :
    slashedByteCount (front ++ rest) = slashedByteCount front + slashedByteCount rest := by
  induction front with
  | nil => exact (Nat.zero_add _).symm
  | cons s front ih => rw [List.cons_append, slashedByteCount, slashedByteCount, ih, Nat.add_assoc _ (slashedByteCount front)]

/-- A path has no slash behind its last segment. -/
theorem byteCount_ofSegments {segs : List Text} (hne : segs ≠ []) :
    Text.byteCount (ofSegments segs).spelling + 1 = slashedByteCount segs := by
  change Text.byteCount (['/'].intercalate segs) + 1 = slashedByteCount segs
  induction segs with
  | nil => exact absurd rfl hne
  | cons s segs ih =>
    rcases eq_or_ne segs [] with rfl | hsegs
    · rw [List.intercalate_singleton]
      rfl
    · have hslash : Text.byteCount ['/'] = 1 := by decide
      rw [List.intercalate_cons_of_ne_nil hsegs, Text.byteCount_append, Text.byteCount_append, hslash, Nat.add_assoc _ _ 1,
        ih hsegs, slashedByteCount]

end ScriptDigest.Path
