import Mathlib.Data.List.DropRight
import ScriptDigest.Proofs.Files.Segments
import ScriptDigest.Proofs.Text.Printing

/-!
# The parts of a path

The parts of a path are its segments without those that say nothing, where a dot at its very beginning is a part
(`Path.parts`). The parent of a path is the shortest of its beginnings that lack its last part and no other
(`Path.IsParentOf`, `Path.parent?_eq_some_iff`), and its name is its last part (`Path.fileName?_eq_some_iff`). A path without
parts has no parent. Seen from another path, the segments of a relative path come behind those of the other one
(`Path.segments_join`), so that the name of a path seen from its parent has the parts of the path
(`Path.IsParentOf.parts_join_fileName`).
-/

namespace ScriptDigest.Path

/-- The segments that say something. -/
def said (segs : List Text) : List Text := segs.filter fun s => s ≠ [] ∧ s ≠ ['.']

/-- The parts of a path: what its segments say. A dot that it begins with is a part too. -/
def parts (p : Path) : List Text := ((p.segments.take 1).filter fun s => s ≠ []) ++ said (p.segments.drop 1)

/-- A beginning of a path has all its parts but the last. -/
structure LacksLast (q p : Path) : Prop where
  start : q.spelling <+: p.spelling
  absolute : q.IsAbsolute ↔ p.IsAbsolute
  parts : ∃ last, p.parts = q.parts ++ [last]

/-- The parent of a path is the shortest of its beginnings that have all its parts but the last. -/
def IsParentOf (q p : Path) : Prop := q.LacksLast p ∧ ∀ r : Path, r.LacksLast p → q.spelling <+: r.spelling

/-- The folder of a file is the parent of its path. It is the current folder when the parent is empty or there is none. -/
def IsFolderOf (q p : Path) : Prop :=
  (q.spelling ≠ [] ∧ q.IsParentOf p) ∨ (q = here ∧ ∀ r : Path, r.IsParentOf p → r.spelling = [])

/-! ## Segments and parts -/

theorem said_append (a b : List Text) : said (a ++ b) = said a ++ said b := List.filter_append a b

theorem said_singleton {s : Text} (hempty : s ≠ []) (hdot : s ≠ ['.']) : said [s] = [s] := by simp [said, hempty, hdot]

theorem isIdle_eq_false_iff (s : Text) : isIdle s = false ↔ s ≠ [] ∧ s ≠ ['.'] := by simp [isIdle]

theorem isIdle_iff (s : Text) : isIdle s = true ↔ s = [] ∨ s = ['.'] := by simp [isIdle]

/-- A slash divides the segments. -/
theorem segments_append_slash (a b : Text) :
    (⟨a ++ '/' :: b⟩ : Path).segments = (⟨a⟩ : Path).segments ++ (⟨b⟩ : Path).segments :=
  List.splitOn_append_cons_self a b

theorem segments_of_not_mem {s : Text} (h : '/' ∉ s) : (⟨s⟩ : Path).segments = [s] := List.splitOn_eq_singleton h

theorem segments_ne_nil (p : Path) : p.segments ≠ [] := List.splitOn_ne_nil '/' p.spelling

/-- A path has its first segment and those behind it. -/
theorem segments_eq_cons (p : Path) : p.segments = p.first :: p.segments.tail := by
  obtain ⟨s, rest, hsegments⟩ := List.exists_cons_of_ne_nil p.segments_ne_nil
  rw [first, hsegments]
  rfl

/-- A path is absolute when its first segment is empty and there are others behind it. -/
theorem isAbsolute_iff (p : Path) : p.IsAbsolute ↔ p.first = [] ∧ p.segments.tail ≠ [] := by
  obtain ⟨t⟩ := p
  cases t with
  | nil => simp [IsAbsolute, segments]
  | cons c t =>
    obtain ⟨s, rest, hsplit⟩ := List.exists_cons_of_ne_nil (List.splitOn_ne_nil '/' t)
    by_cases hc : c = '/'
    · simp [IsAbsolute, first, segments, List.splitOn_cons_eq_if_modifyHead, hc, hsplit]
    · simp [IsAbsolute, first, segments, List.splitOn_cons_eq_if_modifyHead, hc, hsplit, Ne.symm hc]

/-- Behind a slash, what is said is added to the parts. -/
theorem parts_append_slash (a b : Text) :
    (⟨a ++ '/' :: b⟩ : Path).parts = (⟨a⟩ : Path).parts ++ said (⟨b⟩ : Path).segments := by
  obtain ⟨s, rest, hsegments⟩ := List.exists_cons_of_ne_nil (segments_ne_nil ⟨a⟩)
  simp only [parts, segments_append_slash, hsegments, List.cons_append, List.take_succ_cons, List.take_zero,
    List.drop_succ_cons, List.drop_zero, said_append, List.append_assoc]

theorem parts_of_not_mem {s : Text} (h : '/' ∉ s) : (⟨s⟩ : Path).parts = [s].filter fun s => s ≠ [] := by
  simp [parts, segments_of_not_mem h, said]

/-- A text has no slash, or it has a last one. -/
theorem not_mem_or_exists_append_slash (t : Text) : '/' ∉ t ∨ ∃ a s, t = a ++ '/' :: s ∧ '/' ∉ s := by
  by_cases h : '/' ∈ t
  · obtain ⟨b, a, hreverse, hb⟩ := List.eq_append_cons_of_mem (List.mem_reverse.mpr h)
    refine Or.inr ⟨a.reverse, b.reverse, ?_, fun hmem => hb (List.mem_reverse.mp hmem)⟩
    rw [← List.reverse_reverse t, hreverse]
    simp
  · exact Or.inl h

/-- One more character takes no part away. -/
theorem length_parts_concat (t : Text) (c : Char) : (⟨t⟩ : Path).parts.length ≤ (⟨t ++ [c]⟩ : Path).parts.length := by
  by_cases hc : c = '/'
  · rw [hc, parts_append_slash, List.length_append]
    exact Nat.le_add_right _ _
  rcases not_mem_or_exists_append_slash t with ht | ⟨a, s, rfl, hs⟩
  · have hlonger : '/' ∉ t ++ [c] := by simp [ht, Ne.symm hc]
    rw [parts_of_not_mem ht, parts_of_not_mem hlonger]
    refine le_trans (List.length_filter_le _ _) ?_
    simp
  · have hlonger : '/' ∉ s ++ [c] := by simp [hs, Ne.symm hc]
    rw [List.append_assoc, List.cons_append, parts_append_slash, parts_append_slash, segments_of_not_mem hs,
      segments_of_not_mem hlonger, List.length_append, List.length_append]
    refine Nat.add_le_add_left ?_ _
    by_cases hempty : s = []
    · simp [hempty, said]
    · have hdot : s ++ [c] ≠ ['.'] := fun heq => by
        have hlength := congrArg List.length heq
        simp [hempty] at hlength
      rw [said_singleton (by simp) hdot]
      exact List.length_filter_le _ _

/-- A beginning of a path has no more parts than the path. -/
theorem length_parts_le_of_start {a t : Text} (h : a <+: t) : (⟨a⟩ : Path).parts.length ≤ (⟨t⟩ : Path).parts.length := by
  obtain ⟨b, rfl⟩ := h
  induction b using List.reverseRecOn with
  | nil => rw [List.append_nil]
  | append_singleton b c ih =>
    rw [← List.append_assoc]
    exact le_trans ih (length_parts_concat _ c)

/-- Parts are not empty and hold no slash. -/
theorem plain_parts (p : Path) : Plain p.parts := by
  intro s hs
  rcases List.mem_append.mp hs with hs | hs
  · obtain ⟨hmem, hempty⟩ := List.mem_filter.mp hs
    exact ⟨of_decide_eq_true hempty, notMem_of_mem_splitOn s (List.mem_of_mem_take hmem)⟩
  · obtain ⟨hmem, hsays⟩ := List.mem_filter.mp hs
    exact ⟨(of_decide_eq_true hsays).1, notMem_of_mem_splitOn s (List.mem_of_mem_drop hmem)⟩

/-! ## What stands at the end of a path -/

theorem said_dropIdleEnd (segs : List Text) : said (dropIdleEnd segs) = said segs := by
  change said (segs.rdropWhile isIdle) = said segs
  induction segs using List.reverseRecOn with
  | nil => rfl
  | append_singleton segs s ih =>
    rw [List.rdropWhile_concat]
    split
    · rename_i hidle
      rw [ih, said_append]
      rcases (isIdle_iff s).mp hidle with rfl | rfl <;> simp [said]
    · rfl

theorem dropIdleEnd_start (segs : List Text) : dropIdleEnd segs <+: segs := List.rdropWhile_prefix isIdle segs

/-- What is left when the idle end is dropped ends in a segment that says something. -/
theorem dropIdleEnd_eq_nil_or (segs : List Text) :
    dropIdleEnd segs = [] ∨ ∃ front last, dropIdleEnd segs = front ++ [last] ∧ isIdle last = false := by
  by_cases h : dropIdleEnd segs = []
  · exact Or.inl h
  · exact Or.inr ⟨_, _, (List.dropLast_append_getLast h).symm,
      Bool.eq_false_iff.mpr (List.rdropWhile_last_not isIdle segs h)⟩

/-- The parts of a path are its first segment, unless this is empty, and what the later ones say. -/
theorem parts_eq (p : Path) : p.parts = ([p.first].filter fun s => s ≠ []) ++ said p.later := by
  rw [parts, segments_eq_cons, later, said_dropIdleEnd]
  rfl

/-- A path with later parts ends in one of them, and has its other parts in front of it. -/
theorem exists_parts_eq {p : Path} (h : p.later ≠ []) :
    ∃ last, last ≠ [] ∧ p.later = p.later.dropLast ++ [last] ∧
      p.parts = ([p.first].filter fun s => s ≠ []) ++ said p.later.dropLast ++ [last] := by
  rcases dropIdleEnd_eq_nil_or p.segments.tail with hnil | ⟨front, last, heq, hlast⟩
  · exact absurd hnil h
  · have hlater : p.later = front ++ [last] := heq
    obtain ⟨hempty, hdot⟩ := (isIdle_eq_false_iff last).mp hlast
    refine ⟨last, hempty, ?_, ?_⟩
    · rw [hlater, List.dropLast_concat]
    · rw [parts_eq, hlater, List.dropLast_concat, said_append, said_singleton hempty hdot, List.append_assoc]

theorem parts_eq_nil_iff (p : Path) : p.parts = [] ↔ p.first = [] ∧ p.later = [] := by
  by_cases hlater : p.later = []
  · rw [parts_eq, hlater]
    simp [said]
  · obtain ⟨last, -, -, hparts⟩ := exists_parts_eq hlater
    simp [hparts, hlater]

/-! ## The parent -/

/-- The first segments of a path make a beginning of it. -/
theorem spelling_ofSegments_start {front : List Text} (hne : front ≠ []) (rest : List Text) :
    (ofSegments front).spelling <+: (ofSegments (front ++ rest)).spelling := by
  induction rest using List.reverseRecOn with
  | nil => simp only [List.append_nil, List.prefix_rfl]
  | append_singleton rest s ih =>
    rw [← List.append_assoc, spelling_ofSegments_concat (List.append_ne_nil_of_left_ne_nil hne rest)]
    exact ih.trans (List.prefix_append _ _)

/-- A path of one segment is no longer than a beginning of it that has the same parts. -/
theorem start_of_parts_eq_of_not_mem {s : Text} {r : Path} (hslash : '/' ∉ s) (hr : r.spelling <+: s)
    (hparts : r.parts = (⟨s⟩ : Path).parts) : s <+: r.spelling := by
  have hr' : '/' ∉ r.spelling := fun hmem => hslash (hr.subset hmem)
  by_cases hempty : s = []
  · rw [hempty]
    exact List.nil_prefix
  · have hmem : s ∈ r.parts := by
      rw [hparts, parts_of_not_mem hslash]
      simp [hempty]
    rw [parts_of_not_mem hr'] at hmem
    have heq : s = r.spelling := List.mem_singleton.mp (List.mem_of_mem_filter hmem)
    exact heq ▸ List.prefix_rfl

/-- A path that ends in a part is no longer than a beginning of it that has the same parts. -/
theorem start_of_parts_eq {a s : Text} {r : Path} (hslash : '/' ∉ s) (hempty : s ≠ []) (hdot : s ≠ ['.'])
    (hr : r.spelling <+: a ++ '/' :: s) (hparts : r.parts = (⟨a ++ '/' :: s⟩ : Path).parts) :
    a ++ '/' :: s <+: r.spelling := by
  rw [parts_append_slash, segments_of_not_mem hslash, said_singleton hempty hdot] at hparts
  -- Either the beginning ends before the last slash, and then it has too few parts, or it holds this slash.
  rcases List.prefix_or_prefix_of_prefix hr (List.prefix_append a ('/' :: s)) with hshort | ⟨t, ht⟩
  · have hlength := length_parts_le_of_start hshort
    rw [hparts, List.length_append] at hlength
    exact absurd hlength (by simp)
  obtain ⟨r⟩ := r
  obtain rfl : a ++ t = r := ht
  rcases List.prefix_cons_iff.mp ((List.prefix_append_right_inj a).mp hr) with rfl | ⟨l, rfl, hl⟩
  · rw [List.append_nil] at hparts
    exact absurd (congrArg List.length hparts) (by simp)
  · have hl' : '/' ∉ l := fun hmem => hslash (hl.subset hmem)
    rw [parts_append_slash, segments_of_not_mem hl', List.append_cancel_left_eq] at hparts
    have hmem : s ∈ said [l] := by rw [hparts]; exact List.mem_singleton_self s
    obtain rfl : s = l := List.mem_singleton.mp (List.mem_of_mem_filter hmem)
    exact List.prefix_rfl

/-- A path whose last segment says something, if it is not the only one, is no longer than a beginning of it that has the same
parts. -/
theorem start_ofSegments_of_parts_eq {s : Text} {front : List Text} {r : Path} (hslash : ∀ x ∈ s :: front, '/' ∉ x)
    (hend : front = [] ∨ ∃ front' last, front = front' ++ [last] ∧ isIdle last = false)
    (hr : r.spelling <+: (ofSegments (s :: front)).spelling) (hparts : r.parts = (ofSegments (s :: front)).parts) :
    (ofSegments (s :: front)).spelling <+: r.spelling := by
  rcases hend with rfl | ⟨front', last, rfl, hidle⟩
  · have hsingle : ofSegments [s] = ⟨s⟩ := congrArg Path.mk List.intercalate_singleton
    rw [hsingle] at hr hparts ⊢
    exact start_of_parts_eq_of_not_mem (hslash s List.mem_cons_self) hr hparts
  · have hconcat : ofSegments (s :: front' ++ [last]) = ⟨(ofSegments (s :: front')).spelling ++ '/' :: last⟩ :=
      congrArg Path.mk (spelling_ofSegments_concat (List.cons_ne_nil s front') last)
    rw [← List.cons_append, hconcat] at hr hparts ⊢
    obtain ⟨hempty, hdot⟩ := (isIdle_eq_false_iff last).mp hidle
    exact start_of_parts_eq (hslash last (by simp)) hempty hdot hr hparts

/-- A beginning that lacks the last part is the parent when none of its own beginnings will do in its place. -/
theorem LacksLast.isParentOf {p q : Path} (hq : q.LacksLast p)
    (hfirm : ∀ r : Path, r.spelling <+: q.spelling → (r.IsAbsolute ↔ q.IsAbsolute) → r.parts = q.parts →
      q.spelling <+: r.spelling) : q.IsParentOf p := by
  refine ⟨hq, fun r hr => ?_⟩
  obtain ⟨last, hlast⟩ := hq.parts
  obtain ⟨last', hlast'⟩ := hr.parts
  obtain ⟨hparts, -⟩ := List.append_inj' (hlast'.symm.trans hlast) rfl
  rcases List.prefix_or_prefix_of_prefix hr.start hq.start with h | h
  · exact hfirm r h (hr.absolute.trans hq.absolute.symm) hparts
  · exact h

/-- The parent of a path of one part is empty. -/
theorem isParentOf_nil {p : Path} (hfirst : p.first ≠ []) (hlater : p.later = []) : (⟨[]⟩ : Path).IsParentOf p := by
  refine LacksLast.isParentOf ⟨List.nil_prefix, ?_, p.first, ?_⟩ fun r _ _ _ => List.nil_prefix
  · exact iff_of_false (by decide) fun h => hfirst ((isAbsolute_iff p).mp h).1
  · rw [parts_eq p, hlater]
    simp [hfirst, said, parts_of_not_mem]

theorem tail_segments_ne_nil {p : Path} (h : p.later ≠ []) : p.segments.tail ≠ [] := by
  intro hnil
  rw [later, hnil] at h
  exact h rfl

/-- The parent of an absolute path of one part is the root. -/
theorem isParentOf_root {p : Path} (hfirst : p.first = []) (hlater : p.later ≠ []) (hfront : dropIdleEnd p.later.dropLast = []) :
    root.IsParentOf p := by
  have habsolute : p.IsAbsolute := (isAbsolute_iff p).mpr ⟨hfirst, tail_segments_ne_nil hlater⟩
  obtain ⟨last, -, -, hparts⟩ := exists_parts_eq hlater
  refine LacksLast.isParentOf ⟨habsolute, iff_of_true List.prefix_rfl habsolute, last, ?_⟩ fun r _ habs _ =>
    habs.mpr List.prefix_rfl
  rw [hparts, hfirst, ← said_dropIdleEnd, hfront]
  rfl

/-- The parent of a path of more parts is made of the first segments, up to the last but one of its parts. -/
theorem isParentOf_ofSegments {p : Path} (hlater : p.later ≠ [])
    (hfront : p.first ≠ [] ∨ dropIdleEnd p.later.dropLast ≠ []) :
    (ofSegments (p.first :: dropIdleEnd p.later.dropLast)).IsParentOf p := by
  obtain ⟨last, -, -, hparts⟩ := exists_parts_eq hlater
  generalize hdrop : dropIdleEnd p.later.dropLast = front at hfront ⊢
  obtain ⟨rest, hrest⟩ : p.first :: front <+: p.segments := by
    rw [segments_eq_cons, List.prefix_cons_inj, ← hdrop]
    exact (dropIdleEnd_start _).trans ((List.dropLast_prefix _).trans (dropIdleEnd_start _))
  have hslash : ∀ s ∈ p.first :: front, '/' ∉ s := fun s hs => by
    refine notMem_of_mem_splitOn s (t := p.spelling) ?_
    change s ∈ p.segments
    rw [← hrest]
    exact List.mem_append_left rest hs
  have hsegments : (ofSegments (p.first :: front)).segments = p.first :: front :=
    List.splitOn_intercalate '/' hslash (List.cons_ne_nil _ _)
  have hsaid : said p.later.dropLast = said front := by rw [← hdrop, said_dropIdleEnd]
  refine LacksLast.isParentOf ⟨?_, ?_, last, ?_⟩ fun r hr _ hr' => ?_
  · have hstart := spelling_ofSegments_start (List.cons_ne_nil p.first front) rest
    rwa [hrest, ofSegments_segments] at hstart
  · rw [isAbsolute_iff, isAbsolute_iff, first, hsegments, List.headD_cons, List.tail_cons]
    refine and_congr_right fun hfirst => ?_
    exact iff_of_true (hfront.resolve_left (not_not_intro hfirst)) (tail_segments_ne_nil hlater)
  · rw [hparts, hsaid, Path.parts, hsegments]
    rfl
  · have hend := dropIdleEnd_eq_nil_or p.later.dropLast
    rw [hdrop] at hend
    exact start_ofSegments_of_parts_eq hslash hend hr hr'

/-- What `parent?` gives is the parent. -/
theorem isParentOf_of_parent? {p q : Path} (h : p.parent? = some q) : q.IsParentOf p := by
  rw [parent?] at h
  split at h
  · rename_i hlater
    split at h
    · cases h
    · rename_i hfirst
      cases h
      exact isParentOf_nil hfirst hlater
  · rename_i hlater
    simp only at h
    split at h
    · rename_i hroot
      cases h
      exact isParentOf_root hroot.1 hlater hroot.2
    · rename_i hroot
      cases h
      exact isParentOf_ofSegments hlater (not_and_or.mp hroot)

/-- A path has no parent when it has no parts. -/
theorem parent?_eq_none_iff (p : Path) : p.parent? = none ↔ p.parts = [] := by
  rw [parts_eq_nil_iff, parent?]
  split
  · rename_i hlater
    simp [hlater]
  · rename_i hlater
    simp only [hlater, and_false, iff_false]
    split <;> simp

/-- A path has one parent at most. -/
theorem IsParentOf.unique {p q r : Path} (hq : q.IsParentOf p) (hr : r.IsParentOf p) : q = r := by
  have hspelling : q.spelling = r.spelling :=
    (hq.2 r hr.1).eq_of_length_le (hr.2 q hq.1).length_le
  exact congrArg Path.mk hspelling

/-- `parent?` gives the parent of every path that has one. -/
theorem parent?_eq_some_iff (p q : Path) : p.parent? = some q ↔ q.IsParentOf p := by
  refine ⟨isParentOf_of_parent?, fun hq => ?_⟩
  cases hparent : p.parent? with
  | none =>
    obtain ⟨last, hlast⟩ := hq.1.parts
    rw [(parent?_eq_none_iff p).mp hparent] at hlast
    exact absurd hlast (by simp)
  | some r => rw [(isParentOf_of_parent? hparent).unique hq]

example : (⟨"./out//./Main.md/".toList⟩ : Path).parent? = some ⟨"./out".toList⟩ := by decide +kernel

/-! ## The name -/

/-- The last part of a path is the last of its later segments or else the first one, unless this is empty. -/
theorem getLast?_parts (p : Path) :
    p.parts.getLast? = if p.later.getLastD p.first = [] then none else some (p.later.getLastD p.first) := by
  by_cases hlater : p.later = []
  · by_cases hfirst : p.first = [] <;> simp [parts_eq, hlater, hfirst, said]
  · obtain ⟨last, hempty, heq, hparts⟩ := exists_parts_eq hlater
    rw [heq, hparts]
    simp [hempty]

/-- The name of a path is its last part, unless this is a dot or two dots. -/
theorem fileName?_eq_some_iff (p : Path) (name : Text) :
    p.fileName? = some name ↔ p.parts.getLast? = some name ∧ name ≠ ['.'] ∧ name ≠ ['.', '.'] := by
  rw [fileName?, getLast?_parts]
  generalize p.later.getLastD p.first = last
  have htoList : "..".toList = ['.', '.'] := rfl
  simp only [isIdle_iff, htoList]
  by_cases hempty : last = []
  · simp [hempty]
  rw [if_neg hempty, Option.some_inj]
  by_cases hdots : (last = [] ∨ last = ['.']) ∨ last = ['.', '.']
  · rw [if_pos hdots]
    refine iff_of_false nofun ?_
    rintro ⟨rfl, hone, htwo⟩
    exact hdots.elim (fun h => h.elim hempty hone) htwo
  · rw [if_neg hdots, Option.some_inj]
    obtain ⟨hone, htwo⟩ := not_or.mp hdots
    refine ⟨?_, And.left⟩
    rintro rfl
    exact ⟨rfl, (not_or.mp hone).2, htwo⟩

/-! ## A path seen from another one -/

/-- An absolute path keeps its segments wherever it is seen from. The segments of a relative one come behind those of the path it
is seen from, of which an empty one at the end is left out, since a slash stands there already. -/
theorem segments_join (p q : Path) :
    (p.join q).segments =
      if q.IsAbsolute then q.segments
      else (if p.segments.getLast? = some [] then p.segments.dropLast else p.segments) ++ q.segments := by
  by_cases h : q.IsAbsolute
  · rw [join, if_pos (Or.inl h), if_pos h]
  rw [if_neg h]
  obtain ⟨t⟩ := p
  rcases not_mem_or_exists_append_slash t with ht | ⟨a, s, rfl, hs⟩
  · rw [segments_of_not_mem ht]
    by_cases hempty : t = []
    · simp [join, hempty]
    · have hlast : t.getLast? ≠ some '/' := fun hslash => ht (List.mem_of_getLast? hslash)
      rw [join, if_neg (not_or.mpr ⟨h, hempty⟩), if_neg hlast, segments_append_slash, segments_of_not_mem ht]
      simp [hempty]
  · have hne : a ++ '/' :: s ≠ [] := by simp
    rw [join, if_neg (not_or.mpr ⟨h, hne⟩), segments_append_slash, segments_of_not_mem hs]
    by_cases hempty : s = []
    · simp [hempty, segments_append_slash]
    · have hlast : (a ++ '/' :: s).getLast? ≠ some '/' := fun hslash => by
        rw [List.append_cons, List.getLast?_append_of_ne_nil _ hempty] at hslash
        exact hs (List.mem_of_getLast? hslash)
      rw [if_neg hlast, segments_append_slash, segments_append_slash, segments_of_not_mem hs]
      simp [hempty]

/-- Seen from a path that is not empty, what a relative path says is added to the parts. -/
theorem parts_join {p q : Path} (hp : p.spelling ≠ []) (hq : ¬ q.IsAbsolute) :
    (p.join q).parts = p.parts ++ said q.segments := by
  rw [join, if_neg (not_or.mpr ⟨hq, hp⟩)]
  split
  · rename_i hlast
    obtain ⟨a, ha⟩ := List.getLast?_eq_some_iff.mp hlast
    obtain ⟨t⟩ := p
    obtain rfl : t = a ++ '/' :: [] := ha
    rw [List.append_assoc, List.cons_append, List.nil_append, parts_append_slash, parts_append_slash]
    simp [said, segments]
  · exact parts_append_slash p.spelling q.spelling

/-- The name of a path, seen from its parent, has the parts of the path. -/
theorem IsParentOf.parts_join_fileName {p q : Path} {name : Text} (h : q.IsParentOf p) (hname : p.fileName? = some name) :
    (q.join ⟨name⟩).parts = p.parts := by
  obtain ⟨hlast, hdot, -⟩ := (fileName?_eq_some_iff p name).mp hname
  obtain ⟨last, hparts⟩ := h.1.parts
  rw [hparts, List.getLast?_concat, Option.some_inj] at hlast
  subst hlast
  obtain ⟨hempty, hslash⟩ := plain_parts p last (hparts ▸ List.mem_append_right _ (List.mem_singleton_self last))
  have hrelative : ¬ (⟨last⟩ : Path).IsAbsolute := fun hroot => hslash (hroot.subset List.mem_cons_self)
  obtain ⟨t⟩ := q
  by_cases hq : t = []
  · rw [join, if_pos (Or.inr hq), hparts, hq, parts_of_not_mem hslash, parts_of_not_mem List.not_mem_nil]
    simp [hempty]
  · rw [parts_join hq hrelative, segments_of_not_mem hslash, said_singleton hempty hdot, hparts]

end ScriptDigest.Path
