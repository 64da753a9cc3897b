import Mathlib.Data.Char
import Mathlib.Data.List.Lex
import Mathlib.Data.List.Nodup
import ScriptDigest.Discovery

/-!
# Which scripts are found

`Workspace.findScripts` collects the files of a folder from the entries of a tree, sorts them and gives each its path.
`Workspace.Lists` says of a script by itself that it is found: there is a file of its name and content in the folder, the
name ends like that of a script, and its path is the one that a listing shows. Exactly these scripts are found
(`mem_findScripts_iff`), each of them once, in the order of their names (`pairwise_findScripts`). All of them have the same
path up to the name, so that this is the order of their paths too.
-/

namespace ScriptDigest

/-! ## The order of names -/

namespace Text

/-- The order of code points is the lexicographic order of characters. -/
theorem precedes_iff_le (s t : Text) : s.precedes t = true ↔ s ≤ t := by
  fun_induction precedes s t with
  | case1 t => exact iff_of_true rfl (not_lt.mp (List.not_lt_nil t))
  | case2 a s => exact iff_of_false nofun (not_le.mpr (List.nil_lt_cons a s))
  | case3 a s b t ih =>
    have hchar : a.toNat < b.toNat ↔ a < b := Iff.rfl
    have hcons : a :: s ≤ b :: t ↔ a < b ∨ a = b ∧ s ≤ t := by
      rw [le_iff_lt_or_eq, le_iff_lt_or_eq, List.cons_lt_cons_iff, List.cons.injEq, and_or_left, or_assoc]
    rw [hcons, Bool.or_eq_true, Bool.and_eq_true, decide_eq_true_eq, beq_iff_eq, ih, hchar]

theorem precedes_trans (s t u : Text) (h : s.precedes t = true) (h' : t.precedes u = true) : s.precedes u = true := by
  rw [precedes_iff_le] at h h' ⊢
  exact le_trans h h'

theorem precedes_total (s t : Text) : (s.precedes t || t.precedes s) = true := by
  rw [Bool.or_eq_true, precedes_iff_le, precedes_iff_le]
  exact le_total s t

theorem lt_of_precedes_of_ne {s t : Text} (h : s.precedes t = true) (hne : s ≠ t) : s < t :=
  lt_of_le_of_ne ((precedes_iff_le s t).mp h) hne

end Text

/-! ## The files of a folder -/

namespace FileTree

/-- A location has a node exactly when the two stand among the entries, unless the location is the root. -/
theorem node?_eq_some_iff (t : FileTree) {l : Location} (hl : l ≠ []) (n : Node) :
    t.node? l = some n ↔ (l, n) ∈ t.entries := by
  obtain ⟨entries, hd⟩ := t
  rw [node?, if_neg hl]
  induction entries with
  | nil => simp
  | cons e es ih =>
    obtain ⟨k, x⟩ := e
    rw [List.map_cons, List.nodup_cons] at hd
    rw [List.lookup_cons, List.mem_cons, Prod.mk.injEq]
    by_cases hk : l = k
    · subst hk
      have hnot : (l, n) ∉ es := fun hm => hd.1 (List.mem_map.mpr ⟨(l, n), hm, rfl⟩)
      rw [beq_self_eq_true, or_iff_left hnot, Option.some_inj]
      exact ⟨fun h => ⟨rfl, h.symm⟩, fun h => h.2.symm⟩
    · rw [beq_false_of_ne hk, or_iff_right fun h => hk h.1]
      exact ih hd.2

theorem fileIn?_eq_some_iff (folder : Location) (e : Location × Node) (f : Text × ByteArray) :
    fileIn? folder e = some f ↔ e = (f.1 :: folder, .file f.2) := by
  constructor
  · intro h
    rw [fileIn?.eq_def] at h
    split at h
    · split at h
      · rename_i hp
        cases h
        rw [hp]
      · nomatch h
    · nomatch h
  · rintro rfl
    exact if_pos rfl

theorem mem_filesIn_iff (t : FileTree) (folder : Location) (f : Text × ByteArray) :
    f ∈ t.filesIn folder ↔ t.node? (f.1 :: folder) = some (.file f.2) := by
  simp only [filesIn, List.mem_filterMap, fileIn?_eq_some_iff, exists_eq_right,
    node?_eq_some_iff t (List.cons_ne_nil f.1 folder)]

/-- No two files of a folder have the same name. -/
theorem pairwise_filesIn (t : FileTree) (folder : Location) : (t.filesIn folder).Pairwise fun f g => f.1 ≠ g.1 := by
  have hnodup : (t.filesIn folder).Nodup := by
    refine List.Nodup.filterMap (fun e e' f he he' => ?_) t.distinct.of_map
    rw [(fileIn?_eq_some_iff folder e f).mp he, (fileIn?_eq_some_iff folder e' f).mp he']
  refine hnodup.imp_of_mem ?_
  intro f g hf hg hne hname
  rw [mem_filesIn_iff] at hf hg
  rw [hname, hg] at hf
  exact hne (Prod.ext hname (Node.file.inj (Option.some.inj hf)).symm)

end FileTree

/-! ## The scripts of a folder -/

namespace Workspace

variable (w : Workspace)

/-- A script is found in the folder that a path leads to: it is a file there whose name has the ending of scripts, and the
path under which a listing of the folder shows it is not too long. -/
def Lists (source : Path) (f : FoundScript) : Prop :=
  ∃ folder shown, w.locate source = .ok folder ∧ source.listed? = some shown ∧
    w.tree.node? (f.name :: folder) = some (.file f.content) ∧ scriptEnding <:+ f.name ∧
    f.path = shown.listedChild f.name ∧ f.path.isLong = false

theorem mem_scriptFiles_iff (folder : Location) (f : Text × ByteArray) :
    f ∈ w.scriptFiles folder ↔ w.tree.node? (f.1 :: folder) = some (.file f.2) ∧ scriptEnding <:+ f.1 := by
  rw [scriptFiles, List.mem_mergeSort, List.mem_filter, FileTree.mem_filesIn_iff, decide_eq_true_eq]

/-- The scripts of a folder stand in the order of their names, and no name stands there twice. -/
theorem pairwise_scriptFiles (folder : Location) : (w.scriptFiles folder).Pairwise fun f g => f.1 < g.1 := by
  have hsorted : (w.scriptFiles folder).Pairwise fun f g => f.1.precedes g.1 = true :=
    List.pairwise_mergeSort (fun f g h => Text.precedes_trans f.1 g.1 h.1) (fun f g => Text.precedes_total f.1 g.1) _
  have hdistinct : (w.scriptFiles folder).Pairwise fun f g => f.1 ≠ g.1 := by
    refine ((List.mergeSort_perm _ _).pairwise_iff fun h => Ne.symm h).mpr ?_
    exact (w.tree.pairwise_filesIn folder).sublist List.filter_sublist
  exact hsorted.imp₂ (fun f g h hne => Text.lt_of_precedes_of_ne h hne) hdistinct

/-- The scripts that are found are those that are listed, and no others. -/
theorem mem_findScripts_iff (source : Path) (f : FoundScript) : f ∈ w.findScripts source ↔ w.Lists source f := by
  obtain ⟨path, name, content⟩ := f
  rw [findScripts]
  split
  · rename_i shown folder hshown hfolder
    simp only [List.mem_filter, List.mem_map, mem_scriptFiles_iff, Bool.not_eq_true']
    constructor
    · rintro ⟨⟨⟨n, c⟩, ⟨hnode, hend⟩, heq⟩, hlong⟩
      cases heq
      exact ⟨folder, shown, hfolder, hshown, hnode, hend, rfl, hlong⟩
    · rintro ⟨folder', shown', hfolder', hshown', hnode, hend, hpath, hlong⟩
      rw [hshown] at hshown'
      rw [hfolder] at hfolder'
      cases hshown'
      cases hfolder'
      change path = shown.listedChild name at hpath
      exact ⟨⟨⟨name, content⟩, ⟨hnode, hend⟩, by rw [hpath]⟩, hlong⟩
  · rename_i hnone
    refine iff_of_false (List.not_mem_nil) ?_
    rintro ⟨folder, shown, hfolder, hshown, -⟩
    exact hnone shown folder hshown hfolder

/-- The scripts are found in the order of their names, each of them once. -/
theorem pairwise_findScripts (source : Path) : (w.findScripts source).Pairwise fun f g => f.name < g.name := by
  rw [findScripts]
  split
  · rename_i shown folder _ _
    refine List.Pairwise.filter _ (List.pairwise_map.mpr ?_)
    exact w.pairwise_scriptFiles folder
  · exact List.Pairwise.nil

end Workspace

end ScriptDigest
