import Mathlib.Data.List.Basic
import Mathlib.Data.List.Nodup
import ScriptDigest.FileIndex

/-!
# The rows of the index

The index has the rows of the scripts and no others (`mem_ofScripts_iff`, `perm_map_name_ofScripts`). The order of the index
puts some rows before others, and those that tie stay as they are given (`filter_ties_ofScripts`). So scripts that are given
in the order of their names stand in this order wherever their rows tie (`pairwise_ties_ofScripts`).

Scripts may be given more than once, and then their rows cannot be told apart. With the place of each script among all of them
the order of the index is strict (`IndexRow.ComesBefore`), and the rows stand in it (`exists_placed_ofScripts`). What this says
of kinds, sizes and ties is put together in `order_ofScripts`.
-/

namespace ScriptDigest

namespace IndexRow

theorem precedes_iff (a b : IndexRow) :
    a.precedes b = true ↔ a.kind.rank < b.kind.rank ∨ a.kind = b.kind ∧ b.lines ≤ a.lines := by
  simp only [precedes, Bool.or_eq_true, Bool.and_eq_true, decide_eq_true_eq, beq_iff_eq]

theorem precedes_trans (a b c : IndexRow) (h : a.precedes b = true) (h' : b.precedes c = true) : a.precedes c = true := by
  rw [precedes_iff] at h h' ⊢
  rcases h with h | ⟨hk, hl⟩
  · rcases h' with h' | ⟨hk', -⟩
    · exact Or.inl (Nat.lt_trans h h')
    · exact Or.inl (hk' ▸ h)
  · rcases h' with h' | ⟨hk', hl'⟩
    · exact Or.inl (hk ▸ h')
    · exact Or.inr ⟨hk.trans hk', Nat.le_trans hl' hl⟩

/-- Kinds of the same place in the order are the same kind. -/
theorem kind_eq_of_rank_eq {k k' : ScriptKind} (h : k.rank = k'.rank) : k = k' := by
  revert h
  cases k <;> cases k' <;> decide

theorem precedes_total (a b : IndexRow) : (a.precedes b || b.precedes a) = true := by
  rw [Bool.or_eq_true, precedes_iff, precedes_iff]
  rcases Nat.lt_trichotomy a.kind.rank b.kind.rank with h | h | h
  · exact Or.inl (Or.inl h)
  · have hk := kind_eq_of_rank_eq h
    rcases Nat.le_total b.lines a.lines with hl | hl
    · exact Or.inl (Or.inr ⟨hk, hl⟩)
    · exact Or.inr (Or.inr ⟨hk.symm, hl⟩)
  · exact Or.inr (Or.inl h)

/-- Rows whose kinds stand in the order of kinds form one group for each kind. -/
theorem eq_groups_of_pairwise {rows : List IndexRow} (h : rows.Pairwise fun a b => a.kind.rank ≤ b.kind.rank) :
    rows = [.named, .extension, .unknown].flatMap fun kind => rows.filter (·.kind == kind) := by
  induction rows with
  | nil => rfl
  | cons r rows ih =>
    obtain ⟨hfirst, hrows⟩ := List.pairwise_cons.mp h
    have hgroups := ih hrows
    -- No row behind `r` is of an earlier kind.
    have hnone : ∀ k : ScriptKind, k.rank < r.kind.rank → rows.filter (·.kind == k) = [] := by
      intro k hk
      rw [List.filter_eq_nil_iff]
      intro b hb heq
      have hle := hfirst b hb
      rw [beq_iff_eq.mp heq] at hle
      omega
    cases hkind : r.kind with
    | named => simpa [hkind] using hgroups
    | extension =>
      have hnamed := hnone .named (by rw [hkind]; decide)
      simpa [hkind, hnamed] using hgroups
    | unknown =>
      have hnamed := hnone .named (by rw [hkind]; decide)
      have hextension := hnone .extension (by rw [hkind]; decide)
      simpa [hkind, hnamed, hextension] using hgroups

/-- A script comes before another one in the index, each of them given with its place among the scripts: its row is of an
earlier kind, or of the same kind and longer, or the rows tie and its place is the earlier one. -/
def ComesBefore (entryName : Text) (p q : Script × Nat) : Prop :=
  let a := ofScript entryName p.1
  let b := ofScript entryName q.1
  a.kind.rank < b.kind.rank ∨ a.kind = b.kind ∧ (b.lines < a.lines ∨ a.lines = b.lines ∧ p.2 < q.2)

/-- A sort that breaks ties by the places puts scripts into this order. -/
theorem comesBefore_of_zipIdxLE {entryName : Text} {p q : Script × Nat}
    (hle : List.zipIdxLE precedes (ofScript entryName p.1, p.2) (ofScript entryName q.1, q.2) = true) (hne : p.2 ≠ q.2) :
    ComesBefore entryName p q := by
  simp only [List.zipIdxLE, precedes_iff] at hle
  unfold ComesBefore
  split at hle
  · rename_i hpq
    rcases hpq with hrank | ⟨hkind, hlines⟩
    · exact Or.inl hrank
    · refine Or.inr ⟨hkind, ?_⟩
      split at hle
      · have hplace := of_decide_eq_true hle
        omega
      · rename_i hqp
        have hlonger : ¬ (ofScript entryName p.1).lines ≤ (ofScript entryName q.1).lines :=
          fun h => hqp (Or.inr ⟨hkind.symm, h⟩)
        omega
  · nomatch hle

section rows

variable (scripts : List Script) (entryName : Text)

theorem perm_ofScripts : (ofScripts scripts entryName).Perm (scripts.map (ofScript entryName)) := List.mergeSort_perm _ _

theorem mem_ofScripts_iff (r : IndexRow) : r ∈ ofScripts scripts entryName ↔ ∃ s ∈ scripts, ofScript entryName s = r := by
  rw [(perm_ofScripts scripts entryName).mem_iff, List.mem_map]

theorem length_ofScripts : (ofScripts scripts entryName).length = scripts.length := by
  rw [(perm_ofScripts scripts entryName).length_eq, List.length_map]

/-- The rows have the names of the scripts. -/
theorem perm_map_name_ofScripts : ((ofScripts scripts entryName).map name).Perm (scripts.map Script.name) := by
  have hnames : (scripts.map (ofScript entryName)).map name = scripts.map Script.name := by
    rw [List.map_map]
    rfl
  rw [← hnames]
  exact (perm_ofScripts scripts entryName).map name

/-- Whether a row is of a kind and has a number of lines. Rows of which this holds tie. -/
def ties (kind : ScriptKind) (lines : Nat) (r : IndexRow) : Bool := r.kind == kind && r.lines == lines

theorem ties_iff (kind : ScriptKind) (lines : Nat) (r : IndexRow) :
    r.ties kind lines = true ↔ r.kind = kind ∧ r.lines = lines := by
  rw [ties, Bool.and_eq_true, beq_iff_eq, beq_iff_eq]

/-- Rows that tie keep the order in which the scripts are given. -/
theorem filter_ties_ofScripts (kind : ScriptKind) (lines : Nat) :
    (ofScripts scripts entryName).filter (ties kind lines) = (scripts.map (ofScript entryName)).filter (ties kind lines) := by
  let rows := scripts.map (ofScript entryName)
  have hsorted : (rows.filter (ties kind lines)).Pairwise fun a b => a.precedes b = true := by
    refine List.pairwise_of_forall_mem_list fun a ha b hb => ?_
    obtain ⟨hka, hla⟩ := (ties_iff kind lines a).mp (List.mem_filter.mp ha).2
    obtain ⟨hkb, hlb⟩ := (ties_iff kind lines b).mp (List.mem_filter.mp hb).2
    rw [precedes_iff]
    exact Or.inr ⟨hka.trans hkb.symm, Nat.le_of_eq (hlb.trans hla.symm)⟩
  have hsublist : (rows.filter (ties kind lines)).Sublist (ofScripts scripts entryName) :=
    List.sublist_mergeSort precedes_trans precedes_total hsorted List.filter_sublist
  have hsublist' := hsublist.filter (ties kind lines)
  rw [List.filter_filter] at hsublist'
  simp only [Bool.and_self] at hsublist'
  refine (hsublist'.eq_of_length ?_).symm
  exact ((perm_ofScripts scripts entryName).filter (ties kind lines)).length_eq.symm

/-- Scripts that are given in the order of their names stand in this order in the index when their rows tie. -/
theorem pairwise_ties_ofScripts (h : scripts.Pairwise fun s s' => s.name < s'.name) :
    (ofScripts scripts entryName).Pairwise fun a b => a.kind = b.kind → a.lines = b.lines → a.name < b.name := by
  have hgiven : (scripts.map (ofScript entryName)).Pairwise fun a b => a.name < b.name := List.pairwise_map.mpr h
  rw [List.pairwise_iff_forall_sublist]
  intro a b hab hkind hlines
  have hties := hab.filter (ties b.kind b.lines)
  have ha : a.ties b.kind b.lines = true := (ties_iff _ _ a).mpr ⟨hkind, hlines⟩
  have hb : b.ties b.kind b.lines = true := (ties_iff _ _ b).mpr ⟨rfl, rfl⟩
  rw [List.filter_cons_of_pos ha, List.filter_cons_of_pos hb, List.filter_nil, filter_ties_ofScripts] at hties
  exact List.pairwise_iff_forall_sublist.mp hgiven (hties.trans List.filter_sublist)

/-- The rows are those of the scripts with their places, in an order in which each comes before all that follow. -/
theorem exists_placed_ofScripts : ∃ placed : List (Script × Nat), placed.Perm scripts.zipIdx ∧
    placed.map (fun p => ofScript entryName p.1) = ofScripts scripts entryName ∧ placed.Pairwise (ComesBefore entryName) := by
  let withRow : Script × Nat → IndexRow × Nat := Prod.map (ofScript entryName) id
  let le : Script × Nat → Script × Nat → Bool := fun p q => List.zipIdxLE precedes (withRow p) (withRow q)
  have hperm : (scripts.zipIdx.mergeSort le).Perm scripts.zipIdx := List.mergeSort_perm _ _
  have hrows : (scripts.zipIdx.mergeSort le).map withRow =
      ((scripts.map (ofScript entryName)).zipIdx).mergeSort (List.zipIdxLE precedes) := by
    rw [List.zipIdx_map]
    exact List.map_mergeSort fun _ _ _ _ => rfl
  refine ⟨scripts.zipIdx.mergeSort le, hperm, ?_, ?_⟩
  · rw [ofScripts, ← List.mergeSort_zipIdx (l := scripts.map (ofScript entryName)), ← hrows, List.map_map]
    rfl
  · have hsorted : (scripts.zipIdx.mergeSort le).Pairwise fun p q => le p q = true :=
      List.pairwise_mergeSort (fun p q r => List.zipIdxLE_trans precedes_trans (withRow p) (withRow q) (withRow r))
        (fun p q => List.zipIdxLE_total precedes_total (withRow p) (withRow q)) _
    have hdistinct : (scripts.zipIdx.mergeSort le).Pairwise fun p q => p.2 ≠ q.2 := by
      have hplaces : ((scripts.zipIdx.mergeSort le).map Prod.snd).Nodup := by
        rw [(hperm.map Prod.snd).nodup_iff, List.zipIdx_map_snd]
        exact List.nodup_range'
      exact List.pairwise_map.mp hplaces
    exact (hsorted.and hdistinct).imp fun h => comesBefore_of_zipIdxLE h.1 h.2

/-- A row of the index is of no later kind than those that follow it, and no shorter than those of them that are of its kind. -/
theorem pairwise_ofScripts : (ofScripts scripts entryName).Pairwise fun a b => a.precedes b = true :=
  List.pairwise_mergeSort precedes_trans precedes_total _

/-- The order of the index, in four parts.
1. The rows are those of the scripts, each with the kind, the size and the remark of its text, and there are no others.
2. Named classes stand first, then the scripts that extend another class, then all others.
3. Within a kind, no row is longer than one before it.
4. Rows that tie stand in the order in which their scripts are given, also when these share their names or texts: the scripts
   can be told apart by their places. -/
theorem order_ofScripts :
    (ofScripts scripts entryName).Perm (scripts.map fun s =>
      let profile := Profile.ofText s.text (decide (s.name = entryName))
      ⟨profile.kind, s.name, codeLineCount s.text, (Declarations.ofText s.text).count, profile.detail⟩) ∧
    ofScripts scripts entryName = [.named, .extension, .unknown].flatMap (fun kind =>
      (ofScripts scripts entryName).filter (·.kind == kind)) ∧
    (ofScripts scripts entryName).Pairwise (fun a b => a.kind = b.kind → b.lines ≤ a.lines) ∧
    ∃ placed : List (Script × Nat), placed.Perm scripts.zipIdx ∧
      placed.map (fun p => ofScript entryName p.1) = ofScripts scripts entryName ∧
      placed.Pairwise fun p q => (ofScript entryName p.1).kind = (ofScript entryName q.1).kind →
        (ofScript entryName p.1).lines = (ofScript entryName q.1).lines → p.2 < q.2 := by
  have hsorted := pairwise_ofScripts scripts entryName
  refine ⟨perm_ofScripts scripts entryName, eq_groups_of_pairwise (hsorted.imp ?_), hsorted.imp ?_, ?_⟩
  · intro a b h
    rcases (precedes_iff a b).mp h with hrank | ⟨hkind, -⟩
    · exact Nat.le_of_lt hrank
    · exact Nat.le_of_eq (congrArg ScriptKind.rank hkind)
  · intro a b h hkind
    rcases (precedes_iff a b).mp h with hrank | ⟨-, hlines⟩
    · rw [hkind] at hrank
      exact absurd hrank (Nat.lt_irrefl _)
    · exact hlines
  · obtain ⟨placed, hperm, hrows, hplaced⟩ := exists_placed_ofScripts scripts entryName
    refine ⟨placed, hperm, hrows, hplaced.imp ?_⟩
    intro p q h hkind hlines
    rcases h with hrank | ⟨-, hlonger | ⟨-, hplace⟩⟩
    · rw [hkind] at hrank
      exact absurd hrank (Nat.lt_irrefl _)
    · omega
    · exact hplace

end rows

end IndexRow

end ScriptDigest
