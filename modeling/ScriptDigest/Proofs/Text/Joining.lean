import ScriptDigest.Proofs.Text.LineEnds
import ScriptDigest.Proofs.Text.Printing

/-!
# Lines put together and taken apart

Joined lines (`joinLines`) are found again when the text is divided into lines (`lines_joinLines`). The lines must be such that no
part of them can be taken for a line end: they hold no line feed and do not end in a carriage return. And the last of them must
not be empty, since nothing behind the last line feed is no line.

Split at line feeds, without regard to carriage returns, joined texts fall into the lines of each of them in turn
(`splitOn_joinLines`). Those that are single lines are found again (`splitOn_joinLines_of_forall`), but when there are none, one
empty line is found (`filledLines`).
-/

namespace ScriptDigest.Text

/-- No character stands in texts put together that stands neither in one of them nor between them. -/
theorem not_mem_intercalate {c : Char} {sep : Text} {ts : List Text} (hsep : c ∉ sep) (h : ∀ t ∈ ts, c ∉ t) :
    c ∉ sep.intercalate ts := by
  induction ts with
  | nil => exact List.not_mem_nil
  | cons t ts ih =>
    obtain ⟨ht, hts⟩ := List.forall_mem_cons.mp h
    by_cases hne : ts = []
    · rw [hne, List.intercalate_singleton]
      exact ht
    · rw [List.intercalate_cons_of_ne_nil hne, List.mem_append, List.mem_append, not_or, not_or]
      exact ⟨⟨ht, hsep⟩, ih hts⟩

/-- Lists of lines are joined at a line feed. -/
theorem joinLines_append {a b : List Text} (ha : a ≠ []) (hb : b ≠ []) :
    joinLines (a ++ b) = joinLines a ++ '\n' :: joinLines b := by
  obtain ⟨t, ts, rfl⟩ := List.exists_cons_of_ne_nil hb
  induction a with
  | nil => exact absurd rfl ha
  | cons s a ih =>
    cases a with
    | nil => simp [joinLines]
    | cons s' a =>
      have hrest := ih (List.cons_ne_nil s' a)
      simp only [List.cons_append] at hrest ⊢
      rw [joinLines_cons_cons, hrest, joinLines_cons_cons, List.append_assoc, List.cons_append]

/-- A line feed ends a line, and what stands before it is the line when it does not end in a carriage return. -/
theorem lines_append_cons {l : Text} (hlf : '\n' ∉ l) (hcr : l.getLast? ≠ some '\r') (r : Text) :
    lines (l ++ '\n' :: r) = l :: lines r := by
  induction l with
  | nil => rfl
  | cons c l ih =>
    rw [List.mem_cons, not_or] at hlf
    cases l with
    | nil =>
      have hc : c ≠ '\r' := fun h => hcr (congrArg some h)
      rw [List.singleton_append, lines_cons (Ne.symm hlf.1) (fun h => absurd h hc), lines]
      rfl
    | cons d l =>
      have hhead : c = '\r' → (d :: l ++ '\n' :: r).head? ≠ some '\n' := by
        rintro - hd
        exact hlf.2 (Option.some.inj hd ▸ List.mem_cons_self)
      rw [List.getLast?_cons_cons] at hcr
      rw [List.cons_append, lines_cons (Ne.symm hlf.1) hhead, ih hlf.2 hcr]
      rfl

/-- Joined lines are read back, when no line holds a line feed or ends in a carriage return, and the last one is not empty. -/
theorem lines_joinLines {ls : List Text} (h : ∀ l ∈ ls, '\n' ∉ l ∧ l.getLast? ≠ some '\r') (hlast : ls.getLast? ≠ some []) :
    lines (joinLines ls) = ls := by
  induction ls with
  | nil => rfl
  | cons l ls ih =>
    obtain ⟨⟨hlf, hcr⟩, hls⟩ := List.forall_mem_cons.mp h
    cases ls with
    | nil =>
      have hne : l ≠ [] := fun he => hlast (congrArg some he)
      have hend : l.getLast? ≠ some '\n' := fun he => hlf (List.mem_of_getLast? he)
      have hline : joinLines [l] = l := by simp [joinLines]
      rw [hline, ← lines_ended hne hend hcr, ended, lines_append_cons hlf hcr]
      rfl
    | cons l' ls =>
      rw [joinLines_cons_cons, lines_append_cons hlf hcr, ih hls (by rwa [List.getLast?_cons_cons] at hlast)]

/-! ## Splitting at line feeds -/

/-- The lines that joined texts fill: one for each text, and an empty one when there is none. -/
def filledLines (ts : List Text) : List Text := if ts = [] then [[]] else ts

/-- Joined texts are split into the lines of each of them. -/
theorem splitOn_joinLines {ts : List Text} (h : ts ≠ []) : (joinLines ts).splitOn '\n' = ts.flatMap (List.splitOn '\n') := by
  induction ts with
  | nil => exact absurd rfl h
  | cons t ts ih =>
    cases ts with
    | nil => simp [joinLines]
    | cons t' ts => rw [List.flatMap_cons, joinLines_cons_cons, List.splitOn_append_cons_self, ih (List.cons_ne_nil t' ts)]

/-- Single lines stay as they are when each of them is split. -/
theorem flatMap_splitOn {ts : List Text} (h : ∀ t ∈ ts, '\n' ∉ t) : ts.flatMap (List.splitOn '\n') = ts := by
  induction ts with
  | nil => rfl
  | cons t ts ih =>
    obtain ⟨ht, hts⟩ := List.forall_mem_cons.mp h
    rw [List.flatMap_cons, List.splitOn_eq_singleton ht, ih hts, List.singleton_append]

/-- Single lines that are joined are found again, and an empty line in place of none. -/
theorem splitOn_joinLines_of_forall {ts : List Text} (h : ∀ t ∈ ts, '\n' ∉ t) :
    (joinLines ts).splitOn '\n' = filledLines ts := by
  unfold filledLines
  split
  · rename_i hnil
    rw [hnil]
    rfl
  · rename_i hne
    exact List.splitOn_intercalate '\n' h hne

end ScriptDigest.Text
