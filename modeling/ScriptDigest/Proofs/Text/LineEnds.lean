import ScriptDigest.Text.Lines

/-!
# Line ends

Two statements on the lines of a text. Behind a line feed a text goes on with new lines (`lines_append`). And it does not
matter how the line ends are written (`Relined`): a carriage return may be put in front of every line feed, and a last line
feed may be added where there is none. The lines stay the same, but for the empty text, which has no line and gets an empty
one (`Relined.lines_eq`).
-/

namespace ScriptDigest.Text

/-! ## Lines behind a line feed -/

/-- A character that is neither a line feed nor a carriage return in front of one belongs to the first line. -/
theorem lines_cons {c : Char} {r : Text} (hc : c ≠ '\n') (hr : c = '\r' → r.head? ≠ some '\n') :
    lines (c :: r) = consHead c (lines r) := by
  rw [lines]
  · exact hc
  · rintro r' rfl rfl
    exact hr rfl rfl

theorem consHead_append {c : Char} {ls : List Text} (h : ls ≠ []) (ls' : List Text) :
    consHead c (ls ++ ls') = consHead c ls ++ ls' := by
  cases ls with
  | nil => exact absurd rfl h
  | cons l ls => rfl

/-- What stands behind the text begins a new line. -/
def EndsLine (t : Text) : Prop := t = [] ∨ t.getLast? = some '\n'

instance (t : Text) : Decidable (EndsLine t) := inferInstanceAs (Decidable (_ ∨ _))

theorem EndsLine.tail {c : Char} {r : Text} (h : EndsLine (c :: r)) : EndsLine r := by
  rcases h with h | h
  · nomatch h
  · cases r with
    | nil => exact Or.inl rfl
    | cons d r => exact Or.inr (by rwa [List.getLast?_cons_cons] at h)

/-- The lines of two texts that are put together are the lines of both, when the first text ends its last line. -/
theorem lines_append {a : Text} (h : EndsLine a) (b : Text) : lines (a ++ b) = lines a ++ lines b := by
  fun_induction lines a with
  | case1 => rfl
  | case2 r ih => rw [List.cons_append, lines, ih h.tail, List.cons_append]
  | case3 r ih => rw [List.cons_append, List.cons_append, lines, ih h.tail.tail, List.cons_append]
  | case4 c r hc hr ih =>
    have hne : r ≠ [] := by
      rintro rfl
      rcases h with h | h
      · nomatch h
      · exact hc (Option.some.inj h)
    obtain ⟨d, r, rfl⟩ := List.exists_cons_of_ne_nil hne
    have hhead : c = '\r' → (d :: r ++ b).head? ≠ some '\n' := by
      rintro rfl hd
      cases hd
      exact hr r rfl rfl
    rw [List.cons_append, lines_cons hc hhead, ih h.tail, consHead_append (mt lines_eq_nil_iff.mp hne)]

/-! ## Other line ends -/

/-- No carriage return stands directly in front of a line feed or at the end of the text. -/
def PlainEnds (t : Text) : Prop := ¬ t.Holds ['\r', '\n'] ∧ t.getLast? ≠ some '\r'

instance (t : Text) : Decidable (PlainEnds t) := inferInstanceAs (Decidable (_ ∧ _))

/-- The text with a carriage return in front of every line feed. -/
def withReturns (t : Text) : Text := t.flatMap fun c => if c = '\n' then ['\r', '\n'] else [c]

/-- The text with a line feed behind it. -/
def ended (t : Text) : Text := t ++ ['\n']

/-- The same text with other line ends. Nothing is changed in a text in which a carriage return could be taken for a part of
a line end, and nothing is added to a text that ends in a line feed. -/
inductive Relined (t : Text) : Text → Prop where
  /-- Nothing is changed. -/
  | same : Relined t t
  /-- Every line feed gets a carriage return. -/
  | returns : PlainEnds t → Relined t (withReturns t)
  /-- The last line is ended. -/
  | ended : PlainEnds t → t.getLast? ≠ some '\n' → Relined t (Text.ended t)
  /-- Every line feed gets a carriage return, then the last line is ended. -/
  | returnsEnded : PlainEnds t → t.getLast? ≠ some '\n' → Relined t (Text.ended (withReturns t))
  /-- The last line is ended, then every line feed gets a carriage return. -/
  | endedReturns : PlainEnds t → t.getLast? ≠ some '\n' → Relined t (withReturns (Text.ended t))

theorem withReturns_newline (r : Text) : withReturns ('\n' :: r) = '\r' :: '\n' :: withReturns r := rfl

theorem withReturns_cons {c : Char} (h : c ≠ '\n') (r : Text) : withReturns (c :: r) = c :: withReturns r := by
  rw [withReturns, List.flatMap_cons, if_neg h, List.singleton_append, withReturns]

/-- With a carriage return in front of every line feed, no text begins with a line feed. -/
theorem head?_withReturns (t : Text) : (withReturns t).head? ≠ some '\n' := by
  cases t with
  | nil => nofun
  | cons c r =>
    by_cases hc : c = '\n'
    · subst hc
      rw [withReturns_newline]
      nofun
    · rw [withReturns_cons hc, List.head?_cons]
      exact fun h => hc (Option.some.inj h)

/-- A text keeps its last character when carriage returns are put in front of the line feeds. -/
theorem getLast?_withReturns (t : Text) : (withReturns t).getLast? = t.getLast? := by
  induction t with
  | nil => rfl
  | cons c r ih =>
    by_cases hc : c = '\n'
    · subst hc
      rw [withReturns_newline, List.getLast?_cons_cons, List.getLast?_cons, List.getLast?_cons, ih]
    · rw [withReturns_cons hc, List.getLast?_cons, List.getLast?_cons, ih]

/-- Carriage returns in front of the line feeds change no line, when there were none before. -/
theorem lines_withReturns {t : Text} (h : ¬ t.Holds ['\r', '\n']) : lines (withReturns t) = lines t := by
  induction t with
  | nil => rfl
  | cons c r ih =>
    have hr : ¬ Holds r ['\r', '\n'] := fun hm => h (List.infix_cons hm)
    by_cases hc : c = '\n'
    · subst hc
      rw [withReturns_newline, lines, lines, ih hr]
    · have hhead : c = '\r' → r.head? ≠ some '\n' := by
        rintro rfl hd
        obtain ⟨s, rfl⟩ := List.head?_eq_some_iff.mp hd
        exact h (List.prefix_append ['\r', '\n'] s).isInfix
      rw [withReturns_cons hc, lines_cons hc (fun _ => head?_withReturns r), lines_cons hc hhead, ih hr]

/-- A line feed behind a text that is not empty only ends its last line, unless it ends in a line feed itself or in a
carriage return. -/
theorem lines_ended {t : Text} (hne : t ≠ []) (hlf : t.getLast? ≠ some '\n') (hcr : t.getLast? ≠ some '\r') :
    lines (ended t) = lines t := by
  have hmore : ∀ {c d : Char} {r : Text}, (c :: d :: r).getLast? = (d :: r).getLast? := List.getLast?_cons_cons
  fun_induction lines t with
  | case1 => exact absurd rfl hne
  | case2 r ih =>
    cases r with
    | nil => exact absurd rfl hlf
    | cons d r =>
      rw [hmore] at hlf hcr
      rw [ended, List.cons_append, lines, ← ended, ih (List.cons_ne_nil d r) hlf hcr]
  | case3 r ih =>
    cases r with
    | nil => exact absurd rfl hlf
    | cons d r =>
      rw [hmore, hmore] at hlf hcr
      rw [ended, List.cons_append, List.cons_append, lines, ← ended, ih (List.cons_ne_nil d r) hlf hcr]
  | case4 c r hc hr ih =>
    cases r with
    | nil =>
      have hlone : c = '\r' → ['\n'].head? ≠ some '\n' := fun h => absurd (congrArg some h) hcr
      rw [ended, List.singleton_append, lines_cons hc hlone]
      rfl
    | cons d r =>
      have hhead : c = '\r' → (ended (d :: r)).head? ≠ some '\n' := by
        rintro rfl hd
        cases hd
        exact hr r rfl rfl
      rw [hmore] at hlf hcr
      rw [ended, List.cons_append, ← ended, lines_cons hc hhead, ih (List.cons_ne_nil d r) hlf hcr]

/-- A line feed behind a text stands behind no carriage return, unless the text ends in one. -/
theorem PlainEnds.not_holds_ended {t : Text} (h : PlainEnds t) : ¬ (ended t).Holds ['\r', '\n'] := by
  intro hm
  rcases List.infix_concat_iff.mp hm with ⟨s, hs⟩ | hm
  · have hsplit : s ++ ['\r', '\n'] = s ++ ['\r'] ++ ['\n'] := (List.append_assoc s ['\r'] ['\n']).symm
    have ht : t = s ++ ['\r'] := List.append_cancel_right (hs.symm.trans hsplit)
    exact h.2 (ht ▸ List.getLast?_concat)
  · exact h.1 hm

/-- Other line ends change no line, but that the empty text may get an empty line. -/
theorem Relined.lines_eq {t t' : Text} (h : Relined t t') : lines t' = lines t ∨ t = [] ∧ lines t' = [[]] := by
  by_cases hne : t = []
  · subst hne
    cases h with
    | same => exact Or.inl rfl
    | returns => exact Or.inl rfl
    | ended => exact Or.inr ⟨rfl, rfl⟩
    | returnsEnded => exact Or.inr ⟨rfl, rfl⟩
    | endedReturns => exact Or.inr ⟨rfl, rfl⟩
  · left
    cases h with
    | same => rfl
    | returns hp => exact lines_withReturns hp.1
    | ended hp hlf => exact lines_ended hne hlf hp.2
    | returnsEnded hp hlf =>
      have hne' : withReturns t ≠ [] := by
        intro hnil
        have hlast := getLast?_withReturns t
        rw [hnil] at hlast
        exact hne (List.getLast?_eq_none_iff.mp hlast.symm)
      have hends := lines_ended hne' (by rwa [getLast?_withReturns]) (by rw [getLast?_withReturns]; exact hp.2)
      rw [hends, lines_withReturns hp.1]
    | endedReturns hp hlf => rw [lines_withReturns hp.not_holds_ended, lines_ended hne hlf hp.2]

end ScriptDigest.Text
