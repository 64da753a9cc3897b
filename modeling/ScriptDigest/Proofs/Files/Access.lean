import ScriptDigest.Files.Tree

/-!
# Reading and writing files

What it takes to read a file, and what it takes to write one and what this changes. A text is read exactly when the path
leads to a file that holds the text (`read_eq_ok_iff`). A file is written exactly when the path ends in a name, the segments
in front of the name lead to a folder, and no folder stands where the file would stand (`RoomFor`, `writable_eq_ok_iff`). The
path leads to the location that is written, and nothing else is changed (`RoomFor.writesOnly`). So a path that led somewhere
still leads to the same place (`WritesOnly.locate_eq`), and what was written stands in the file afterwards
(`RoomFor.holdsText`).
-/

namespace ScriptDigest

theorem bind_eq_ok_iff {ε α β : Type} {x : Except ε α} {f : α → Except ε β} {b : β} :
    x >>= f = .ok b ↔ ∃ a, x = .ok a ∧ f a = .ok b := by
  cases x with
  | error e => exact ⟨nofun, fun ⟨_, h, _⟩ => nomatch h⟩
  | ok a => exact ⟨fun h => ⟨a, rfl, h⟩, fun ⟨_, h, hf⟩ => by cases h; exact hf⟩

theorem bind_eq_error_iff {ε α β : Type} {x : Except ε α} {f : α → Except ε β} {e : ε} :
    x >>= f = .error e ↔ x = .error e ∨ ∃ a, x = .ok a ∧ f a = .error e := by
  cases x with
  | error e' =>
    refine ⟨fun h => Or.inl ?_, ?_⟩
    · cases h
      rfl
    · rintro (h | ⟨a, h, -⟩)
      · cases h
        rfl
      · nomatch h
  | ok a =>
    refine ⟨fun h => Or.inr ⟨a, rfl, h⟩, ?_⟩
    rintro (h | ⟨a', h, hf⟩)
    · nomatch h
    · cases h
      exact hf

/-- What is only made of a result adds no error. -/
theorem bind_pure_eq_error_iff {ε α β : Type} {x : Except ε α} {f : α → β} {e : ε} :
    (x >>= fun a => pure (f a)) = .error e ↔ x = .error e := by
  rw [bind_eq_error_iff]
  exact or_iff_left fun ⟨_, _, h⟩ => nomatch h

/-- A segment that names something in a folder. -/
def Path.IsName (segment : Text) : Prop :=
  isIdle segment = false ∧ segment ≠ "..".toList ∧ isLongName segment = false

instance (segment : Text) : Decidable (Path.IsName segment) := inferInstanceAs (Decidable (_ ∧ _ ∧ _))

theorem Path.IsName.ne_nil {segment : Text} (h : IsName segment) : segment ≠ [] := by
  rintro rfl
  exact absurd h.1 (by decide)

/-- A path has a last segment. -/
theorem Path.exists_segments_eq (p : Path) : ∃ front name, p.segments = front ++ [name] := by
  rcases List.eq_nil_or_concat p.segments with h | ⟨front, name, h⟩
  · exact absurd h (List.splitOn_ne_nil _ _)
  · exact ⟨front, name, by rw [h, List.concat_eq_append]⟩

/-- The empty path ends in no name. -/
theorem Path.spelling_ne_nil {p : Path} {front : List Text} {name : Text} (hseg : p.segments = front ++ [name])
    (hne : name ≠ []) : p.spelling ≠ [] := by
  intro hnil
  rw [segments, hnil] at hseg
  have hlast : ([[]] : List Text).getLast? = (front ++ [name]).getLast? := congrArg List.getLast? hseg
  rw [List.getLast?_concat] at hlast
  exact hne (Option.some.inj hlast).symm

/-! ## Texts in files -/

/-- Bytes that hold a text. -/
def Text.IsUtf8 (content : ByteArray) : Prop := ∃ t, content = Text.toUtf8 t

/-- Bytes hold the one text that is stored as these bytes. -/
theorem Text.ofUtf8?_eq_some_iff (content : ByteArray) (t : Text) : ofUtf8? content = some t ↔ content = toUtf8 t := by
  constructor
  · intro h
    obtain ⟨s, hs, rfl⟩ := Option.map_eq_some_iff.mp h
    rw [String.fromUTF8?] at hs
    split at hs
    · cases hs
      rw [toUtf8, String.ofList_toList]
      rfl
    · cases hs
  · rintro rfl
    exact ofUtf8?_toUtf8 t

namespace Workspace

variable {w w' : Workspace}

theorem decode_eq_ok_iff (content : ByteArray) (t : Text) : decode content = .ok t ↔ content = Text.toUtf8 t := by
  rw [← Text.ofUtf8?_eq_some_iff, decode]
  split
  · rename_i h
    rw [h, Except.ok.injEq, Option.some_inj]
  · rename_i h
    rw [h]
    exact ⟨nofun, nofun⟩

/-- Bytes that hold no text are reported as such. -/
theorem decode_eq_error_iff (content : ByteArray) (e : FileError) :
    decode content = .error e ↔ ¬ Text.IsUtf8 content ∧ e = .notText := by
  have hutf8 : Text.IsUtf8 content ↔ ∃ t, decode content = .ok t := by
    simp only [Text.IsUtf8, decode_eq_ok_iff]
  rw [hutf8, decode]
  split
  · rename_i t h
    exact ⟨nofun, fun hn => absurd ⟨t, rfl⟩ hn.1⟩
  · exact ⟨fun h => ⟨nofun, (Except.error.inj h).symm⟩, fun h => by rw [h.2]⟩

/-- A path leads to a file that holds a text. -/
def HoldsText (w : Workspace) (p : Path) (t : Text) : Prop :=
  ∃ l, w.locate p = .ok l ∧ w.tree.node? l = some (.file (Text.toUtf8 t))

/-- A text is read exactly when the path leads to a file that holds it. -/
theorem read_eq_ok_iff (p : Path) (t : Text) : w.read p = .ok t ↔ w.HoldsText p t := by
  rw [read, bind_eq_ok_iff, HoldsText]
  refine exists_congr fun l => and_congr_right fun _ => ?_
  split
  · rename_i h
    rw [h]
    exact ⟨nofun, nofun⟩
  · rename_i h
    rw [h]
    exact ⟨nofun, fun h => nomatch Option.some.inj h⟩
  · rename_i content h
    rw [h, decode_eq_ok_iff, Option.some_inj, Node.file.injEq]

/-! ## Following a path -/

theorem enter_eq_ok_iff (place l : Location) : w.enter place = .ok l ↔ w.tree.node? place = some .folder ∧ place = l := by
  rw [enter]
  cases w.tree.node? place with
  | none => simp
  | some node => cases node <;> simp

/-- A step is possible only from a folder. -/
theorem folder_of_step {place l : Location} {segment : Text} (h : w.step place segment = .ok l) :
    w.tree.node? place = some .folder := by
  obtain ⟨folder, hf, -⟩ := bind_eq_ok_iff.mp h
  exact ((enter_eq_ok_iff place folder).mp hf).1

/-- From a folder, a step does not depend on what else there is. -/
theorem step_eq_step {place : Location} (h : w.tree.node? place = some .folder)
    (h' : w'.tree.node? place = some .folder) (segment : Text) : w.step place segment = w'.step place segment := by
  rw [step, step, (enter_eq_ok_iff place place).mpr ⟨h, rfl⟩, (enter_eq_ok_iff place place).mpr ⟨h', rfl⟩]

/-- A segment that is neither idle nor leads up leads to what it names in a folder, unless it is too long. -/
theorem step_eq_ok_iff {name : Text} (hidle : Path.isIdle name = false) (hup : name ≠ "..".toList) (place l : Location) :
    w.step place name = .ok l ↔
      w.tree.node? place = some .folder ∧ Path.isLongName name = false ∧ name :: place = l := by
  have hnamed : ∀ folder : Location, (if Path.isIdle name then .ok folder
      else if name = "..".toList then .ok folder.tail
      else if Path.isLongName name then .error .nameTooLong
      else .ok (name :: folder)) = (.ok l : Except FileError Location) ↔
        Path.isLongName name = false ∧ name :: folder = l := by
    intro folder
    rw [if_neg (by simp [hidle]), if_neg hup]
    split
    · rename_i hlong
      exact ⟨nofun, fun h => nomatch hlong.symm.trans h.1⟩
    · rename_i hshort
      rw [Except.ok.injEq, and_iff_right (Bool.not_eq_true _ ▸ hshort)]
  rw [step, bind_eq_ok_iff]
  simp only [enter_eq_ok_iff, hnamed, and_assoc, exists_and_left, exists_eq_left']

/-! ## Room for a file -/

/-- A file can be written by a path to a location: the path ends in a name, the segments in front of it lead to a folder, and
in this folder the name does not stand for a folder. -/
def RoomFor (w : Workspace) (p : Path) (l : Location) : Prop :=
  p.isLong = false ∧ ∃ front name folder, p.segments = front ++ [name] ∧ Path.IsName name ∧
    w.follow (w.start p) front = .ok folder ∧ w.tree.node? folder = some .folder ∧
    l = name :: folder ∧ w.tree.node? l ≠ some .folder

/-- A path leads to the location for which it has room. -/
theorem RoomFor.locate_eq {p : Path} {l : Location} (h : w.RoomFor p l) : w.locate p = .ok l := by
  obtain ⟨hlong, front, name, folder, hseg, hname, hfront, hfolder, rfl, -⟩ := h
  have hspelling := Path.spelling_ne_nil hseg hname.ne_nil
  rw [locate, if_neg hspelling, if_neg (by simp [hlong]), hseg, follow, List.foldlM_append]
  have hstep := (step_eq_ok_iff hname.1 hname.2.1 folder _).mpr ⟨hfolder, hname.2.2, rfl⟩
  exact bind_eq_ok_iff.mpr ⟨folder, hfront, bind_eq_ok_iff.mpr ⟨_, hstep, rfl⟩⟩

/-- Without the empty segments at its end, a path that ends in a name is what it is. -/
theorem dropWhile_empty_of_ne {front : List Text} {name : Text} (h : name ≠ []) :
    ((front ++ [name]).reverse.dropWhile (· == [])).reverse = front ++ [name] := by
  have hne : (name == []) = false := beq_false_of_ne h
  rw [List.reverse_append, List.reverse_singleton, List.singleton_append, List.dropWhile_cons, hne, if_neg nofun,
    List.reverse_cons, List.reverse_reverse]

/-- Writing, said of the last segment and those in front of it. -/
theorem writable_eq {p : Path} {front : List Text} {name : Text} (hseg : p.segments = front ++ [name]) (hne : name ≠ [])
    (hlong : p.isLong = false) : w.writable p = (do
      let folder ← w.enter (← w.follow (w.start p) front)
      if Path.isIdle name ∨ name = "..".toList then .error .isFolder
      else
        let target ← w.step folder name
        if w.tree.node? target = some .folder then .error .isFolder else .ok target) := by
  rw [writable, if_neg (Path.spelling_ne_nil hseg hne), if_neg (by simp [hlong]), hseg, dropWhile_empty_of_ne hne]
  simp only [List.dropLast_concat, List.getLastD_concat, hne, false_or]

/-- A path that ends in a slash has no room for a file. -/
theorem writable_ne_ok {p : Path} {front : List Text} (hseg : p.segments = front ++ [[]]) (l : Location) :
    w.writable p ≠ .ok l := by
  rw [writable]
  split
  · nofun
  split
  · nofun
  intro h
  obtain ⟨place, -, h⟩ := bind_eq_ok_iff.mp h
  obtain ⟨folder, -, h⟩ := bind_eq_ok_iff.mp h
  rw [if_pos (Or.inl (by rw [hseg, List.getLastD_concat]))] at h
  nomatch h

/-- A path that is too long has no room for a file. -/
theorem isLong_of_writable {p : Path} {l : Location} (h : w.writable p = .ok l) : p.isLong = false := by
  rw [← Bool.not_eq_true]
  intro hlong
  rw [writable, if_pos hlong] at h
  split at h <;> nomatch h

theorem RoomFor.writable_eq_ok {p : Path} {l : Location} (h : w.RoomFor p l) : w.writable p = .ok l := by
  obtain ⟨hlong, front, name, folder, hseg, hname, hfollow, hfolder, rfl, hfile⟩ := h
  have henter : w.enter folder = .ok folder := (enter_eq_ok_iff _ _).mpr ⟨hfolder, rfl⟩
  have hstep : w.step folder name = .ok (name :: folder) :=
    (step_eq_ok_iff hname.1 hname.2.1 folder _).mpr ⟨hfolder, hname.2.2, rfl⟩
  rw [writable_eq hseg hname.ne_nil hlong]
  refine bind_eq_ok_iff.mpr ⟨folder, hfollow, bind_eq_ok_iff.mpr ⟨folder, henter, ?_⟩⟩
  rw [if_neg (not_or.mpr ⟨Bool.not_eq_true _ ▸ hname.1, hname.2.1⟩)]
  exact bind_eq_ok_iff.mpr ⟨_, hstep, if_neg hfile⟩

theorem roomFor_of_writable {p : Path} {l : Location} (h : w.writable p = .ok l) : w.RoomFor p l := by
  obtain ⟨front, name, hseg⟩ := p.exists_segments_eq
  have hlong := isLong_of_writable h
  have hne : name ≠ [] := by
    rintro rfl
    exact writable_ne_ok hseg l h
  rw [writable_eq hseg hne hlong] at h
  obtain ⟨place, hfollow, h⟩ := bind_eq_ok_iff.mp h
  obtain ⟨folder, henter, h⟩ := bind_eq_ok_iff.mp h
  obtain ⟨hfolder, rfl⟩ := (enter_eq_ok_iff place folder).mp henter
  split at h
  · nomatch h
  rename_i hnamed
  rw [not_or, Bool.not_eq_true] at hnamed
  obtain ⟨target, hstep, h⟩ := bind_eq_ok_iff.mp h
  split at h
  · nomatch h
  rename_i hfile
  cases h
  obtain ⟨-, hshort, rfl⟩ := (step_eq_ok_iff hnamed.1 hnamed.2 place _).mp hstep
  exact ⟨hlong, front, name, place, hseg, ⟨hnamed.1, hnamed.2, hshort⟩, hfollow, hfolder, rfl, hfile⟩

/-- A file is written to a location exactly when the path has room for it there. -/
theorem writable_eq_ok_iff (p : Path) (l : Location) : w.writable p = .ok l ↔ w.RoomFor p l :=
  ⟨roomFor_of_writable, RoomFor.writable_eq_ok⟩

/-! ## What writing changes -/

/-- A workspace differs from another one in nothing but the content of the file at a location, which may be a new one. -/
structure WritesOnly (w w' : Workspace) (l : Location) (content : ByteArray) : Prop where
  current : w'.current = w.current
  written : w'.tree.node? l = some (.file content)
  others : ∀ m, m ≠ l → w'.tree.node? m = w.tree.node? m

/-- Writing takes room for a file, and puts the text there. -/
theorem write_eq_ok_iff (p : Path) (t : Text) : w.write p t = .ok w' ↔
    ∃ l, w.RoomFor p l ∧ { w with tree := w.tree.put l (.file (Text.toUtf8 t)) } = w' := by
  rw [write, bind_eq_ok_iff]
  refine exists_congr fun l => and_congr (writable_eq_ok_iff p l) ?_
  exact ⟨fun h => Except.ok.inj h, fun h => congrArg Except.ok h⟩

/-- Writing fails when there is no room for a file. -/
theorem write_eq_error_iff (p : Path) (t : Text) (e : FileError) : w.write p t = .error e ↔ w.writable p = .error e := by
  rw [write]
  cases w.writable p with
  | error e' =>
    constructor
    · intro h
      cases h
      rfl
    · intro h
      cases h
      rfl
  | ok l => exact ⟨nofun, nofun⟩

/-- Writing changes the file to which the path leads, and nothing else. -/
theorem RoomFor.writesOnly {p : Path} {l : Location} (h : w.RoomFor p l) (content : ByteArray) :
    w.WritesOnly { w with tree := w.tree.put l (.file content) } l content := by
  obtain ⟨-, -, name, folder, -, -, -, -, rfl, -⟩ := h
  exact ⟨rfl, FileTree.node?_put_self _ _ (List.cons_ne_nil _ _), fun m hm => FileTree.node?_put_of_ne _ _ hm⟩

namespace WritesOnly

variable {l : Location} {content : ByteArray} (h : w.WritesOnly w' l content) (hl : w.tree.node? l ≠ some .folder)

include h hl

/-- A step that was possible still is, since no folder is changed. -/
theorem step_eq {place m : Location} {segment : Text} (hs : w.step place segment = .ok m) :
    w'.step place segment = .ok m := by
  have hfolder := folder_of_step hs
  have hne : place ≠ l := by
    rintro rfl
    exact hl hfolder
  rw [← hs]
  exact step_eq_step ((h.others place hne).trans hfolder) hfolder segment

theorem follow_eq {place m : Location} {segments : List Text} (hs : w.follow place segments = .ok m) :
    w'.follow place segments = .ok m := by
  induction segments generalizing place with
  | nil => exact hs
  | cons segment rest ih =>
    obtain ⟨next, hstep, hrest⟩ := bind_eq_ok_iff.mp hs
    exact bind_eq_ok_iff.mpr ⟨next, h.step_eq hl hstep, ih hrest⟩

/-- A path that led to a location still leads there. -/
theorem locate_eq {p : Path} {m : Location} (hp : w.locate p = .ok m) : w'.locate p = .ok m := by
  rw [locate] at hp ⊢
  split at hp
  · nomatch hp
  split at hp
  · nomatch hp
  rename_i hne hlong
  rw [if_neg hne, if_neg hlong, start, h.current]
  exact h.follow_eq hl hp

end WritesOnly

/-- What was written is in the file to which the path leads. -/
theorem RoomFor.holdsText {p : Path} {l : Location} (h : w.RoomFor p l) {t : Text}
    (hw : w.WritesOnly w' l (Text.toUtf8 t)) : w'.HoldsText p t := by
  have hfile : w.tree.node? l ≠ some .folder := by
    obtain ⟨-, -, -, -, -, -, -, -, -, hfile⟩ := h
    exact hfile
  exact ⟨l, hw.locate_eq hfile h.locate_eq, hw.written⟩

end Workspace

end ScriptDigest
