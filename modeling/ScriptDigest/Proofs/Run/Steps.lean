import Mathlib.Data.List.Forall2
import ScriptDigest.Proofs.Files.Access
import ScriptDigest.Run

/-!
# The steps of a run

What each step of a run leads to, and what it does to the workspace. All steps but the last write leave the workspace as it
is (`Action.Keeps`), so that their results can be told without it (`Keeps.result_bind`). Scripts are read when all of them
are texts (`readScripts_eq_ok_iff`), and else the first one that is not is reported (`readScripts_eq_error_iff`). The entry
point is one of the scripts, or a file that is read (`IsEntry`). From these the result of all that comes before the write is
put together (`prepareDigest_eq_ok_iff`, `prepareDigest_eq_error_iff`), and `run_cases` tells the three ways in which a run
can end.
-/

namespace ScriptDigest

namespace Action

variable {α β : Type}

/-! ## Steps that change nothing -/

/-- A computation leaves every workspace as it is. -/
def Keeps (x : Action α) : Prop := ∀ w, (x w).workspace = w

theorem keeps_pure (a : α) : Keeps (pure a) := fun _ => rfl

theorem keeps_of (r : Except RunError α) : Keeps (of r) := fun _ => rfl

theorem keeps_look (view : Workspace → α) : Keeps (look view) := fun _ => rfl

theorem keeps_note (e : Event) : Keeps (note e) := fun _ => rfl

theorem keeps_require (c : Workspace → Bool) (e : RunError) : Keeps (require c e) := fun _ => rfl

theorem keeps_noteIf (c : Bool) (e : Event) : Keeps (noteIf c e) := by
  cases c
  · exact keeps_of _
  · exact keeps_note e

/-- Two computations that keep the workspace keep it one after the other. -/
theorem Keeps.bind {x : Action α} {f : α → Action β} (hx : Keeps x) (hf : ∀ a, Keeps (f a)) : Keeps (x >>= f) := by
  intro w
  cases hr : (x w).result with
  | ok a => rw [bind_ok hr, hx w, hf a w]
  | error e => rw [bind_error hr, hx w]

/-- Behind a computation that keeps the workspace, only its result matters. -/
theorem Keeps.result_bind {x : Action α} (hx : Keeps x) (f : α → Action β) (w : Workspace) :
    ((x >>= f) w).result = (x w).result >>= fun a => (f a w).result := by
  cases hr : (x w).result with
  | ok a =>
    rw [bind_ok hr, hx w]
    rfl
  | error e =>
    rw [bind_error hr]
    rfl

theorem require_eq_ok_iff (c : Workspace → Bool) (e : RunError) (w : Workspace) (u : Unit) :
    (require c e w).result = .ok u ↔ c w = true := by
  cases h : c w <;> simp [require, h]

theorem require_eq_error_iff (c : Workspace → Bool) (e e' : RunError) (w : Workspace) :
    (require c e w).result = .error e' ↔ c w = false ∧ e' = e := by
  cases h : c w <;> simp [require, h, eq_comm]

/-- An error comes from the condition, or from what follows when the condition holds. -/
theorem require_bind_eq_error_iff (c : Workspace → Bool) (e e' : RunError) (w : Workspace) (rest : Except RunError α) :
    ((require c e w).result >>= fun _ => rest) = .error e' ↔ (c w = false ∧ e' = e) ∨ c w = true ∧ rest = .error e' := by
  rw [bind_eq_error_iff, require_eq_error_iff]
  simp only [require_eq_ok_iff, exists_const]

theorem result_noteIf (c : Bool) (e : Event) (w : Workspace) : (noteIf c e w).result = .ok () := by
  cases c <;> rfl

end Action

/-! ## Reading scripts -/

/-- A script is what was found in a file. -/
def FoundScript.Reads (f : FoundScript) (s : Script) : Prop := s.name = f.name ∧ f.content = Text.toUtf8 s.text

namespace Script

variable (path : Path) (name : Text) (outcome : Except FileError Text)

theorem keeps_ofReading : (ofReading path name outcome).Keeps := by
  cases outcome with
  | ok text => exact (Action.keeps_note _).bind fun _ => Action.keeps_pure _
  | error cause => exact Action.keeps_of _

theorem ofReading_eq_ok_iff (w : Workspace) (s : Script) :
    (ofReading path name outcome w).result = .ok s ↔ s.name = name ∧ outcome = .ok s.text := by
  obtain ⟨name', text'⟩ := s
  cases outcome with
  | ok text =>
    change (.ok ⟨name, text⟩ : Except RunError Script) = .ok ⟨name', text'⟩ ↔ name' = name ∧ Except.ok text = .ok text'
    rw [Except.ok.injEq, Except.ok.injEq, Script.mk.injEq, eq_comm (a := name)]
  | error cause => exact ⟨nofun, fun h => nomatch h.2⟩

theorem ofReading_eq_error_iff (w : Workspace) (e : RunError) :
    (ofReading path name outcome w).result = .error e ↔ ∃ cause, outcome = .error cause ∧ e = .unreadable path cause := by
  cases outcome with
  | ok text => exact ⟨nofun, fun ⟨_, h, _⟩ => nomatch h⟩
  | error cause =>
    constructor
    · intro h
      exact ⟨cause, rfl, (Except.error.inj h).symm⟩
    · rintro ⟨cause', h, rfl⟩
      cases h
      rfl

end Script

namespace Action

theorem keeps_readScripts (found : List FoundScript) : (readScripts found).Keeps := by
  induction found with
  | nil => exact keeps_pure _
  | cons f rest ih => exact (Script.keeps_ofReading _ _ _).bind fun _ => ih.bind fun _ => keeps_pure _

/-- Reading the scripts, told by the first of them. -/
theorem result_readScripts_cons (f : FoundScript) (rest : List FoundScript) (w : Workspace) :
    (readScripts (f :: rest) w).result = (do
      let script ← (Script.ofReading f.path f.name (Workspace.decode f.content) w).result
      let scripts ← (readScripts rest w).result
      return script :: scripts) := by
  rw [readScripts, (Script.keeps_ofReading _ _ _).result_bind]
  simp only [(keeps_readScripts rest).result_bind]
  rfl

/-- The scripts are read when each of them is a text, and then they are what was found, in the same order. -/
theorem readScripts_eq_ok_iff (found : List FoundScript) (w : Workspace) (scripts : List Script) :
    (readScripts found w).result = .ok scripts ↔ List.Forall₂ FoundScript.Reads found scripts := by
  induction found generalizing scripts with
  | nil =>
    rw [List.forall₂_nil_left_iff, eq_comm (a := scripts)]
    exact ⟨fun h => Except.ok.inj h, fun h => congrArg Except.ok h⟩
  | cons f rest ih =>
    simp only [result_readScripts_cons, bind_eq_ok_iff, Script.ofReading_eq_ok_iff, Workspace.decode_eq_ok_iff, ih,
      List.forall₂_cons_left_iff]
    constructor
    · rintro ⟨s, hs, ss, hss, h⟩
      exact ⟨s, ss, hs, hss, (Except.ok.inj h).symm⟩
    · rintro ⟨s, ss, hs, hss, rfl⟩
      exact ⟨s, hs, ss, hss, rfl⟩

/-- Reading the scripts fails at the first one that is not a text. -/
theorem readScripts_eq_error_iff (found : List FoundScript) (w : Workspace) (e : RunError) :
    (readScripts found w).result = .error e ↔ ∃ front f rest, found = front ++ f :: rest ∧
      (∀ g ∈ front, Text.IsUtf8 g.content) ∧ ¬ Text.IsUtf8 f.content ∧ e = .unreadable f.path .notText := by
  induction found with
  | nil => exact ⟨nofun, fun ⟨front, f, rest, h, _⟩ => nomatch List.append_eq_nil_iff.mp h.symm⟩
  | cons f rest ih =>
    simp only [result_readScripts_cons, bind_eq_error_iff (x := (Script.ofReading _ _ _ w).result),
      bind_pure_eq_error_iff, ih, Script.ofReading_eq_ok_iff, Script.ofReading_eq_error_iff, Workspace.decode_eq_ok_iff,
      Workspace.decode_eq_error_iff]
    constructor
    · rintro (⟨cause, ⟨hf, rfl⟩, he⟩ | ⟨s, ⟨-, hs⟩, front, g, rest', rfl, hfront, hg, he⟩)
      · exact ⟨[], f, rest, rfl, nofun, hf, he⟩
      · refine ⟨f :: front, g, rest', rfl, ?_, hg, he⟩
        intro x hx
        rcases List.mem_cons.mp hx with rfl | hx
        · exact ⟨s.text, hs⟩
        · exact hfront x hx
    · rintro ⟨front, g, rest', heq, hfront, hg, he⟩
      cases front with
      | nil =>
        cases heq
        exact Or.inl ⟨.notText, ⟨hg, rfl⟩, he⟩
      | cons x front =>
        cases heq
        obtain ⟨text, htext⟩ := hfront f List.mem_cons_self
        exact Or.inr ⟨⟨f.name, text⟩, ⟨rfl, htext⟩, front, g, rest', rfl,
          fun x hx => hfront x (List.mem_cons_of_mem f hx), hg, he⟩

/-! ## The entry point -/

/-- A script is the entry point: the first of the scripts that has its name, or, when none of them has, the file of this name
in the folder of the scripts. -/
inductive IsEntry (w : Workspace) (o : Options) (scripts : List Script) : Script → Prop where
  /-- It is among the scripts. -/
  | among {front rest : List Script} {s : Script} : scripts = front ++ s :: rest → (∀ x ∈ front, x.name ≠ o.entryName) →
      s.name = o.entryName → IsEntry w o scripts s
  /-- It is read by itself. -/
  | alone {text : Text} : (∀ x ∈ scripts, x.name ≠ o.entryName) → w.HoldsText o.entryPath text →
      IsEntry w o scripts ⟨o.entryPath.fileName?.getD [], text⟩

section entry

variable (o : Options) (scripts : List Script) (w : Workspace)

theorem keeps_entryScript : (entryScript o scripts).Keeps := by
  rw [entryScript]
  split
  · exact keeps_pure _
  · exact (keeps_note _).bind fun _ => (keeps_look _).bind fun _ => Script.keeps_ofReading _ _ _

/-- When none of the scripts is the entry point, it is read. -/
theorem result_entryScript_of_none (h : scripts.find? (fun s => s.name == o.entryName) = none) :
    (entryScript o scripts w).result =
      (Script.ofReading o.entryPath (o.entryPath.fileName?.getD []) (w.read o.entryPath) w).result := by
  rw [entryScript, h]
  simp only [(keeps_note _).result_bind, (keeps_look _).result_bind]
  rfl

theorem find?_entryName_eq_none_iff :
    scripts.find? (fun s => s.name == o.entryName) = none ↔ ∀ x ∈ scripts, x.name ≠ o.entryName := by
  simp

/-- What is taken for the entry point is the entry point, and nothing else is. -/
theorem entryScript_eq_ok_iff (s : Script) : (entryScript o scripts w).result = .ok s ↔ IsEntry w o scripts s := by
  cases h : scripts.find? fun s => s.name == o.entryName with
  | some found =>
    obtain ⟨hname, front, rest, rfl, hfront⟩ := List.find?_eq_some_iff_append.mp h
    have hresult : (entryScript o (front ++ found :: rest) w).result = .ok found := by
      rw [entryScript, h]
      rfl
    rw [hresult, Except.ok.injEq]
    constructor
    · rintro rfl
      exact .among rfl (fun x hx => by simpa using hfront x hx) (by simpa using hname)
    · rintro (⟨heq, hfront', hname'⟩ | ⟨hall, -⟩)
      · have hs : (front ++ found :: rest).find? (fun s => s.name == o.entryName) = some s := by
          rw [List.find?_eq_some_iff_append]
          exact ⟨by simpa using hname', _, _, heq, fun x hx => by simpa using hfront' x hx⟩
        exact Option.some.inj (h.symm.trans hs)
      · exact absurd (by simpa using hname) (hall found (List.mem_append_right _ List.mem_cons_self))
  | none =>
    have hall := (find?_entryName_eq_none_iff o scripts).mp h
    rw [result_entryScript_of_none o scripts w h, Script.ofReading_eq_ok_iff, Workspace.read_eq_ok_iff]
    constructor
    · obtain ⟨name, text⟩ := s
      rintro ⟨hname, htext⟩
      cases hname
      exact .alone hall htext
    · rintro (⟨rfl, -, hname⟩ | ⟨-, htext⟩)
      · exact absurd hname (hall s (List.mem_append_right _ List.mem_cons_self))
      · exact ⟨rfl, htext⟩

/-- There is no entry point when none of the scripts has its name and the file cannot be read. -/
theorem entryScript_eq_error_iff (e : RunError) : (entryScript o scripts w).result = .error e ↔
    (∀ x ∈ scripts, x.name ≠ o.entryName) ∧
      ∃ cause, w.read o.entryPath = .error cause ∧ e = .unreadable o.entryPath cause := by
  rw [← find?_entryName_eq_none_iff]
  cases h : scripts.find? fun s => s.name == o.entryName with
  | some found =>
    rw [entryScript, h]
    exact ⟨nofun, fun h => nomatch h.1⟩
  | none =>
    rw [result_entryScript_of_none o scripts w h, Script.ofReading_eq_error_iff]
    exact (and_iff_right rfl).symm

end entry

/-! ## All that comes before the write -/

section prepare

variable (o : Options)

theorem keeps_prepareDigest : (prepareDigest o).Keeps :=
  (keeps_note _).bind fun _ => (keeps_require _ _).bind fun _ => (keeps_require _ _).bind fun _ =>
    (keeps_look _).bind fun _ => (keeps_readScripts _).bind fun _ => (keeps_note _).bind fun _ =>
      (keeps_noteIf _ _).bind fun _ => (keeps_entryScript o _).bind fun _ => (keeps_noteIf _ _).bind fun _ => keeps_pure _

/-- The result of the preparation does not depend on what is reported. -/
theorem result_prepareDigest (w : Workspace) : (prepareDigest o w).result = (do
    (require (·.isFolder o.sourcePath) (.sourceNotFound o.sourcePath) w).result
    (require (·.isFolder o.outputFolder) (.outputFolderNotFound o.outputFolder) w).result
    let scripts ← (readScripts (w.findScripts o.sourcePath) w).result
    let entry ← (entryScript o scripts w).result
    return o.digest scripts entry) := by
  rw [prepareDigest]
  simp only [(keeps_note _).result_bind, (keeps_require _ _).result_bind, (keeps_look _).result_bind,
    (keeps_readScripts _).result_bind, (keeps_noteIf _ _).result_bind, (keeps_entryScript o _).result_bind,
    result_noteIf]
  rfl

/-- A digest is prepared when both folders are there and the scripts and the entry point are read. -/
theorem prepareDigest_eq_ok_iff (w : Workspace) (d : Digest) : (prepareDigest o w).result = .ok d ↔
    w.isFolder o.sourcePath = true ∧ w.isFolder o.outputFolder = true ∧ ∃ scripts entry,
      List.Forall₂ FoundScript.Reads (w.findScripts o.sourcePath) scripts ∧ IsEntry w o scripts entry ∧
        o.digest scripts entry = d := by
  rw [result_prepareDigest]
  simp only [bind_eq_ok_iff, require_eq_ok_iff, readScripts_eq_ok_iff, entryScript_eq_ok_iff]
  constructor
  · rintro ⟨-, hs, -, ho, scripts, hscripts, entry, hentry, hd⟩
    exact ⟨hs, ho, scripts, entry, hscripts, hentry, Except.ok.inj hd⟩
  · rintro ⟨hs, ho, scripts, entry, hscripts, hentry, rfl⟩
    exact ⟨(), hs, (), ho, scripts, hscripts, entry, hentry, rfl⟩

/-- A digest is not prepared when the folder of the scripts is missing, or else that of the digest, or else a script cannot
be read, or else the entry point cannot. -/
theorem prepareDigest_eq_error_iff (w : Workspace) (e : RunError) : (prepareDigest o w).result = .error e ↔
    (w.isFolder o.sourcePath = false ∧ e = .sourceNotFound o.sourcePath) ∨
    w.isFolder o.sourcePath = true ∧
      ((w.isFolder o.outputFolder = false ∧ e = .outputFolderNotFound o.outputFolder) ∨
      w.isFolder o.outputFolder = true ∧
        ((readScripts (w.findScripts o.sourcePath) w).result = .error e ∨
        ∃ scripts, (readScripts (w.findScripts o.sourcePath) w).result = .ok scripts ∧
          (entryScript o scripts w).result = .error e)) := by
  rw [result_prepareDigest, require_bind_eq_error_iff, require_bind_eq_error_iff, bind_eq_error_iff]
  simp only [bind_pure_eq_error_iff]

end prepare

/-! ## The run -/

section run

variable (o : Options) (w : Workspace)

/-- Behind the preparation a run goes on in the same workspace. -/
theorem run_of_prepared {d : Digest} (h : (prepareDigest o w).result = .ok d) :
    let finish : Action Unit := do
      writeDigest o.outputPath d
      note (.digestWritten o.outputPath)
    run o w = ⟨(prepareDigest o w).events ++ (finish w).events, (finish w).result, (finish w).workspace⟩ := by
  rw [run, bind_ok h, keeps_prepareDigest]

/-- The three ways in which a run ends. The digest is not prepared, or there is no room for it, and nothing is changed; or
else it is written to its place, and nothing else is changed. -/
theorem run_cases :
    (∃ e, (prepareDigest o w).result = .error e ∧ (run o w).result = .error e ∧ (run o w).workspace = w) ∨
    (∃ d cause, (prepareDigest o w).result = .ok d ∧ w.writable o.outputPath = .error cause ∧
      (run o w).result = .error (.unwritable o.outputPath cause) ∧ (run o w).workspace = w) ∨
    (∃ d l, (prepareDigest o w).result = .ok d ∧ w.RoomFor o.outputPath l ∧ (run o w).result = .ok () ∧
      (run o w).workspace = { w with tree := w.tree.put l (.file (Text.toUtf8 d.render)) }) := by
  cases hp : (prepareDigest o w).result with
  | error e =>
    refine Or.inl ⟨e, rfl, ?_⟩
    rw [run, bind_error hp, keeps_prepareDigest]
    exact ⟨rfl, rfl⟩
  | ok d =>
    right
    cases hw : w.write o.outputPath d.render with
    | error cause =>
      have hwrite : writeDigest o.outputPath d w = ⟨[], .error (.unwritable o.outputPath cause), w⟩ := by
        rw [writeDigest, hw]
      refine Or.inl ⟨d, cause, rfl, (Workspace.write_eq_error_iff _ _ _).mp hw, ?_⟩
      rw [run_of_prepared o w hp, bind_error (congrArg Outcome.result hwrite), hwrite]
      exact ⟨rfl, rfl⟩
    | ok w' =>
      have hwrite : writeDigest o.outputPath d w = ⟨[], .ok (), w'⟩ := by
        rw [writeDigest, hw]
      obtain ⟨l, hroom, rfl⟩ := (Workspace.write_eq_ok_iff _ _).mp hw
      refine Or.inr ⟨d, l, rfl, hroom, ?_⟩
      rw [run_of_prepared o w hp, bind_ok (congrArg Outcome.result hwrite), hwrite]
      exact ⟨rfl, rfl⟩

end run

end Action

end ScriptDigest
