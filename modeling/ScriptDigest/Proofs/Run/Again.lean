import Mathlib.Data.List.Sort
import ScriptDigest.Proofs.Run.Needs

/-!
# Running again

A run that succeeds changes one file. When this file is none of those that the run reads, running again finds the same
(`Workspace.SameFindings`), so that it reports the same and writes the same text to the same place, where it already stands.
What a computation does is told for two workspaces at once (`Action.Alike`): it reports the same events and has the same
result in both. `execute_again` states for all arguments that a second response is the first one once more.
-/

namespace ScriptDigest

/-! ## Computations in two workspaces -/

namespace Action

variable {α β : Type} {w w' : Workspace}

/-- A computation reports the same events and has the same result in two workspaces. -/
def Alike (w w' : Workspace) (x : Action α) : Prop := (x w).events = (x w').events ∧ (x w).result = (x w').result

theorem alike_of (r : Except RunError α) : Alike w w' (of r) := ⟨rfl, rfl⟩

theorem alike_pure (a : α) : Alike w w' (pure a) := ⟨rfl, rfl⟩

theorem alike_note (e : Event) : Alike w w' (note e) := ⟨rfl, rfl⟩

theorem alike_noteIf (c : Bool) (e : Event) : Alike w w' (noteIf c e) := by
  cases c
  · exact alike_of _
  · exact alike_note e

theorem alike_look {view : Workspace → α} (h : view w = view w') : Alike w w' (look view) :=
  ⟨rfl, congrArg Except.ok h⟩

theorem alike_require {c : Workspace → Bool} (h : c w = c w') (e : RunError) : Alike w w' (require c e) :=
  ⟨rfl, congrArg (fun b => if b = true then Except.ok () else Except.error e) h⟩

/-- Two computations that find the same in two workspaces find the same one after the other, if the first one leaves the
workspaces as they are. The second one has to find the same only behind a result that the first one has. -/
theorem Alike.bind {x : Action α} {f : α → Action β} (hx : Alike w w' x) (hk : Keeps x)
    (hf : ∀ a, (x w).result = .ok a → Alike w w' (f a)) : Alike w w' (x >>= f) := by
  obtain ⟨hevents, hresult⟩ := hx
  cases h : (x w).result with
  | error e =>
    have h' : (x w').result = .error e := hresult.symm.trans h
    rw [Alike, bind_error h, bind_error h']
    exact ⟨hevents, rfl⟩
  | ok a =>
    have h' : (x w').result = .ok a := hresult.symm.trans h
    obtain ⟨hevents', hresult'⟩ := hf a h
    rw [Alike, bind_ok h, bind_ok h', hk w, hk w', hevents, hevents', hresult']
    exact ⟨rfl, rfl⟩

theorem alike_ofReading (path : Path) (name : Text) (outcome : Except FileError Text) :
    Alike w w' (Script.ofReading path name outcome) := by
  cases outcome with
  | ok text => exact (alike_note _).bind (keeps_note _) fun _ _ => alike_pure _
  | error cause => exact alike_of _

/-- Scripts are read from what was found, and not from the workspace. -/
theorem alike_readScripts (found : List FoundScript) : Alike w w' (readScripts found) := by
  induction found with
  | nil => exact alike_pure _
  | cons f rest ih =>
    refine (alike_ofReading _ _ _).bind (Script.keeps_ofReading _ _ _) fun _ _ => ?_
    exact ih.bind (keeps_readScripts rest) fun _ _ => alike_pure _

/-- For the entry point one looks into the workspace only when it is not among the scripts. -/
theorem alike_entryScript {o : Options} {scripts : List Script}
    (h : (∀ s ∈ scripts, s.name ≠ o.entryName) → w.read o.entryPath = w'.read o.entryPath) :
    Alike w w' (entryScript o scripts) := by
  rw [entryScript]
  split
  · exact alike_pure _
  · rename_i hnone
    refine (alike_note _).bind (keeps_note _) fun _ _ => ?_
    refine (alike_look (h ((find?_entryName_eq_none_iff o scripts).mp hnone))).bind (keeps_look _) fun _ _ => ?_
    exact alike_ofReading _ _ _

end Action

namespace Workspace

/-- A run finds the same in two workspaces: the same of its two folders, the same scripts and, unless it is one of them, the
same entry point. -/
structure SameFindings (o : Options) (w w' : Workspace) : Prop where
  sourceFolder : w.isFolder o.sourcePath = w'.isFolder o.sourcePath
  outputFolder : w.isFolder o.outputFolder = w'.isFolder o.outputFolder
  scripts : w.findScripts o.sourcePath = w'.findScripts o.sourcePath
  entryPoint : (∀ f, w.Lists o.sourcePath f → f.name ≠ o.entryName) → w.read o.entryPath = w'.read o.entryPath

end Workspace

/-- When a run finds the same in two workspaces, it prepares the same digest and reports the same. -/
theorem Action.alike_prepareDigest {o : Options} {w w' : Workspace} (h : Workspace.SameFindings o w w') :
    Alike w w' (prepareDigest o) := by
  refine (alike_note _).bind (keeps_note _) fun _ _ => ?_
  refine (alike_require h.sourceFolder _).bind (keeps_require _ _) fun _ _ => ?_
  refine (alike_require h.outputFolder _).bind (keeps_require _ _) fun _ _ => ?_
  refine (alike_look h.scripts).bind (keeps_look _) fun found hfound => ?_
  refine (alike_readScripts found).bind (keeps_readScripts found) fun scripts hscripts => ?_
  refine (alike_note _).bind (keeps_note _) fun _ _ => ?_
  refine (alike_noteIf _ _).bind (keeps_noteIf _ _) fun _ _ => ?_
  have hentry : Alike w w' (entryScript o scripts) := by
    refine alike_entryScript fun hnone => h.entryPoint fun f hf hname => ?_
    cases hfound
    have hreads := (readScripts_eq_ok_iff _ w scripts).mp hscripts
    obtain ⟨s, hs, hsname⟩ := (Workspace.exists_name_iff hreads o.entryName).mpr ⟨f, hf, hname⟩
    exact hnone s hs hsname
  refine hentry.bind (keeps_entryScript o scripts) fun _ _ => ?_
  exact (alike_noteIf _ _).bind (keeps_noteIf _ _) fun _ _ => alike_pure _

/-! ## What a written file leaves as it was -/

/-- Of two nodes put at a location, one after the other, the second one stays. -/
theorem FileTree.put_put (t : FileTree) (l : Location) (n n' : Node) : (t.put l n).put l n' = t.put l n' := by
  have hentries : ((l, n) :: t.entries.filter fun e => e.1 ≠ l).filter (fun e => e.1 ≠ l) =
      t.entries.filter fun e => e.1 ≠ l := by
    rw [List.filter_cons, if_neg (by simp), List.filter_filter]
    simp only [Bool.and_self]
  simp only [put, hentries]

namespace Workspace

variable {w w' : Workspace} {l : Location} {content : ByteArray}

section kept

variable (h : w.WritesOnly w' l content) (hl : w.tree.node? l ≠ some .folder)

include h hl

/-- A path that led to a folder still does. -/
theorem WritesOnly.hasFolder {p : Path} (hp : w.HasFolder p) : w'.HasFolder p := by
  obtain ⟨m, hlocate, hfolder⟩ := hp
  have hne : m ≠ l := by
    rintro rfl
    exact hl hfolder
  exact ⟨m, h.locate_eq hl hlocate, (h.others m hne).trans hfolder⟩

/-- A path that led to a text still does, unless it leads to what was written. -/
theorem WritesOnly.holdsText {p : Path} {t : Text} (hp : w.HoldsText p t) (hne : w.locate p ≠ .ok l) : w'.HoldsText p t := by
  obtain ⟨m, hlocate, hfile⟩ := hp
  have hm : m ≠ l := by
    rintro rfl
    exact hne hlocate
  exact ⟨m, h.locate_eq hl hlocate, (h.others m hm).trans hfile⟩

/-- There is still room for a file where there was. -/
theorem WritesOnly.roomFor {p : Path} {m : Location} (hp : w.RoomFor p m) (hm : w'.tree.node? m ≠ some .folder) :
    w'.RoomFor p m := by
  obtain ⟨hlong, front, name, folder, hseg, hname, hfollow, hfolder, hplace, -⟩ := hp
  have hne : folder ≠ l := by
    rintro rfl
    exact hl hfolder
  have hstart : w'.start p = w.start p := by rw [start, start, h.current]
  refine ⟨hlong, front, name, folder, hseg, hname, ?_, (h.others folder hne).trans hfolder, hplace, hm⟩
  rw [hstart]
  exact h.follow_eq hl hfollow

/-- The same scripts are listed for a folder, unless one of them was written. -/
theorem WritesOnly.lists_iff {source : Path} {folder : Location} (hsource : w.locate source = .ok folder)
    (hapart : ∀ name, l = name :: folder → ¬ scriptEnding <:+ name) (f : FoundScript) :
    w'.Lists source f ↔ w.Lists source f := by
  have hsource' : w'.locate source = .ok folder := h.locate_eq hl hsource
  have hnode : scriptEnding <:+ f.name → w'.tree.node? (f.name :: folder) = w.tree.node? (f.name :: folder) := by
    intro hend
    exact h.others _ fun heq => hapart f.name heq.symm hend
  constructor
  · rintro ⟨folder', shown, hfolder', hshown, hfile, hend, hpath, hlong⟩
    cases hsource'.symm.trans hfolder'
    exact ⟨folder, shown, hsource, hshown, (hnode hend).symm.trans hfile, hend, hpath, hlong⟩
  · rintro ⟨folder', shown, hfolder', hshown, hfile, hend, hpath, hlong⟩
    cases hsource.symm.trans hfolder'
    exact ⟨folder, shown, hsource', hshown, (hnode hend).trans hfile, hend, hpath, hlong⟩

end kept

/-- The scripts that are found depend on nothing but which ones are listed. -/
theorem findScripts_eq_of_lists_iff {source : Path} (h : ∀ f, w'.Lists source f ↔ w.Lists source f) :
    w'.findScripts source = w.findScripts source := by
  let r : FoundScript → FoundScript → Prop := fun f g => f.name < g.name
  have hasymm : Std.Antisymm r := ⟨fun f g hfg hgf => absurd hfg (lt_asymm hgf)⟩
  have hirrefl : Std.Irrefl r := ⟨fun f => lt_irrefl f.name⟩
  refine List.Pairwise.eq_of_mem_iff (r := r) (w'.pairwise_findScripts source) (w.pairwise_findScripts source) fun f => ?_
  rw [mem_findScripts_iff, mem_findScripts_iff, h f]

/-! ## The second run -/

/-- A location is that of the entry point: of the script with its name, or, when there is none, the one to which its path leads.
-/
def IsEntryFile (w : Workspace) (o : Options) (l : Location) : Prop :=
  (∃ folder f, w.locate o.sourcePath = .ok folder ∧ w.Lists o.sourcePath f ∧ f.name = o.entryName ∧ l = f.name :: folder) ∨
  (∀ f, w.Lists o.sourcePath f → f.name ≠ o.entryName) ∧ w.locate o.entryPath = .ok l

/-- A location is one for scripts: it lies directly in the folder of the scripts, and its name has their ending. -/
def IsScriptPlace (w : Workspace) (o : Options) (l : Location) : Prop :=
  ∃ folder name, w.locate o.sourcePath = .ok folder ∧ l = name :: folder ∧ scriptEnding <:+ name

/-- The file that a run writes is none of those that it reads: it is not one directly in the folder of the scripts that has
their ending, and it is not that of the entry point. -/
def WritesApart (w : Workspace) (o : Options) : Prop :=
  ∀ l, w.locate o.outputPath = .ok l → ¬ w.IsScriptPlace o l ∧ ¬ w.IsEntryFile o l

/-- A run that succeeds finds the same after it has written its file, if this is neither a script nor the entry point. -/
theorem WritesOnly.sameFindings {o : Options} (h : w.WritesOnly w' l content) (hl : w.tree.node? l ≠ some .folder)
    (hmeets : ∀ n, w.Meets o.places n) (hscript : ¬ w.IsScriptPlace o l) (hentry : ¬ w.IsEntryFile o l) :
    SameFindings o w w' := by
  have hsource : w.HasFolder o.sourcePath := hmeets .sourceFolder
  have houtput : w.HasFolder o.outputFolder := hmeets .outputFolder
  have ⟨folder, hlocate, _⟩ := hsource
  refine ⟨?_, ?_, ?_, fun hnone => ?_⟩
  · rw [(isFolder_iff _).mpr hsource, (isFolder_iff _).mpr (h.hasFolder hl hsource)]
  · rw [(isFolder_iff _).mpr houtput, (isFolder_iff _).mpr (h.hasFolder hl houtput)]
  · refine (findScripts_eq_of_lists_iff (h.lists_iff hl hlocate fun name heq hend => ?_)).symm
    exact hscript ⟨folder, name, hlocate, heq, hend⟩
  · rcases hmeets .entryPoint with ⟨f, hf, hname⟩ | ⟨text, htext⟩
    · exact absurd hname (hnone f hf)
    · have htext' := h.holdsText hl htext fun hl' => hentry (Or.inr ⟨hnone, hl'⟩)
      rw [(read_eq_ok_iff o.entryPath text).mpr htext, (read_eq_ok_iff o.entryPath text).mpr htext']

end Workspace

namespace Action

variable {o : Options} {w : Workspace}

/-- All that a run with a prepared digest does when there is room for it. -/
theorem run_eq_of_roomFor {d : Digest} {l : Location} (hp : (prepareDigest o w).result = .ok d)
    (hroom : w.RoomFor o.outputPath l) :
    run o w = ⟨(prepareDigest o w).events ++ [.digestWritten o.outputPath], .ok (),
      { w with tree := w.tree.put l (.file (Text.toUtf8 d.render)) }⟩ := by
  have hwritten := (Workspace.write_eq_ok_iff o.outputPath d.render).mpr ⟨l, hroom, rfl⟩
  have hwrite : writeDigest o.outputPath d w =
      ⟨[], .ok (), { w with tree := w.tree.put l (.file (Text.toUtf8 d.render)) }⟩ := by
    rw [writeDigest, hwritten]
  rw [run_of_prepared o w hp, bind_ok (congrArg Outcome.result hwrite), hwrite]
  rfl

/-- All that a run that succeeds does: it prepares a digest, for which there is room, and writes it. -/
theorem exists_run_eq (hok : (run o w).result = .ok ()) :
    ∃ d l, (prepareDigest o w).result = .ok d ∧ w.RoomFor o.outputPath l ∧
      run o w = ⟨(prepareDigest o w).events ++ [.digestWritten o.outputPath], .ok (),
        { w with tree := w.tree.put l (.file (Text.toUtf8 d.render)) }⟩ := by
  rcases run_cases o w with ⟨e, -, hresult, -⟩ | ⟨d, cause, -, -, hresult, -⟩ | ⟨d, l, hprepared, hroom, -, -⟩
  · cases hok.symm.trans hresult
  · cases hok.symm.trans hresult
  · exact ⟨d, l, hprepared, hroom, run_eq_of_roomFor hprepared hroom⟩

/-- A run that succeeds does the same in the workspace that it leaves behind, if it writes neither a script nor the entry
point. -/
theorem run_again (hok : (run o w).result = .ok ()) (hapart : w.WritesApart o) :
    run o (run o w).workspace = run o w := by
  obtain ⟨d, l, hprepared, hroom, hrun⟩ := exists_run_eq hok
  obtain ⟨hscript, hentry⟩ := hapart l hroom.locate_eq
  have hl : w.tree.node? l ≠ some .folder := by
    obtain ⟨-, -, -, -, -, -, -, -, -, hl⟩ := hroom
    exact hl
  have hwrites := hroom.writesOnly (Text.toUtf8 d.render)
  have hsame := hwrites.sameFindings hl (Workspace.meets_of_run hok) hscript hentry
  obtain ⟨hevents, hresult⟩ := alike_prepareDigest hsame
  have hroom' := hwrites.roomFor hl hroom (by rw [hwrites.written]; nofun)
  rw [hrun, run_eq_of_roomFor (hresult.symm.trans hprepared) hroom', FileTree.put_put, ← hevents]

end Action

namespace Workspace

theorem result_run_of_exitCode {w : Workspace} {o : Options} (h : (w.respond o).exitCode = 0) :
    (Action.run o w).result = .ok () := by
  cases hresult : (Action.run o w).result with
  | ok => rfl
  | error e => exact absurd (h.symm.trans (Response.exitCode_of_run (failure_respond_of_error hresult))) Nat.zero_ne_one

/-- For every workspace and all arguments: when the program succeeds, and what it writes, if it writes anything, is none of the
files that it reads, it responds to the same arguments in the same way again. It succeeds, prints and reports the same, and
leaves all files as they are after the first time. -/
theorem execute_again (w : Workspace) (arguments : List Text) (hzero : (w.execute arguments).exitCode = 0)
    (hapart : ∀ o, Command.ofArguments arguments = .ok (.run o) → w.WritesApart o) :
    let r := w.execute arguments
    r.workspace.execute arguments = r := by
  intro r
  cases hc : Command.ofArguments arguments with
  | error mistake =>
    have hr : r = ⟨[], [], some (.usage mistake), w⟩ := by simp only [r, execute, hc]
    exact absurd ((congrArg Response.exitCode hr).symm.trans hzero) (Nat.succ_ne_zero 1)
  | ok command =>
    cases command with
    | answer query =>
      have hr : r = ⟨query.answer, [], none, w⟩ := by simp only [r, execute, hc]
      rw [hr, execute, hc]
    | run o =>
      have hr : r = w.respond o := execute_of_run hc
      have hok : (Action.run o w).result = .ok () := result_run_of_exitCode ((congrArg Response.exitCode hr).symm.trans hzero)
      have hagain := Action.run_again hok (hapart o hc)
      rw [hr, execute_of_run hc, workspace_respond, respond, hagain]
      rfl

/-- A workspace with one script, and beside it a file that is not the digest. -/
def stale : Workspace where
  tree :=
    let source : Location := ["src".toList]
    ((FileTree.empty.putFolder source).put ("Main.gd".toList :: source) (.file (Text.toUtf8 "var a = 1\n".toList))).put
      ("Main.md".toList :: source) (.file ⟨#[255]⟩)
  current := []

/-- A digest between the scripts takes the place of that file. It is written again as it is. -/
theorem execute_again_stale :
    let arguments := ["-s".toList, "src".toList, "-o".toList, "src/../src/Main.md".toList]
    let o : Options := { Options.unset with source := some "src".toList, output := some "src/../src/Main.md".toList }
    let r := stale.execute arguments
    r.exitCode = 0 ∧ Command.ofArguments arguments = .ok (.run o) ∧ stale.WritesApart o ∧
      r.workspace.execute arguments = r := by
  intro arguments o r
  have hzero : r.exitCode = 0 := by decide +kernel
  have hcommand : Command.ofArguments arguments = .ok (.run o) := rfl
  have houtput : stale.locate o.outputPath = .ok ["Main.md".toList, "src".toList] := by decide +kernel
  have hentry : stale.locate o.entryPath = .ok ["Main.gd".toList, "src".toList] := by decide +kernel
  have hapart : stale.WritesApart o := by
    intro l hl
    cases houtput.symm.trans hl
    constructor
    · rintro ⟨folder, name, -, heq, hend⟩
      rw [← (List.cons.inj heq).1] at hend
      exact absurd hend (by decide)
    · rintro (⟨folder, f, -, -, hname, heq⟩ | ⟨-, hl⟩)
      · exact absurd ((List.cons.inj heq).1.trans hname) (by decide)
      · exact absurd (Except.ok.inj (hentry.symm.trans hl)) (by decide)
  refine ⟨hzero, hcommand, hapart, execute_again stale arguments hzero fun o' ho' => ?_⟩
  cases hcommand.symm.trans ho'
  exact hapart

end Workspace

end ScriptDigest
