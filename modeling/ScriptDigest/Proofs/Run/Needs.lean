import ScriptDigest.Proofs.Files.Parts
import ScriptDigest.Proofs.Run.Effect

/-!
# What a run needs

The options of a run say where it looks for what it needs (`Places`, `Places.of_iff`): the folder of the scripts, the file of the
entry point, the file of the output, and the folder of this file, which is the parent of its path (`Path.IsFolderOf`). A run
succeeds when five needs are met there, and only then: the two folders are there, the scripts are texts, there is an entry point,
and there is room for the output (`Workspace.Meets`). The needs are looked at in a fixed order (`Need.order`), and the first one
that is not met is reported (`Workspace.FirstUnmet`, `Workspace.Reports`). `execute_exitCode` states both, for every workspace and
all arguments that ask for a run.
-/

namespace ScriptDigest

/-! ## Where a run looks -/

/-- Where a run looks for what it needs. -/
structure Places where
  /-- The folder of the scripts. -/
  source : Path
  /-- The name of the entry point. -/
  entryName : Text
  /-- The file of the entry point, if no script has its name. -/
  entry : Path
  /-- The file of the output. -/
  output : Path
  /-- The folder of the output. -/
  folder : Path
  deriving DecidableEq, Repr

/-- The places are those that options say. -/
structure Places.Of (p : Places) (o : Options) : Prop where
  /-- The folder that is given. -/
  source_given : ∀ source, o.source = some source → p.source = ⟨source⟩
  /-- The folder `src` in the root of the project, if none is given. The root is the current folder unless it is given too. -/
  source_unset : o.source = none → p.source = Path.join ⟨o.root.getD ['.']⟩ ⟨"src".toList⟩
  /-- The name that is given, and else `Main.gd`. -/
  entryName : p.entryName = o.entry.getD "Main.gd".toList
  /-- The file of this name, seen from the folder of the scripts. -/
  entry : p.entry = p.source.join ⟨p.entryName⟩
  /-- The file that is given. -/
  output_given : ∀ output, o.output = some output → p.output = ⟨output⟩
  /-- The file `dev-view-src/Main.md`, seen from the folder of the scripts, if none is given. -/
  output_unset : o.output = none → p.output = (p.source.join ⟨"dev-view-src".toList⟩).join ⟨"Main.md".toList⟩
  /-- The parent of the output. It is the current folder when the parent is empty or there is none. -/
  folder : p.folder.IsFolderOf p.output

/-- The places at which a run looks. -/
def Options.places (o : Options) : Places := ⟨o.sourcePath, o.entryName, o.entryPath, o.outputPath, o.outputFolder⟩

/-- The folder that the digest is written to is that of its file. -/
theorem Options.isFolderOf_outputPath_iff (o : Options) (q : Path) : q.IsFolderOf o.outputPath ↔ q = o.outputFolder := by
  rw [outputFolder]
  cases hparent : o.outputPath.parent? with
  | none =>
    have hnone : ∀ r : Path, ¬ r.IsParentOf o.outputPath := fun r hr => by
      rw [← Path.parent?_eq_some_iff, hparent] at hr
      cases hr
    exact ⟨fun h => h.elim (fun hq => absurd hq.2 (hnone q)) And.left, fun hq => Or.inr ⟨hq, fun r hr => absurd hr (hnone r)⟩⟩
  | some parent =>
    have hiff : ∀ r : Path, r.IsParentOf o.outputPath ↔ r = parent := fun r => by
      rw [← Path.parent?_eq_some_iff, hparent, Option.some_inj, eq_comm]
    simp only [Path.IsFolderOf, hiff, forall_eq]
    by_cases hempty : parent.spelling = []
    · rw [if_pos hempty]
      exact ⟨fun h => h.elim (fun hq => absurd (hq.2 ▸ hempty) hq.1) And.left, fun hq => Or.inr ⟨hq, hempty⟩⟩
    · rw [if_neg hempty]
      exact ⟨fun h => h.elim And.right fun hq => absurd hq.2 hempty, fun hq => Or.inl ⟨hq ▸ hempty, hq⟩⟩

/-- The places at which a run looks are the ones that its options say. -/
theorem Places.of_iff (p : Places) (o : Options) : p.Of o ↔ p = o.places := by
  constructor
  · intro h
    have hsource : p.source = o.sourcePath := by
      cases hgiven : o.source with
      | some s => rw [h.source_given s hgiven, Options.sourcePath, hgiven]
      | none => rw [h.source_unset hgiven, Options.sourcePath, hgiven]
    have houtput : p.output = o.outputPath := by
      cases hgiven : o.output with
      | some s => rw [h.output_given s hgiven, Options.outputPath, hgiven]
      | none => rw [h.output_unset hgiven, Options.outputPath, hgiven, hsource]
    have hentry : p.entry = o.entryPath := by rw [h.entry, hsource, h.entryName, Options.entryPath, Options.entryName]
    have hfolder : p.folder = o.outputFolder := (o.isFolderOf_outputPath_iff p.folder).mp (houtput ▸ h.folder)
    obtain ⟨source, entryName, entry, output, folder⟩ := p
    rw [Options.places, Places.mk.injEq]
    exact ⟨hsource, h.entryName, hentry, houtput, hfolder⟩
  · rintro rfl
    refine ⟨fun s hs => ?_, fun hs => ?_, rfl, rfl, fun s hs => ?_, fun hs => ?_, ?_⟩
    · rw [Options.places, Options.sourcePath, hs]
    · rw [Options.places, Options.sourcePath, hs]
    · rw [Options.places, Options.outputPath, hs]
    · rw [Options.places, Options.outputPath, hs]
    · exact (o.isFolderOf_outputPath_iff _).mpr rfl

/-! ## The needs of a run -/

/-- What a run needs. -/
inductive Need where
  /-- The folder of the scripts. -/
  | sourceFolder
  /-- The folder of the output. -/
  | outputFolder
  /-- Scripts that are texts. -/
  | scripts
  /-- An entry point that is a text. -/
  | entryPoint
  /-- Room for the output. -/
  | output
  deriving DecidableEq, Repr

/-- The needs in the order in which they are looked at. -/
def Need.order : List Need := [.sourceFolder, .outputFolder, .scripts, .entryPoint, .output]

namespace Workspace

/-- A path leads to a folder. -/
def HasFolder (w : Workspace) (p : Path) : Prop := ∃ l, w.locate p = .ok l ∧ w.tree.node? l = some .folder

/-- A need of a run is met. -/
def Meets (w : Workspace) (p : Places) : Need → Prop
  | .sourceFolder => w.HasFolder p.source
  | .outputFolder => w.HasFolder p.folder
  | .scripts => ∀ f, w.Lists p.source f → Text.IsUtf8 f.content
  | .entryPoint => (∃ f, w.Lists p.source f ∧ f.name = p.entryName) ∨ ∃ text, w.HoldsText p.entry text
  | .output => ∃ l, w.RoomFor p.output l

/-- A need is not met, while those that are looked at before it are. -/
def FirstUnmet (w : Workspace) (p : Places) (n : Need) : Prop :=
  ∃ front rest, Need.order = front ++ n :: rest ∧ (∀ m ∈ front, w.Meets p m) ∧ ¬ w.Meets p n

/-- An error reports that a need is not met. Of scripts that are no texts it names the one that comes first. -/
def Reports (w : Workspace) (p : Places) : Need → RunError → Prop
  | .sourceFolder, e => e = .sourceNotFound p.source
  | .outputFolder, e => e = .outputFolderNotFound p.folder
  | .scripts, e => ∃ f, w.Lists p.source f ∧ ¬ Text.IsUtf8 f.content ∧
      (∀ g, w.Lists p.source g → ¬ Text.IsUtf8 g.content → f.name ≤ g.name) ∧ e = .unreadable f.path .notText
  | .entryPoint, e => ∃ cause, w.read p.entry = .error cause ∧ e = .unreadable p.entry cause
  | .output, e => ∃ cause, w.writable p.output = .error cause ∧ e = .unwritable p.output cause

variable {w : Workspace} {o : Options}

theorem isFolder_iff (p : Path) : w.isFolder p = true ↔ w.HasFolder p := by
  rw [isFolder, HasFolder]
  cases w.locate p with
  | error e => simp
  | ok l => simp

theorem isFolder_eq_false_iff (p : Path) : w.isFolder p = false ↔ ¬ w.HasFolder p := by
  rw [← isFolder_iff, Bool.not_eq_true]

theorem not_holdsText_of_error {p : Path} {cause : FileError} (h : w.read p = .error cause) (text : Text) :
    ¬ w.HoldsText p text := by
  rw [← read_eq_ok_iff, h]
  nofun

theorem not_roomFor_of_error {p : Path} {cause : FileError} (h : w.writable p = .error cause) (l : Location) :
    ¬ w.RoomFor p l := by
  rw [← writable_eq_ok_iff, h]
  nofun

/-- A text in the file of the entry point is an entry point. -/
theorem meets_entryPoint_of_holdsText (text : Text) (h : w.HoldsText o.entryPath text) : w.Meets o.places .entryPoint :=
  Or.inr ⟨text, h⟩

/-! ## Scripts that were read -/

theorem isUtf8_of_reads {found : List FoundScript} {scripts : List Script}
    (h : List.Forall₂ FoundScript.Reads found scripts) : ∀ f ∈ found, Text.IsUtf8 f.content := by
  induction h with
  | nil => nofun
  | @cons f s found scripts hfs _ ih => exact List.forall_mem_cons.mpr ⟨⟨s.text, hfs.2⟩, ih⟩

/-- The scripts have the names of what was found. -/
theorem map_name_of_reads {found : List FoundScript} {scripts : List Script}
    (h : List.Forall₂ FoundScript.Reads found scripts) : scripts.map Script.name = found.map FoundScript.name := by
  induction h with
  | nil => rfl
  | cons hfs _ ih => rw [List.map_cons, List.map_cons, hfs.1, ih]

section reads

variable {scripts : List Script} (h : List.Forall₂ FoundScript.Reads (w.findScripts o.sourcePath) scripts)

include h

/-- Scripts that were read are texts. -/
theorem meets_scripts : w.Meets o.places .scripts := by
  intro f hf
  exact isUtf8_of_reads h f ((w.mem_findScripts_iff o.sourcePath f).mpr hf)

/-- A name stands among the scripts when a script of this name is listed. -/
theorem exists_name_iff (name : Text) : (∃ s ∈ scripts, s.name = name) ↔ ∃ f, w.Lists o.sourcePath f ∧ f.name = name := by
  simp only [← mem_findScripts_iff, ← List.mem_map, map_name_of_reads h]

theorem meets_entryPoint {entry : Script} (he : Action.IsEntry w o scripts entry) : w.Meets o.places .entryPoint := by
  cases he with
  | among heq _ hname =>
    refine Or.inl ((exists_name_iff h o.entryName).mp ⟨entry, ?_, hname⟩)
    rw [heq]
    exact List.mem_append_right _ List.mem_cons_self
  | @alone text _ htext => exact meets_entryPoint_of_holdsText text htext

theorem not_meets_entryPoint (hnone : ∀ x ∈ scripts, x.name ≠ o.entryName) {cause : FileError}
    (hread : w.read o.entryPath = .error cause) : ¬ w.Meets o.places .entryPoint := by
  rintro (hlisted | ⟨text, htext⟩)
  · obtain ⟨s, hs, hname⟩ := (exists_name_iff h o.entryName).mpr hlisted
    exact hnone s hs hname
  · exact not_holdsText_of_error hread text htext

end reads

/-! ## The first need that is not met -/

theorem FirstUnmet.not_meets {n : Need} (h : w.FirstUnmet o.places n) : ¬ w.Meets o.places n := by
  obtain ⟨-, -, -, -, hunmet⟩ := h
  exact hunmet

/-- A digest that is prepared has met all needs but the last. -/
theorem meets_of_prepared {d : Digest} (h : (Action.prepareDigest o w).result = .ok d) :
    ∀ m ∈ [Need.sourceFolder, .outputFolder, .scripts, .entryPoint], w.Meets o.places m := by
  obtain ⟨hsource, houtput, scripts, entry, hreads, hentry, -⟩ := (Action.prepareDigest_eq_ok_iff o w d).mp h
  simp only [List.forall_mem_cons]
  exact ⟨(isFolder_iff _).mp hsource, (isFolder_iff _).mp houtput, meets_scripts hreads, meets_entryPoint hreads hentry,
    List.forall_mem_nil _⟩

/-- The script at which reading fails comes first among those that are no texts. -/
theorem reports_of_readScripts {e : RunError} (h : (Action.readScripts (w.findScripts o.sourcePath) w).result = .error e) :
    ¬ w.Meets o.places .scripts ∧ w.Reports o.places .scripts e := by
  obtain ⟨front, f, rest, hfound, hfront, hf, he⟩ := (Action.readScripts_eq_error_iff _ w e).mp h
  have hlisted : w.Lists o.sourcePath f := by
    rw [← mem_findScripts_iff, hfound]
    exact List.mem_append_right _ List.mem_cons_self
  refine ⟨fun hall => hf (hall f hlisted), f, hlisted, hf, fun g (hg : w.Lists o.sourcePath g) hng => ?_, he⟩
  rw [← mem_findScripts_iff, hfound, List.mem_append, List.mem_cons] at hg
  have hsorted := w.pairwise_findScripts o.sourcePath
  rw [hfound] at hsorted
  have hrest := (List.pairwise_cons.mp (List.pairwise_append.mp hsorted).2.1).1
  rcases hg with hg | rfl | hg
  · exact absurd (hfront g hg) hng
  · exact le_rfl
  · exact le_of_lt (hrest g hg)

/-- A digest that is not prepared has met with the first need that is not met, and reports it. -/
theorem firstUnmet_of_error {e : RunError} (h : (Action.prepareDigest o w).result = .error e) :
    ∃ n, w.FirstUnmet o.places n ∧ w.Reports o.places n e := by
  rcases (Action.prepareDigest_eq_error_iff o w e).mp h with ⟨hsource, he⟩ | ⟨hsource, h⟩
  · exact ⟨.sourceFolder, ⟨[], _, rfl, nofun, (isFolder_eq_false_iff _).mp hsource⟩, he⟩
  have hfront₁ : ∀ m ∈ [Need.sourceFolder], w.Meets o.places m := List.forall_mem_singleton.mpr ((isFolder_iff _).mp hsource)
  rcases h with ⟨houtput, he⟩ | ⟨houtput, h⟩
  · exact ⟨.outputFolder, ⟨_, _, rfl, hfront₁, (isFolder_eq_false_iff _).mp houtput⟩, he⟩
  have hfolder : w.Meets o.places .outputFolder := (isFolder_iff _).mp houtput
  have hfront₂ : ∀ m ∈ [Need.sourceFolder, .outputFolder], w.Meets o.places m :=
    List.forall_mem_append.mpr ⟨hfront₁, List.forall_mem_singleton.mpr hfolder⟩
  rcases h with hscripts | ⟨scripts, hscripts, hentry⟩
  · obtain ⟨hunmet, hreports⟩ := reports_of_readScripts hscripts
    exact ⟨.scripts, ⟨_, _, rfl, hfront₂, hunmet⟩, hreports⟩
  have hreads := (Action.readScripts_eq_ok_iff _ w scripts).mp hscripts
  have hfront₃ : ∀ m ∈ [Need.sourceFolder, .outputFolder, .scripts], w.Meets o.places m :=
    List.forall_mem_append.mpr ⟨hfront₂, List.forall_mem_singleton.mpr (meets_scripts hreads)⟩
  obtain ⟨hnone, cause, hread, he⟩ := (Action.entryScript_eq_error_iff o scripts w e).mp hentry
  exact ⟨.entryPoint, ⟨_, _, rfl, hfront₃, not_meets_entryPoint hreads hnone hread⟩, cause, hread, he⟩

/-- A run that fails reports the first need that is not met. -/
theorem firstUnmet_of_run {e : RunError} (h : (Action.run o w).result = .error e) :
    ∃ n, w.FirstUnmet o.places n ∧ w.Reports o.places n e := by
  rcases Action.run_cases o w with ⟨e', hprepared, hresult, -⟩ | ⟨d, cause, hprepared, hwritable, hresult, -⟩ |
    ⟨d, l, -, -, hresult, -⟩
  · cases h.symm.trans hresult
    exact firstUnmet_of_error hprepared
  · cases h.symm.trans hresult
    refine ⟨.output, ⟨_, [], rfl, meets_of_prepared hprepared, ?_⟩, cause, hwritable, rfl⟩
    rintro ⟨l, hroom⟩
    exact not_roomFor_of_error hwritable l hroom
  · nomatch h.symm.trans hresult

/-- A run that succeeds has met all needs. -/
theorem meets_of_run (h : (Action.run o w).result = .ok ()) (n : Need) : w.Meets o.places n := by
  rcases Action.run_cases o w with ⟨e, -, hresult, -⟩ | ⟨d, cause, -, -, hresult, -⟩ | ⟨d, l, hprepared, hroom, -, -⟩
  · nomatch h.symm.trans hresult
  · nomatch h.symm.trans hresult
  · cases n with
    | output => exact ⟨l, hroom⟩
    | sourceFolder | outputFolder | scripts | entryPoint => exact meets_of_prepared hprepared _ (by decide)

/-- A run of which all needs are met succeeds. -/
theorem run_ok_of_meets (h : ∀ n, w.Meets o.places n) : (Action.run o w).result = .ok () := by
  cases hresult : (Action.run o w).result with
  | ok => rfl
  | error e =>
    obtain ⟨n, hfirst, -⟩ := firstUnmet_of_run hresult
    exact absurd (h n) hfirst.not_meets

/-- For every workspace and all arguments that ask for a run: the options say in one way, and in no other, where the run looks.
The exit code is zero exactly when all needs are met there. Else it is one, and the failure reports the first need that is not
met. -/
theorem execute_exitCode (w : Workspace) (arguments : List Text) (o : Options)
    (h : Command.ofArguments arguments = .ok (.run o)) :
    ∃ p : Places, (∀ q : Places, q.Of o ↔ q = p) ∧
      let r := w.execute arguments
      (r.exitCode = 0 ↔ ∀ n, w.Meets p n) ∧
      (r.exitCode ≠ 0 → r.exitCode = 1 ∧ ∃ n e, r.failure = some (.run e) ∧ w.FirstUnmet p n ∧ w.Reports p n e) := by
  refine ⟨o.places, fun q => q.of_iff o, ?_⟩
  intro r
  have hr : r = w.respond o := execute_of_run h
  rw [hr]
  cases hresult : (Action.run o w).result with
  | ok =>
    rw [Response.exitCode_of_none (failure_respond_of_ok hresult)]
    exact ⟨iff_of_true rfl (meets_of_run hresult), fun hne => absurd rfl hne⟩
  | error e =>
    have hfailure := failure_respond_of_error hresult
    obtain ⟨n, hfirst, hreports⟩ := firstUnmet_of_run hresult
    rw [Response.exitCode_of_run hfailure]
    exact ⟨iff_of_false nofun fun hall => hfirst.not_meets (hall n), fun _ => ⟨rfl, n, e, hfailure, hfirst, hreports⟩⟩

/-- A workspace with one script, which is no text, and a folder for the output beside that of the scripts. -/
def garbled : Workspace where
  tree :=
    let source : Location := ["src".toList, "game".toList]
    ((FileTree.empty.putFolder ["out".toList]).putFolder source).put ("A.gd".toList :: source) (.file ⟨#[255]⟩)
  current := []

/-- The folder of the output is what stands before the slashes and the dot in front of its name. It is there, so that the script
that is no text is reported, before the entry point, which is missing too. -/
theorem execute_exitCode_garbled :
    let arguments := ["game".toList, "-o".toList, "out//./Main.md".toList]
    let o : Options := { Options.unset with root := some "game".toList, output := some "out//./Main.md".toList }
    let p : Places :=
      { source := ⟨"game/src".toList⟩
        entryName := "Main.gd".toList
        entry := ⟨"game/src/Main.gd".toList⟩
        output := ⟨"out//./Main.md".toList⟩
        folder := ⟨"out".toList⟩ }
    let r := garbled.execute arguments
    Command.ofArguments arguments = .ok (.run o) ∧ p.Of o ∧ (r.exitCode = 0 ↔ ∀ n, garbled.Meets p n) ∧ r.exitCode = 1 ∧
    (∃ n e, r.failure = some (.run e) ∧ garbled.FirstUnmet p n ∧ garbled.Reports p n e) ∧
    r.failure = some (.run (.unreadable ⟨"game/src/A.gd".toList⟩ .notText)) := by
  intro arguments o p r
  have h : Command.ofArguments arguments = .ok (.run o) := rfl
  have hfailure : r.failure = some (.run (.unreadable ⟨"game/src/A.gd".toList⟩ .notText)) := by decide +kernel
  have hp : p.Of o := (p.of_iff o).mpr (by decide +kernel)
  obtain ⟨q, hq, hiff, hfailed⟩ := execute_exitCode garbled arguments o h
  obtain rfl := (hq p).mp hp
  have hne : r.exitCode ≠ 0 := by
    rw [Response.exitCode_of_run hfailure]
    nofun
  obtain ⟨hone, hreported⟩ := hfailed hne
  exact ⟨h, hp, hiff, hone, hreported, hfailure⟩

end Workspace

end ScriptDigest
