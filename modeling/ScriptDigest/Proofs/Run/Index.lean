import ScriptDigest.Proofs.Digest.Rows
import ScriptDigest.Proofs.Files.Segments
import ScriptDigest.Proofs.Profile
import ScriptDigest.Proofs.Run.Again
import ScriptDigest.Proofs.Text.Bytes

/-!
# What a run puts into the index

The index that a run writes has one row for each script of its folder, and each row tells of its own script (`IsIndex`).
Once a number of scripts is reported, and it is that of the rows (`Action.countEvents_prepareDigest`). What is a script is said
here of the files of the folder and their names alone, without the listing through which a run finds them. Only the length of
paths comes in: a script that is listed under a path of more than 4095 bytes is passed over (`execute_index`,
`not_showsIndex_overlong`).
-/

namespace ScriptDigest

/-! ## The number of scripts that is reported -/

/-- Whether an event reports a number of scripts. -/
def Event.isCount : Event → Bool
  | scriptsFound _ _ => true
  | _ => false

/-- The events that report a number of scripts. -/
def countEvents (events : List Event) : List Event := events.filter Event.isCount

theorem countEvents_append (front rest : List Event) :
    countEvents (front ++ rest) = countEvents front ++ countEvents rest := List.filter_append front rest

/-- A number of scripts is always shown. -/
theorem countEvents_shown (o : Options) (events : List Event) :
    countEvents (Workspace.shown o events) = countEvents events := by
  rw [Workspace.shown]
  split
  · rfl
  · rw [countEvents, countEvents, List.filter_filter]
    refine List.filter_congr fun e _ => ?_
    cases e <;> rfl

namespace Action

variable {α β : Type}

/-- A computation reports no number of scripts. -/
def Silent (x : Action α) : Prop := ∀ w, countEvents (x w).events = []

theorem silent_of (r : Except RunError α) : Silent (of r) := fun _ => rfl

theorem silent_pure (a : α) : Silent (pure a) := silent_of _

theorem silent_look (view : Workspace → α) : Silent (look view) := fun _ => rfl

theorem silent_require (c : Workspace → Bool) (e : RunError) : Silent (require c e) := fun _ => rfl

theorem silent_note {e : Event} (h : e.isCount = false) : Silent (note e) := by
  intro w
  change [e].filter Event.isCount = []
  rw [List.filter_singleton, h]
  rfl

theorem silent_noteIf (c : Bool) {e : Event} (h : e.isCount = false) : Silent (noteIf c e) := by
  cases c
  · exact silent_of _
  · exact silent_note h

theorem Silent.bind {x : Action α} {f : α → Action β} (hx : Silent x) (hf : ∀ a, Silent (f a)) : Silent (x >>= f) := by
  intro w
  cases hr : (x w).result with
  | error e => rw [bind_error hr, hx w]
  | ok a => rw [bind_ok hr, countEvents_append, hx w, hf a, List.nil_append]

theorem silent_ofReading (path : Path) (name : Text) (outcome : Except FileError Text) :
    Silent (Script.ofReading path name outcome) := by
  cases outcome with
  | ok text => exact Silent.bind (silent_note rfl) fun _ => silent_pure _
  | error cause => exact silent_of _

theorem silent_readScripts (found : List FoundScript) : Silent (readScripts found) := by
  induction found with
  | nil => exact silent_pure _
  | cons f rest ih => exact (silent_ofReading _ _ _).bind fun _ => ih.bind fun _ => silent_pure _

theorem silent_entryScript (o : Options) (scripts : List Script) : Silent (entryScript o scripts) := by
  rw [entryScript]
  split
  · exact silent_pure _
  · exact Silent.bind (silent_note rfl) fun _ => (silent_look _).bind fun _ => silent_ofReading _ _ _

/-- Behind a computation that reports no number, the numbers are those of what follows. -/
theorem Silent.countEvents_bind {x : Action α} {f : α → Action β} {w : Workspace} {b : β} (hx : Silent x) (hk : Keeps x)
    (h : ((x >>= f) w).result = .ok b) : ∃ a, (x w).result = .ok a ∧ (f a w).result = .ok b ∧
      countEvents ((x >>= f) w).events = countEvents (f a w).events := by
  rw [hk.result_bind, bind_eq_ok_iff] at h
  obtain ⟨a, ha, hb⟩ := h
  refine ⟨a, ha, hb, ?_⟩
  rw [bind_ok ha, hk, countEvents_append, hx w, List.nil_append]

/-- A number that is reported is added to those of what follows. -/
theorem countEvents_note_bind {e : Event} (he : e.isCount = true) (f : Unit → Action β) (w : Workspace) :
    countEvents ((note e >>= f) w).events = e :: countEvents (f () w).events := by
  have hnote : (note e w).result = .ok () := rfl
  have hcount : countEvents (note e w).events = [e] := by
    change [e].filter Event.isCount = [e]
    rw [List.filter_singleton, he]
    rfl
  rw [bind_ok hnote, countEvents_append, hcount]
  rfl

/-- When a digest is prepared, one number of scripts is reported, and it is that of the scripts in the digest. -/
theorem countEvents_prepareDigest {o : Options} {w : Workspace} {d : Digest} (h : (prepareDigest o w).result = .ok d) :
    countEvents (prepareDigest o w).events = [.scriptsFound d.scripts.length o.sourcePath] := by
  rw [prepareDigest] at h ⊢
  obtain ⟨-, -, h, hstarted⟩ := Silent.countEvents_bind (silent_note rfl) (keeps_note _) h
  obtain ⟨-, -, h, hsource⟩ := (silent_require _ _).countEvents_bind (keeps_require _ _) h
  obtain ⟨-, -, h, houtput⟩ := (silent_require _ _).countEvents_bind (keeps_require _ _) h
  obtain ⟨found, -, h, hlook⟩ := (silent_look _).countEvents_bind (keeps_look _) h
  obtain ⟨scripts, -, h, hread⟩ := (silent_readScripts found).countEvents_bind (keeps_readScripts found) h
  rw [hstarted, hsource, houtput, hlook, hread, countEvents_note_bind rfl]
  obtain ⟨-, -, h⟩ := bind_eq_ok_iff.mp (((keeps_note _).result_bind _ w).symm.trans h)
  obtain ⟨-, -, h, hempty⟩ := Silent.countEvents_bind (silent_noteIf _ rfl) (keeps_noteIf _ _) h
  obtain ⟨entry, -, h, hentry⟩ := (silent_entryScript o scripts).countEvents_bind (keeps_entryScript o scripts) h
  obtain ⟨-, -, h, hheading⟩ := Silent.countEvents_bind (silent_noteIf _ rfl) (keeps_noteIf _ _) h
  rw [hempty, hentry, hheading, silent_pure]
  cases h
  rfl

end Action

/-! ## The index of a folder -/

/-- Rows are the index of the scripts in a folder, of which only those count whose names pass a test. -/
structure IsIndex (t : FileTree) (folder : Location) (Counts : Text → Prop) (rows : List IndexRow) : Prop where
  /-- No two rows are of the same script. -/
  distinct : (rows.map IndexRow.name).Nodup
  /-- There are rows of the files directly in the folder whose names end like that of a script, and no others. -/
  complete : ∀ name, name ∈ rows.map IndexRow.name ↔
    (∃ content, t.node? (name :: folder) = some (.file content)) ∧ scriptEnding <:+ name ∧ Counts name
  /-- A row tells of the text in its own file. -/
  faithful : ∀ r ∈ rows, ∃ text, t.node? (r.name :: folder) = some (.file (Text.toUtf8 text)) ∧
    (∀ isEntry, r.kind = (Profile.ofText text isEntry).kind) ∧ r.lines = codeLineCount text ∧
    r.globals = (Declarations.ofText text).count
  /-- Rows that tie stand in the order of the bytes of their names. -/
  ordered : rows.Pairwise fun a b => a.kind = b.kind → a.lines = b.lines → Text.bytes a.name < Text.bytes b.name

/-- Scripts that were read are those of the files that were found. -/
theorem exists_reads_of_mem {found : List FoundScript} {scripts : List Script}
    (h : List.Forall₂ FoundScript.Reads found scripts) {s : Script} (hs : s ∈ scripts) : ∃ f ∈ found, f.Reads s := by
  induction h with
  | nil => exact absurd hs List.not_mem_nil
  | @cons f s' found scripts hfs _ ih =>
    rcases List.mem_cons.mp hs with rfl | hs
    · exact ⟨f, List.mem_cons_self, hfs⟩
    · obtain ⟨g, hg, hgs⟩ := ih hs
      exact ⟨g, List.mem_cons_of_mem f hg, hgs⟩

/-- The rows of scripts tell of their texts. -/
theorem IndexRow.ofScript_faithful (entryName : Text) (s : Script) :
    let r := ofScript entryName s
    (∀ isEntry, r.kind = (Profile.ofText s.text isEntry).kind) ∧ r.lines = codeLineCount s.text ∧
      r.globals = (Declarations.ofText s.text).count :=
  ⟨fun isEntry => Profile.kind_ofText s.text _ isEntry, rfl, rfl⟩

namespace Workspace

variable {w : Workspace} {o : Options}

/-- The path that a listing shows for a name is not too long. -/
def HasShortPath (source : Path) (name : Text) : Prop := (source.undotted.listedChild name).isLong = false

/-- A name is that of a listed script when a file in the folder has it, it ends like that of a script, and the path is not too
long. -/
theorem exists_lists_iff {source : Path} (h : [] ∉ source.segments) {folder : Location} (hfolder : w.locate source = .ok folder)
    (name : Text) : (∃ f, w.Lists source f ∧ f.name = name) ↔
      (∃ content, w.tree.node? (name :: folder) = some (.file content)) ∧ scriptEnding <:+ name ∧ HasShortPath source name := by
  have hshown := Path.listed?_eq h
  constructor
  · rintro ⟨f, ⟨folder', shown, hfolder', hshown', hfile, hend, hpath, hshort⟩, rfl⟩
    cases hfolder.symm.trans hfolder'
    cases hshown.symm.trans hshown'
    rw [hpath] at hshort
    exact ⟨⟨f.content, hfile⟩, hend, hshort⟩
  · rintro ⟨⟨content, hfile⟩, hend, hshort⟩
    refine ⟨⟨source.undotted.listedChild name, name, content⟩, ?_, rfl⟩
    exact ⟨folder, source.undotted, hfolder, hshown, hfile, hend, rfl, hshort⟩

/-- The rows of the scripts that were read are the index of their folder. -/
theorem isIndex_ofScripts {source : Path} (h : [] ∉ source.segments) {folder : Location}
    (hfolder : w.locate source = .ok folder) {scripts : List Script} (hreads : List.Forall₂ FoundScript.Reads (w.findScripts source) scripts)
    (entryName : Text) :
    IsIndex w.tree folder (HasShortPath source) (IndexRow.ofScripts scripts entryName) := by
  have hnames := map_name_of_reads hreads
  have hperm := IndexRow.perm_map_name_ofScripts scripts entryName
  have hsorted : (scripts.map Script.name).Pairwise (· < ·) := by
    rw [hnames, List.pairwise_map]
    exact w.pairwise_findScripts source
  refine ⟨?_, fun name => ?_, fun r hr => ?_, ?_⟩
  · exact hperm.nodup_iff.mpr (hsorted.imp ne_of_lt)
  · rw [hperm.mem_iff, hnames, List.mem_map, ← exists_lists_iff h hfolder]
    simp only [mem_findScripts_iff]
  · obtain ⟨s, hs, rfl⟩ := (IndexRow.mem_ofScripts_iff scripts entryName r).mp hr
    obtain ⟨f, hf, hname, hcontent⟩ := exists_reads_of_mem hreads hs
    obtain ⟨folder', -, hfolder', -, hfile, -, -, -⟩ := (w.mem_findScripts_iff source f).mp hf
    cases hfolder.symm.trans hfolder'
    have hfile' : w.tree.node? (s.name :: folder) = some (.file (Text.toUtf8 s.text)) := by rw [hname, hfile, hcontent]
    exact ⟨s.text, hfile', IndexRow.ofScript_faithful entryName s⟩
  · refine (IndexRow.pairwise_ties_ofScripts scripts entryName (List.pairwise_map.mp hsorted)).imp ?_
    intro a b hlt hkind hlines
    exact Text.bytes_lt_bytes (hlt hkind hlines)

/-- The number of scripts that a run reports when it succeeds is that of the scripts that are found. -/
theorem countEvents_respond (h : (Action.run o w).result = .ok ()) :
    countEvents (w.respond o).events = [.scriptsFound (w.findScripts o.sourcePath).length o.sourcePath] := by
  obtain ⟨d, l, hprepared, -, hrun⟩ := Action.exists_run_eq h
  obtain ⟨-, -, scripts, entry, hreads, -, rfl⟩ := (Action.prepareDigest_eq_ok_iff o w d).mp hprepared
  have hcount := Action.countEvents_prepareDigest hprepared
  change countEvents (shown o (Action.run o w).events) = _
  rw [countEvents_shown, hrun, countEvents_append, hcount, hreads.length_eq]
  rfl

/-- A response shows the index of the scripts in the folder of the source, of which only those count whose names pass a test:
the table is written in front of the other sections, and one number is reported, that of its rows. -/
def ShowsIndex (w : Workspace) (o : Options) (Counts : Text → Prop) (r : Response) : Prop :=
  ∃ folder rows entry, w.locate o.sourcePath = .ok folder ∧ IsIndex w.tree folder Counts rows ∧
    countEvents r.events = [.scriptsFound rows.length o.sourcePath] ∧
    r.workspace.HoldsText o.outputPath (Text.joinLines
      [FileIndex.table rows (!o.noGlobalCount),
        [],
        Script.entrySection entry (o.outputPath.fileName?.getD []),
        Digest.classSection o.announcedClass])

/-- For every workspace and all arguments that ask for a run: when it succeeds, and the path of the source has no empty
segments, the index is that of the scripts directly in its folder, whatever characters the path is made of. Only a script that is listed
under a path of more than 4095 bytes does not count, since such a path leads to no file. -/
theorem execute_index (w : Workspace) (arguments : List Text) (o : Options)
    (hcommand : Command.ofArguments arguments = .ok (.run o)) (hzero : (w.execute arguments).exitCode = 0)
    (hsegments : [] ∉ o.sourcePath.segments) :
    w.ShowsIndex o (HasShortPath o.sourcePath) (w.execute arguments) := by
  rw [execute_of_run hcommand] at hzero ⊢
  have hok := result_run_of_exitCode hzero
  obtain ⟨d, l, hprepared, hroom, hrun⟩ := Action.exists_run_eq hok
  obtain ⟨hsource, -, scripts, entry, hreads, -, rfl⟩ := (Action.prepareDigest_eq_ok_iff o w d).mp hprepared
  obtain ⟨folder, hfolder, -⟩ := (isFolder_iff _).mp hsource
  have hholds := hroom.holdsText (hroom.writesOnly (Text.toUtf8 (o.digest scripts entry).render))
  have hindex := isIndex_ofScripts hsegments hfolder hreads o.entryName
  refine ⟨folder, IndexRow.ofScripts scripts o.entryName, entry, hfolder, hindex, ?_, ?_⟩
  · rw [countEvents_respond hok, hreads.length_eq, IndexRow.length_ofScripts]
  · rw [workspace_respond, hrun]
    exact hholds

theorem exitCode_of_meets {arguments : List Text} (hcommand : Command.ofArguments arguments = .ok (.run o))
    (h : ∀ n, w.Meets o.places n) : (w.execute arguments).exitCode = 0 := by
  rw [execute_of_run hcommand]
  exact Response.exitCode_of_none (failure_respond_of_ok (run_ok_of_meets h))

/-- A workspace with a folder that is named like a pattern. In it are three scripts that tie, of which one is the hidden script
with no name but the ending, and beside them a folder and a file that only look like scripts. -/
def patterned : Workspace where
  tree :=
    let source : Location := ["[a]*?".toList]
    let script : Node := .file (Text.toUtf8 "extends Node\n".toList)
    (((((FileTree.empty.putFolder ("c.gd".toList :: source)).put ("é.gd".toList :: source) script).put
      (".gd".toList :: source) script).put ("Main.gd".toList :: source) script).put ("d.GD".toList :: source) script).put
      ("e.gd".toList :: "c.gd".toList :: source) script
  current := []

/-- The three scripts are in the index. -/
theorem execute_index_patterned :
    let arguments := ["-s".toList, "./[a]*?".toList, "-o".toList, "out.md".toList]
    let o : Options := { Options.unset with source := some "./[a]*?".toList, output := some "out.md".toList }
    Command.ofArguments arguments = .ok (.run o) ∧ (patterned.execute arguments).exitCode = 0 ∧ [] ∉ o.sourcePath.segments ∧
      patterned.ShowsIndex o (HasShortPath o.sourcePath) (patterned.execute arguments) := by
  intro arguments o
  have hcommand : Command.ofArguments arguments = .ok (.run o) := rfl
  have hmeets : ∀ n, patterned.Meets o.places n := by
    intro n
    cases n with
    | sourceFolder => exact (isFolder_iff o.sourcePath).mp (by decide +kernel)
    | outputFolder => exact (isFolder_iff o.outputFolder).mp (by decide +kernel)
    | scripts =>
      have hnodes : ∀ e ∈ patterned.tree.entries, e.2 = .folder ∨ e.2 = .file (Text.toUtf8 "extends Node\n".toList) := by
        decide +kernel
      rintro f ⟨folder, -, -, -, hfile, -⟩
      rcases hnodes _ ((FileTree.node?_eq_some_iff _ (List.cons_ne_nil _ _) _).mp hfile) with h | h
      · cases h
      · exact ⟨_, Node.file.inj h⟩
    | entryPoint => exact meets_entryPoint_of_holdsText "extends Node\n".toList ((read_eq_ok_iff _ _).mp (by decide +kernel))
    | output => exact ⟨["out.md".toList], (writable_eq_ok_iff o.outputPath _).mp (by decide +kernel)⟩
  have hzero := exitCode_of_meets hcommand hmeets
  have hsegments : [] ∉ o.sourcePath.segments := by decide +kernel
  exact ⟨hcommand, hzero, hsegments, execute_index patterned arguments o hcommand hzero hsegments⟩

/-! ### A script that does not count -/

/-- Segments that lead into folders and out of them again, and at last into the folder `s`. -/
def windingSegments : List Text :=
  (List.replicate 15 [List.replicate 255 'd', "..".toList]).flatten ++ [List.replicate 203 'e', "..".toList, "s".toList]

/-- A path of 4093 bytes. -/
def winding : Path := Path.ofSegments windingSegments

/-- A workspace with one script and an entry point beside it, in the folder `s`. -/
def overlong : Workspace where
  tree :=
    ((((FileTree.empty.putFolder [List.replicate 255 'd']).putFolder [List.replicate 203 'e']).putFolder ["s".toList]).put
      ["A".toList, "s".toList] (.file (Text.toUtf8 []))).put ["b.gd".toList, "s".toList]
        (.file (Text.toUtf8 "extends Node\n".toList))
  current := []

/-- What a run with this path asks for. -/
def windingOptions : Options :=
  { Options.unset with source := some winding.spelling, entry := some "A".toList, output := some "out.md".toList }

theorem plain_windingSegments : Path.Plain windingSegments := by
  unfold Path.Plain
  decide +kernel

theorem windingSegments_ne_nil : windingSegments ≠ [] := by decide

theorem slashedByteCount_windingSegments : Path.slashedByteCount windingSegments = 4094 := by decide +kernel

theorem nil_notMem_segments_winding : [] ∉ winding.segments :=
  Path.nil_notMem_segments_ofSegments plain_windingSegments windingSegments_ne_nil

theorem isLong_winding : winding.isLong = false := by
  have hbytes := Path.byteCount_ofSegments windingSegments_ne_nil
  rw [slashedByteCount_windingSegments] at hbytes
  rw [Path.isLong, decide_eq_false_iff_not, winding]
  omega

/-- There is room for a name of one byte behind the path, and for no longer one. -/
theorem isLong_winding_append (name : Text) :
    (Path.ofSegments (windingSegments ++ [name])).isLong = decide (1 < Text.byteCount name) := by
  have hbytes := Path.byteCount_ofSegments (List.append_ne_nil_of_left_ne_nil windingSegments_ne_nil [name])
  rw [Path.slashedByteCount_append, slashedByteCount_windingSegments, Path.slashedByteCount, Path.slashedByteCount] at hbytes
  rw [Path.isLong, decide_eq_decide]
  omega

theorem locate_winding : overlong.locate winding = .ok ["s".toList] :=
  Path.locate_ofSegments plain_windingSegments windingSegments_ne_nil isLong_winding (by decide +kernel)

theorem entryPath_winding : windingOptions.entryPath = Path.ofSegments (windingSegments ++ ["A".toList]) :=
  Path.join_ofSegments plain_windingSegments windingSegments_ne_nil (by decide)

theorem locate_entryPath_winding : overlong.locate windingOptions.entryPath = .ok ["A".toList, "s".toList] := by
  have hplain : Path.Plain (windingSegments ++ ["A".toList]) :=
    List.forall_mem_append.mpr ⟨plain_windingSegments, List.forall_mem_singleton.mpr (by decide)⟩
  rw [entryPath_winding]
  refine Path.locate_ofSegments hplain (by decide) ?_ (by decide +kernel)
  rw [isLong_winding_append]
  decide

/-- The script is not listed, since its path is too long. -/
theorem not_lists_overlong (f : FoundScript) : ¬ overlong.Lists winding f := by
  have hfiles : ∀ e ∈ overlong.tree.entries,
      e.2 = .folder ∨ e.1 = ["A".toList, "s".toList] ∨ e.1 = ["b.gd".toList, "s".toList] := by
    decide +kernel
  intro hf
  have hlisted := exists_lists_iff nil_notMem_segments_winding locate_winding f.name
  obtain ⟨⟨content, hfile⟩, hend, hshort⟩ := hlisted.mp ⟨f, hf, rfl⟩
  rcases hfiles _ ((FileTree.node?_eq_some_iff _ (List.cons_ne_nil _ _) _).mp hfile) with h | h | h
  · cases h
  · rw [(List.cons.inj h).1] at hend
    exact absurd hend (by decide)
  · have hundotted : winding.undotted = winding := by
      rw [Path.undotted, winding, Path.segments_ofSegments plain_windingSegments windingSegments_ne_nil]
      rfl
    have hhere : winding ≠ Path.here := Path.ofSegments_ne_here plain_windingSegments (by decide)
    have hpath : winding.listedChild "b.gd".toList = Path.ofSegments (windingSegments ++ ["b.gd".toList]) := by
      rw [Path.listedChild, if_neg hhere]
      exact Path.join_ofSegments plain_windingSegments windingSegments_ne_nil (by decide)
    rw [HasShortPath, hundotted, (List.cons.inj h).1, hpath, isLong_winding_append] at hshort
    exact absurd hshort (by decide)

theorem meets_overlong (n : Need) : overlong.Meets windingOptions.places n := by
  cases n with
  | sourceFolder => exact ⟨_, locate_winding, by decide +kernel⟩
  | outputFolder => exact (isFolder_iff _).mp (by decide +kernel)
  | scripts => exact fun f hf => absurd hf (not_lists_overlong f)
  | entryPoint => exact meets_entryPoint_of_holdsText [] ⟨_, locate_entryPath_winding, by decide +kernel⟩
  | output => exact ⟨["out.md".toList], (writable_eq_ok_iff _ _).mp (by decide +kernel)⟩

/-- Not all scripts of the folder are in the index: one that is listed under a path of more than 4095 bytes is missing. -/
theorem not_showsIndex_overlong :
    let arguments := ["-s".toList, winding.spelling, "-m".toList, "A".toList, "-o".toList, "out.md".toList]
    Command.ofArguments arguments = .ok (.run windingOptions) ∧ (overlong.execute arguments).exitCode = 0 ∧
      [] ∉ windingOptions.sourcePath.segments ∧
      ¬ overlong.ShowsIndex windingOptions (fun _ => True) (overlong.execute arguments) := by
  intro arguments
  have hcommand : Command.ofArguments arguments = .ok (.run windingOptions) := rfl
  refine ⟨hcommand, exitCode_of_meets hcommand meets_overlong, nil_notMem_segments_winding, ?_⟩
  rintro ⟨folder, rows, entry, hfolder, hindex, hcount, -⟩
  cases locate_winding.symm.trans hfolder
  have hnone : overlong.findScripts winding = [] :=
    List.eq_nil_iff_forall_not_mem.mpr fun f hf => not_lists_overlong f ((mem_findScripts_iff _ _ f).mp hf)
  have hcount' := countEvents_respond (run_ok_of_meets meets_overlong)
  rw [execute_of_run hcommand, hcount'] at hcount
  have hrows : rows.length = 0 := by
    have hlength := (Event.scriptsFound.inj (List.cons.inj hcount).1).1
    rw [← hlength]
    exact congrArg List.length hnone
  have hfile : overlong.tree.node? ["b.gd".toList, "s".toList] = some (.file (Text.toUtf8 "extends Node\n".toList)) := by
    decide +kernel
  have hrow := (hindex.complete "b.gd".toList).mpr ⟨⟨_, hfile⟩, by decide, trivial⟩
  rw [List.length_eq_zero_iff.mp hrows] at hrow
  exact absurd hrow List.not_mem_nil

end Workspace

end ScriptDigest
