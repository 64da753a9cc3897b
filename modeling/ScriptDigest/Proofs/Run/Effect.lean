import ScriptDigest.Program
import ScriptDigest.Proofs.Files.Listing
import ScriptDigest.Proofs.Run.Steps

/-!
# What the program does to files

A program that fails leaves every file as it was, and so does one that only answers a question. A run that succeeds writes
one file, the one to which the path of the output leads, and changes nothing else. What it writes is the digest of the
scripts that are found (`Workspace.Discovers`) and of the entry point (`Action.IsEntry`). All of this is `execute_effect`.
-/

namespace ScriptDigest

/-- Scripts are what the files hold that are listed for a folder, each once and in the order of their names. -/
def Workspace.Discovers (w : Workspace) (source : Path) (scripts : List Script) : Prop :=
  ∃ found : List FoundScript, (∀ f, f ∈ found ↔ w.Lists source f) ∧ (found.Pairwise fun f g => f.name < g.name) ∧
    List.Forall₂ FoundScript.Reads found scripts

theorem Workspace.discovers_of_reads {w : Workspace} {source : Path} {scripts : List Script}
    (h : List.Forall₂ FoundScript.Reads (w.findScripts source) scripts) : w.Discovers source scripts :=
  ⟨w.findScripts source, w.mem_findScripts_iff source, w.pairwise_findScripts source, h⟩

/-! ## The response to a run -/

namespace Workspace

variable {w : Workspace} {o : Options}

theorem workspace_respond : (w.respond o).workspace = (Action.run o w).workspace := rfl

theorem failure_respond_of_ok (h : (Action.run o w).result = .ok ()) : (w.respond o).failure = none := by
  rw [respond, h]

theorem failure_respond_of_error {e : RunError} (h : (Action.run o w).result = .error e) :
    (w.respond o).failure = some (.run e) := by
  rw [respond, h]

theorem execute_of_run {arguments : List Text} (h : Command.ofArguments arguments = .ok (.run o)) :
    w.execute arguments = w.respond o := by
  rw [execute, h]

end Workspace

theorem Response.exitCode_of_none {r : Response} (h : r.failure = none) : r.exitCode = 0 := by
  rw [exitCode, h]

theorem Response.exitCode_of_run {r : Response} {e : RunError} (h : r.failure = some (.run e)) : r.exitCode = 1 := by
  rw [exitCode, h]
  rfl

/-! ## Failure and success -/

namespace Workspace

/-- What a run does to files. It fails and changes nothing, or it writes the digest of what it finds to the file of the
output and changes nothing else. -/
theorem respond_effect (w : Workspace) (o : Options) :
    let r := w.respond o
    (r.exitCode ≠ 0 ∧ r.workspace = w) ∨
    (r.exitCode = 0 ∧ ∃ scripts entry l, w.Discovers o.sourcePath scripts ∧ Action.IsEntry w o scripts entry ∧
      w.locate o.outputPath = .ok l ∧ w.WritesOnly r.workspace l (Text.toUtf8 (o.digest scripts entry).render) ∧
      r.workspace.HoldsText o.outputPath (o.digest scripts entry).render) := by
  intro r
  rcases Action.run_cases o w with ⟨e, -, hresult, hkept⟩ | ⟨d, cause, -, -, hresult, hkept⟩ |
    ⟨d, l, hprepared, hroom, hresult, hwritten⟩
  · left
    rw [Response.exitCode_of_run (failure_respond_of_error hresult)]
    exact ⟨nofun, hkept⟩
  · left
    rw [Response.exitCode_of_run (failure_respond_of_error hresult)]
    exact ⟨nofun, hkept⟩
  · right
    obtain ⟨-, -, scripts, entry, hreads, hentry, rfl⟩ := (Action.prepareDigest_eq_ok_iff o w d).mp hprepared
    have hwrites := hroom.writesOnly (Text.toUtf8 (o.digest scripts entry).render)
    rw [Response.exitCode_of_none (failure_respond_of_ok hresult), workspace_respond, hwritten]
    exact ⟨rfl, scripts, entry, l, discovers_of_reads hreads, hentry, hroom.locate_eq, hwrites, hroom.holdsText hwrites⟩

/-- What the program does to files, for every workspace and all arguments. It fails and changes nothing; or it answers a
question and changes nothing; or it succeeds and changes only the file to which the path of the output leads. This file then
holds the digest of the scripts that are found and of the entry point. The digest refers to itself by the last name in the
path of the output, and it has a column for global variables unless the arguments leave it out. -/
theorem execute_effect (w : Workspace) (arguments : List Text) :
    let r := w.execute arguments
    (r.exitCode ≠ 0 ∧ r.workspace = w) ∨
    (r.exitCode = 0 ∧ ∃ query, Command.ofArguments arguments = .ok (.answer query) ∧ r.workspace = w) ∨
    (r.exitCode = 0 ∧ ∃ o scripts entry l, Command.ofArguments arguments = .ok (.run o) ∧
      w.Discovers o.sourcePath scripts ∧ Action.IsEntry w o scripts entry ∧ w.locate o.outputPath = .ok l ∧
      let digest : Digest :=
        ⟨scripts, entry, o.entryName, o.announcedClass, o.outputPath.fileName?.getD [], !o.noGlobalCount⟩
      w.WritesOnly r.workspace l (Text.toUtf8 digest.render) ∧ r.workspace.HoldsText o.outputPath digest.render) := by
  intro r
  cases hc : Command.ofArguments arguments with
  | error mistake =>
    have hr : r = ⟨[], [], some (.usage mistake), w⟩ := by simp only [r, execute, hc]
    rw [hr]
    exact Or.inl ⟨nofun, rfl⟩
  | ok command =>
    cases command with
    | answer query =>
      have hr : r = ⟨query.answer, [], none, w⟩ := by simp only [r, execute, hc]
      rw [hr]
      exact Or.inr (Or.inl ⟨rfl, query, rfl, rfl⟩)
    | run o =>
      have hr : r = w.respond o := execute_of_run hc
      rw [hr]
      rcases w.respond_effect o with hfailed | ⟨hzero, scripts, entry, l, hwritten⟩
      · exact Or.inl hfailed
      · exact Or.inr (Or.inr ⟨hzero, o, scripts, entry, l, rfl, hwritten⟩)

end Workspace

end ScriptDigest
