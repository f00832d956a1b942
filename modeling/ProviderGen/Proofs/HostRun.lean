import ProviderGen.CommandLine.Program
import ProviderGen.Proofs.RunEffect

/-!
Generating through the file operations of a host. Where the host is a file tree, every call is
answered as from the tree, so the command generates what a run into the tree does.
-/

namespace ProviderGen

open Emit.Target (Formatter Workspace)

variable {formatter : Formatter}

theorem FileWork.perform_host (work : FileWork) (formatter : Formatter) (tree : FileTree) :
    (work.perform (FileTree.host formatter)).run tree = work.run tree := by
  induction work generalizing tree with
  | done => rfl
  | write path text next ih =>
    rw [perform, run, StateT.run_bind]
    have written : ((FileTree.host formatter).writeText path text).run tree =
        tree.writeText path text := rfl
    rw [written]
    rcases tree.writeText path text with ⟨cause | _, reached⟩
    · rfl
    · exact ih reached
  | read path next ih => exact ih (tree.readText path) tree

namespace Emit.Target

def performWork {m : Type → Type} [Monad m] (host : Host m)
    (plan : PendingManifests → FileWork × PendingManifests) : StateT PendingManifests m Answer := do
  let (work, pending) := plan (← get)
  set pending
  match ← (work.perform host : m (Except GenerateFailure String)) with
  | .ok package => return .ok package
  | .error failure => return .error (.generate failure)

theorem performWork_host (plan : PendingManifests → FileWork × PendingManifests)
    (pending : PendingManifests) (tree : FileTree) :
    ((performWork (FileTree.host formatter) plan).run pending).run tree =
      ((((plan pending).1.run tree).1.mapError .generate, (plan pending).2),
        ((plan pending).1.run tree).2) := by
  have step : ((performWork (FileTree.host formatter) plan).run pending).run tree =
      let worked := ((plan pending).1.perform (FileTree.host formatter)).run tree
      StateT.run (StateT.run (match worked.1 with
        | .ok package => pure (.ok package)
        | .error failure => pure (.error (.generate failure))) (plan pending).2) worked.2 := rfl
  rw [step, FileWork.perform_host]
  dsimp only
  rcases (plan pending).1.run tree with ⟨_ | _, reached⟩ <;> rfl

variable (target : Target)

theorem perform_eq_performWork {m : Type → Type} [Monad m] (host : Host m) {call : Call}
    (own : ∀ directory, call ≠ .format directory) :
    target.perform host call = performWork host fun pending => target.work pending call := by
  cases call
  case format directory => exact absurd rfl (own directory)
  all_goals rfl

theorem perform_host (call : Call) (workspace : Workspace) :
    ((target.perform (FileTree.host formatter) call).run workspace.pending).run workspace.tree =
      let (reply, later) := target.answer formatter call workspace
      ((reply, later.pending), later.tree) := by
  cases call
  case format directory =>
    have formatted : ((liftM ((FileTree.host formatter).format directory) :
        StateT PendingManifests (StateM FileTree) _).run workspace.pending).run workspace.tree =
          (((formatter directory workspace.tree).1, workspace.pending),
            (formatter directory workspace.tree).2) := rfl
    unfold perform answer
    dsimp only
    rw [StateT.run_bind, StateT.run_bind, formatted]
    rcases formatter directory workspace.tree with ⟨_ | _, reached⟩ <;> rfl
  all_goals
    rw [perform_eq_performWork, performWork_host]
    · unfold answer
      dsimp only
      rcases target.work workspace.pending _ with ⟨work, later⟩
      dsimp only
      rcases work.run workspace.tree with ⟨_ | _, reached⟩ <;> rfl
    · intro directory same
      cases same

end Emit.Target

theorem Process.perform_host {α : Type} (process : Process α) (target : Emit.Target)
    (formatter : Formatter) (workspace : Workspace) :
    ((process.perform (target.perform (FileTree.host formatter))).run workspace.pending).run
        workspace.tree =
      let (result, later) := process.run (target.answer formatter) workspace
      ((result, later.pending), later.tree) := by
  induction process generalizing workspace with
  | done => rfl
  | call c next ih =>
    have step : (((Process.call c next).perform (target.perform (FileTree.host formatter))).run
        workspace.pending).run workspace.tree =
          let called := ((target.perform (FileTree.host formatter) c).run workspace.pending).run
            workspace.tree
          (((next called.1.1).perform (target.perform (FileTree.host formatter))).run
            called.1.2).run called.2 := rfl
    rw [step, target.perform_host]
    exact ih (target.answer formatter c workspace).1 (target.answer formatter c workspace).2

namespace CommandLine

theorem loadConfig_host (path : HostPath) (tree : FileTree) :
    (loadConfig (FileTree.host formatter) path).run tree =
      ((Config.ofFile path (tree.readText path)).mapError fun failure => .during
        ("Failed to load config " ++ path.text) failure.message failure.causes, tree) := by
  have read : ((FileTree.host formatter).readText path).run tree = (tree.readText path, tree) := rfl
  unfold loadConfig
  rw [StateT.run_bind, read]
  generalize tree.readText path = text
  dsimp only [bind]
  cases Config.ofFile path text <;> rfl

/-- On a file tree, the command loads the configuration, makes the output directory and runs into
the tree. -/
theorem generate_host (path output : HostPath) (tree : FileTree) :
    (generate (FileTree.host formatter) path output).run tree =
      match Config.ofFile path (tree.readText path) with
      | .error failure =>
        (.error (.during ("Failed to load config " ++ path.text) failure.message failure.causes),
          tree)
      | .ok config =>
        match tree.createDirectories output with
        | (.error cause, reached) =>
          (.error (.during ("Failed to create output directory " ++ output.text) cause.message []),
            reached)
        | (.ok (), made) =>
          let run := config.runInto output formatter made
          (run.1.mapError fun failure => .during
            ("Failed to generate provider into " ++ output.text) failure.message failure.causes,
            run.2) := by
  unfold generate
  rw [StateT.run_bind, loadConfig_host]
  cases Config.ofFile path (tree.readText path) with
  | error failure => rfl
  | ok config =>
    change StateT.run (_ >>= _) tree = _
    rw [StateT.run_bind]
    have created : ((FileTree.host formatter).createDirectories output).run tree =
      tree.createDirectories output := rfl
    rw [created]
    rcases tree.createDirectories output with ⟨cause | _, made⟩
    · rfl
    · change StateT.run (_ >>= _) made = _
      rw [StateT.run_bind]
      have performed := (config.generation output).perform_host ⟨output, config.layout⟩ formatter
        ⟨made, .empty⟩
      dsimp only at performed ⊢
      rw [performed]
      unfold Config.runInto
      dsimp only
      rcases (config.generation output).run _ _ with ⟨_ | _, later⟩ <;> rfl

theorem withoutFormatting_host :
    withoutFormatting (FileTree.host formatter) = FileTree.host Emit.Target.unformatted := rfl

end CommandLine

end ProviderGen
