import ProviderGen.Proofs.Overwrite
import ProviderGen.Proofs.RunEffect

/-!
Generating a provider again. A run that succeeded has left a file at every path that it wrote, so a
second run finds no directory to make, overwrites the same files with the same texts, and leaves the
tree as it was. The template of the main programs must not be one of these files.
-/

namespace ProviderGen

/-- A tree in which all writes lead to files and none will fail, and all that was read reads as
before and is not written to. -/
structure FileTree.Settled (tree : FileTree) (writes : List (HostPath × String))
    (readings : List (HostPath × FileTree)) : Prop where
  undisturbed : tree.faults = []
  held : ∀ file ∈ writes, tree.HoldsFile file.1
  readable : ∀ reading ∈ readings, ∀ text,
    reading.2.readText reading.1 = .ok text → tree.readText reading.1 = .ok text
  apart : ∀ reading ∈ readings, ∀ file ∈ writes,
    tree.destination file.1 ≠ tree.destination reading.1

namespace FileTree.Settled

variable {tree : FileTree} {writes : List (HostPath × String)}
  {readings : List (HostPath × FileTree)}

theorem overwrite (settled : tree.Settled writes readings) {file : HostPath × String}
    (member : file ∈ writes) : (tree.overwrite file).Settled writes readings := by
  have updated := (settled.held file member).updated
  refine ⟨settled.undisturbed, fun other listed => (settled.held other listed).of_updated updated,
    fun reading present text read => ?_, fun reading present other listed => ?_⟩
  · refine updated.readText (fun other one => ?_) (settled.readable reading present text read)
    rw [List.mem_singleton.mp one]
    exact settled.apart reading present file member
  · rw [destination_congr updated.together, destination_congr updated.together]
    exact settled.apart reading present other listed

theorem overwriteAll (settled : tree.Settled writes readings) {files : List (HostPath × String)}
    (listed : files ⊆ writes) : (tree.overwriteAll files).Settled writes readings := by
  induction files generalizing tree with
  | nil => exact settled
  | cons file rest ih =>
    obtain ⟨first, later⟩ := List.cons_subset.mp listed
    exact ih (settled.overwrite first) later

end FileTree.Settled

variable {writes : List (HostPath × String)} {readings : List (HostPath × FileTree)}

namespace FileWork

theorem run_again {work : FileWork} {tree again : FileTree} {package : String}
    (success : (work.run tree).1 = .ok package) (settled : again.Settled writes readings)
    (performed : work.performed tree ⊆ writes) (read : work.readings tree ⊆ readings)
    (readable : ∀ reading ∈ work.readings tree, ∃ text, reading.2.readText reading.1 = .ok text) :
    work.run again = (.ok package, again.overwriteAll (work.performed tree)) := by
  induction work generalizing tree again with
  | done answer =>
    rw [FileWork.run] at success ⊢
    exact Prod.ext success rfl
  | write path text next ih =>
    rw [FileWork.run] at success ⊢
    rw [FileWork.performed] at performed ⊢
    rw [FileWork.readings] at read readable
    rcases wrote : tree.writeText path text with ⟨cause | _, written⟩
    · rw [wrote] at success
      cases success
    · rw [wrote] at success performed read readable
      obtain ⟨first, later⟩ := List.cons_subset.mp performed
      have rewrote : again.writeText path text = (.ok (), again.overwrite (path, text)) :=
        (settled.held (path, text) first).writeText settled.undisturbed
      rw [rewrote]
      exact ih success (settled.overwrite first) later read readable
  | read path next ih =>
    obtain ⟨text, found⟩ := readable (path, tree) List.mem_cons_self
    have same : again.readText path = .ok text :=
      settled.readable (path, tree) (read List.mem_cons_self) text found
    rw [FileWork.run] at success ⊢
    rw [FileWork.performed] at performed ⊢
    rw [FileWork.readings] at read readable
    rw [found] at success performed read readable ⊢
    rw [same]
    exact ih _ success settled performed (List.cons_subset.mp read).2
      fun reading member => readable reading (List.mem_cons_of_mem _ member)

theorem updated_of_reading {work : FileWork} {tree : FileTree} {answer : String}
    (success : (work.run tree).1 = .ok answer) {reading : HostPath × FileTree}
    (member : reading ∈ work.readings tree) :
    ∃ later, later ⊆ work.performed tree ∧ reading.2.Updated later (work.run tree).2 := by
  induction work generalizing tree with
  | done => cases member
  | write path text next ih =>
    rw [FileWork.run] at success
    rw [FileWork.readings] at member
    rw [FileWork.performed, FileWork.run]
    rcases wrote : tree.writeText path text with ⟨cause | _, written⟩
    · rw [wrote] at member
      cases member
    · rw [wrote] at success member
      obtain ⟨later, listed, updated⟩ := ih success member
      exact ⟨later, List.subset_cons_of_subset _ listed, updated⟩
  | read path next ih =>
    rw [FileWork.readings] at member
    rcases List.mem_cons.mp member with rfl | member
    · exact ⟨_, List.Subset.refl _, updated_run success⟩
    · exact ih _ success member

end FileWork

namespace Emit.Target

variable {α : Type} {target : Target}

theorem run_again {process : Process α} (fast : process.FailFast) {workspace : Workspace}
    {value : α}
    (success : (process.run (target.answer unformatted) workspace).1 = .ok value)
    {again : FileTree} (settled : again.Settled writes readings)
    (performed : target.writes (process.visits (target.answer unformatted) workspace) ⊆ writes)
    (read : target.readings (process.visits (target.answer unformatted) workspace) ⊆ readings) :
    let rerun := process.run (target.answer unformatted) ⟨again, workspace.pending⟩
    rerun.1 = .ok value ∧ rerun.2.tree = again.overwriteAll
      (target.writes (process.visits (target.answer unformatted) workspace)) := by
  induction process generalizing workspace again with
  | done => exact ⟨success, rfl⟩
  | call c next ih =>
    rw [Process.visits_call, writes_cons] at performed
    rw [Process.visits_call, readings_cons] at read
    rw [Process.run_call] at success
    rw [Process.visits_call, writes_cons, Process.run_call]
    obtain ⟨package, reply⟩ := exists_answer_of_success fast success
    have worked := answer_ok reply
    obtain ⟨own, later⟩ := List.append_subset.mp performed
    obtain ⟨ownRead, laterRead⟩ := List.append_subset.mp read
    have reworked := FileWork.run_again worked settled own ownRead
      fun reading member => (setup_of_mem_readings member).2.2 package worked
    have answered : target.answer unformatted c ⟨again, workspace.pending⟩ =
        (.ok package, ⟨again.overwriteAll
          ((target.work workspace.pending c).1.performed workspace.tree),
          target.waiting workspace.pending c⟩) := by
      rw [answer_unformatted, reworked]
      rfl
    rw [reply] at success later laterRead
    have rest := ih (.ok package) (fast.2 package) success (settled.overwriteAll own) later
      laterRead
    rw [pending_answer] at rest
    rw [reply, answered]
    dsimp only
    rw [FileTree.overwriteAll_append]
    exact rest

theorem updated_of_reading {process : Process α} (fast : process.FailFast) {workspace : Workspace}
    {value : α} (success : (process.run (target.answer unformatted) workspace).1 = .ok value)
    {reading : HostPath × FileTree}
    (member : reading ∈ target.readings (process.visits (target.answer unformatted) workspace)) :
    ∃ later, later ⊆ target.writes (process.visits (target.answer unformatted) workspace) ∧
      reading.2.Updated later (process.run (target.answer unformatted) workspace).2.tree := by
  induction process generalizing workspace with
  | done => cases member
  | call c next ih =>
    rw [Process.visits_call, readings_cons] at member
    rw [Process.run_call] at success
    rw [Process.visits_call, writes_cons, Process.run_call]
    rcases List.mem_append.mp member with own | later
    · obtain ⟨package, reply⟩ := exists_answer_of_success fast success
      obtain ⟨last, listed, updated⟩ := FileWork.updated_of_reading (answer_ok reply) own
      have rest := target.updated_run (fast.of_reply _) success
      rw [tree_answer] at rest
      exact ⟨_, List.append_subset.mpr ⟨List.subset_append_of_subset_left _ listed,
        List.subset_append_right _ _⟩, updated.trans rest⟩
    · obtain ⟨last, listed, updated⟩ := ih _ (fast.of_reply _) success later
      exact ⟨last, List.subset_append_of_subset_right _ listed, updated⟩

end Emit.Target

namespace Config

open Emit.Target (unformatted)

variable {config : Config} {output : HostPath} {tree : FileTree}

theorem mainTemplate?_of_reading {reading : HostPath × FileTree}
    (member : reading ∈ config.readingsInto output unformatted tree) :
    config.mainTemplate? = some reading.1 := by
  obtain ⟨visit, visited, own⟩ := List.mem_flatMap.mp member
  obtain ⟨⟨controllers, setup⟩, _⟩ := Emit.Target.setup_of_mem_readings own
  have made : visit.1 ∈ config.plannedCalls output := by
    apply (config.planned_or_failed output unformatted tree).1.subset
    rw [Process.calls_eq_visits]
    exact List.mem_map_of_mem visited
  rw [setup] at made
  exact (mainTemplate?_of_planned made).symm

theorem settled_generateInto {summary : Summary}
    (generated : (config.generateInto output unformatted tree).1 = .ok summary)
    (apart : ∀ template, config.mainTemplate? = some template →
      ∀ file ∈ config.writesInto output unformatted tree,
        tree.destination file.1 ≠ tree.destination template) :
    (config.generateInto output unformatted tree).2.Settled
      (config.writesInto output unformatted tree)
      (config.readingsInto output unformatted tree) := by
  have updated := updated_generateInto generated
  refine ⟨rfl, fun file member => updated.holdsFile member, fun reading member text read => ?_,
    fun reading member file listed => ?_⟩
  · obtain ⟨later, listed, spent⟩ :=
      Emit.Target.updated_of_reading (config.generation_failFast output) generated member
    have changed := spent.with_faults []
    have together := changed.together.symm.trans updated.together
    refine changed.readText (fun file written => ?_) read
    rw [FileTree.destination_congr together, FileTree.destination_congr together]
    exact apart reading.1 (mainTemplate?_of_reading member) file (listed written)
  · rw [FileTree.destination_congr updated.together, FileTree.destination_congr updated.together]
    exact apart reading.1 (mainTemplate?_of_reading member) file listed

/-- A run that succeeded, whose template is none of the files that it wrote, succeeds again with the
same summary and changes nothing. -/
theorem generation_again (config : Config) (output : HostPath) (tree : FileTree)
    (apart : ∀ template, config.mainTemplate? = some template →
      ∀ file ∈ config.writesInto output unformatted tree,
        tree.destination file.1 ≠ tree.destination template)
    {summary : Summary}
    (generated : (config.generateInto output unformatted tree).1 = .ok summary) :
    config.generateInto output unformatted (config.generateInto output unformatted tree).2 =
      (.ok summary, (config.generateInto output unformatted tree).2) := by
  have updated := updated_generateInto generated
  obtain ⟨succeeded, overwritten⟩ := Emit.Target.run_again (config.generation_failFast output)
    generated (settled_generateInto generated apart) (List.Subset.refl _) (List.Subset.refl _)
  have unchanged : (config.generateInto output unformatted tree).2.overwriteAll
      (config.writesInto output unformatted tree) =
        (config.generateInto output unformatted tree).2 := by
    apply FileTree.overwriteAll_eq_self
    intro place text last
    rw [FileTree.lastWritten?_congr updated.together] at last
    exact updated.written place text last
  have same := congrArg (fun reached => { reached with faults := [] })
    (overwritten.trans unchanged)
  exact Prod.ext succeeded same

theorem templated_again :
    ∃ summary, (templated.generateInto ⟨"out"⟩ unformatted templates).1 = .ok summary ∧
      templated.generateInto ⟨"out"⟩ unformatted
        (templated.generateInto ⟨"out"⟩ unformatted templates).2 =
          (.ok summary, (templated.generateInto ⟨"out"⟩ unformatted templates).2) := by
  cases generated : (templated.generateInto ⟨"out"⟩ unformatted templates).1 with
  | error failure =>
    have success := templated_generates
    rw [generated] at success
    cases success
  | ok summary =>
    refine ⟨summary, rfl, generation_again templated ⟨"out"⟩ templates ?_ generated⟩
    intro template set file written
    cases set
    obtain ⟨text, read⟩ := Emit.Target.exists_template
      (templated.length_readingsInto ⟨"out"⟩ unformatted templates)
    have planned := (writesInto_planned read).1.subset (List.mem_append_left _ written)
    have path := List.mem_map_of_mem (f := (·.1)) planned
    unfold plannedWrites at path
    rw [Emit.Target.filesOf_paths text ""] at path
    have apart : ∀ path ∈ (templated.plannedWrites ⟨"out"⟩ "").map (·.1),
        templates.destination path ≠ templates.destination ⟨"main.tmpl"⟩ := by
      decide +kernel
    exact apart file.1 path

end Config

end ProviderGen
