import ProviderGen.Proofs.RunEffect

/-!
The failures that a run can end in. A broken configuration and its hubs aside, only the host and the
formatter make a run fail, and each unit of work fails in its own few ways: no example is ever
blamed, and no controller is left without a package to watch.
-/

namespace ProviderGen

/-- The failures that a run of a configuration into an output can end in. -/
inductive RunFailure.Possible (config : Config) (output : HostPath) : RunFailure → Prop
  | config (fault : ConfigFault) (broken : config.fault? = some fault) :
    Possible config output (.config (.invalid fault))
  | hubs (fault : HubFault) : Possible config output (.hubs fault)
  | types (group version : String) (cause : IoFailure) :
    Possible config output (.work (.types group version) (.generate (.io cause)))
  | controller (resource : String) (cause : IoFailure) :
    Possible config output (.work (.controller resource) (.generate (.io cause)))
  | conversion (group version : String) (kind : NodeKind) (cause : IoFailure) :
    Possible config output (.work (.conversion group version kind) (.generate (.io cause)))
  | store (cause : IoFailure) : Possible config output (.work .store (.generate (.io cause)))
  | registration (cause : IoFailure) :
    Possible config output (.work .registration (.generate (.io cause)))
  | setup (cause : IoFailure) : Possible config output (.work .setup (.generate (.io cause)))
  | template (path : HostPath) (cause : IoFailure)
      (configured : config.mainTemplate? = some path) :
    Possible config output (.work .setup (.generate (.unreadableTemplate path cause)))
  | format (part : String) (formatted : part ∈ formattedDirectories) (failure : FormatFailure) :
    Possible config output (.work (.format (output.join part)) (.format failure))

def Call.WorkFailure : Call → GenerateFailure → Prop
  | .manifest _ _ _, _ => False
  | .format _, _ => False
  | .setup _ mainTemplate?, failure =>
    (∃ cause, failure = .io cause) ∨
      ∃ path cause, mainTemplate? = some path ∧ failure = .unreadableTemplate path cause
  | _, failure => ∃ cause, failure = .io cause

theorem FileWork.io_of_writeAll {files : List (HostPath × String)} {package : String}
    {tree : FileTree} {failure : GenerateFailure}
    (failed : ((writeAll files (.done (.ok package))).run tree).1 = .error failure) :
    ∃ cause, failure = .io cause := by
  rcases writeAll_cases files (.done (.ok package)) tree with
    ⟨reached, _, _, _, result⟩ | ⟨_, _, _, _, cause, result⟩
  · rw [result] at failed
    cases failed
  · exact ⟨cause, Except.error.inj (failed.symm.trans result)⟩

namespace Emit.Target

variable {target : Target} {pending : PendingManifests} {tree : FileTree}
  {failure : GenerateFailure}

theorem failure_of_setupWork {controllers : ControllerMap} {mainTemplate? : Option HostPath}
    (failed : ((target.setupWork controllers mainTemplate?).run tree).1 = .error failure) :
    (Call.setup controllers mainTemplate?).WorkFailure failure := by
  cases mainTemplate? with
  | none => exact .inl (FileWork.io_of_writeAll failed)
  | some path =>
    rcases FileWork.writeAll_cases (setupFiles target.root controllers) _ tree with
      ⟨reached, _, _, _, result⟩ | ⟨_, _, _, _, cause, result⟩
    · have read := failed
      unfold setupWork at read
      rw [result, FileWork.run] at read
      cases text : reached.readText path with
      | error cause =>
        rw [text] at read
        exact .inr ⟨path, cause, rfl, (Except.error.inj read).symm⟩
      | ok template =>
        rw [text] at read
        exact .inl (FileWork.io_of_writeAll read)
    · exact .inl ⟨cause, Except.error.inj (failed.symm.trans result)⟩

theorem failure_of_work {call : Call} (watching : call.Watching)
    (failed : ((target.work pending call).1.run tree).1 = .error failure) :
    call.WorkFailure failure := by
  cases call with
  | types group version resources => exact FileWork.io_of_writeAll failed
  | controller group resource watchPackage featuresPackage? =>
    rw [work_controller resource featuresPackage? watching] at failed
    exact FileWork.io_of_writeAll failed
  | manifest group version resource => cases failed
  | conversion group version kind resources => exact FileWork.io_of_writeAll failed
  | store => exact FileWork.io_of_writeAll failed
  | register packages => exact FileWork.io_of_writeAll failed
  | setup controllers mainTemplate? => exact failure_of_setupWork failed
  | format directory => cases failed

theorem failure_of_answer {formatter : Formatter} {call : Call} (watching : call.Watching)
    {workspace : Workspace} {cause : CallFailure}
    (reply : (target.answer formatter call workspace).1 = .error cause) :
    (∃ directory failure, call = .format directory ∧ cause = .format failure) ∨
      ∃ failure, call.WorkFailure failure ∧ cause = .generate failure := by
  rcases answer_formatter call workspace with ⟨directory, rfl⟩ | same
  · unfold answer at reply
    dsimp only at reply
    split at reply
    case h_1 => cases reply
    case h_2 failure _ _ => exact .inl ⟨directory, failure, rfl, (Except.error.inj reply).symm⟩
  · rw [same, answer_unformatted] at reply
    cases outcome : ((target.work workspace.pending call).1.run workspace.tree).1 with
    | ok package =>
      rw [outcome] at reply
      cases reply
    | error failure =>
      rw [outcome] at reply
      exact .inr ⟨failure, failure_of_work watching outcome, (Except.error.inj reply).symm⟩

end Emit.Target

namespace Config

open Emit (Target)
open Emit.Target (Formatter Workspace unformatted)

variable {config : Config} {output : HostPath}

theorem possible_of_planned {call : Call} (planned : call ∈ config.plannedCalls output)
    {cause : CallFailure}
    (failed : (∃ directory failure, call = .format directory ∧ cause = .format failure) ∨
      ∃ failure, call.WorkFailure failure ∧ cause = .generate failure) :
    (RunFailure.work call.workUnit cause).Possible config output := by
  rcases failed with ⟨directory, failure, rfl, rfl⟩ | ⟨failure, own, rfl⟩
  · have closing := closing_of_planned planned rfl
    have place : directory = output.join "apis" ∨ directory = output.join "internal" := by
      simpa [CallOrder.closingCalls] using closing
    rcases place with rfl | rfl
    · exact .format "apis" (by decide) failure
    · exact .format "internal" (by decide) failure
  cases call with
  | types group version resources =>
    obtain ⟨cause, rfl⟩ := own
    exact .types group version cause
  | controller group resource watchPackage featuresPackage? =>
    obtain ⟨cause, rfl⟩ := own
    exact .controller resource.name cause
  | manifest group version resource => cases own
  | conversion group version kind resources =>
    obtain ⟨cause, rfl⟩ := own
    exact .conversion group version kind cause
  | store =>
    obtain ⟨cause, rfl⟩ := own
    exact .store cause
  | register packages =>
    obtain ⟨cause, rfl⟩ := own
    exact .registration cause
  | setup controllers mainTemplate? =>
    rcases own with ⟨cause, rfl⟩ | ⟨path, cause, template, rfl⟩
    · exact .setup cause
    · exact .template path cause ((mainTemplate?_of_planned planned).symm.trans template)
  | format directory => cases own

theorem possible_of_follow {returned : Call → String} {failure : RunFailure}
    (failed : ((config.generation output).follow returned).2 = .error failure) :
    failure.Possible config output := by
  cases valid : config.validate with
  | error cause =>
    rw [generation_of_invalid valid, Process.follow_fail] at failed
    cases failed
    unfold validate at valid
    split at valid
    case h_1 fault broken =>
      cases valid
      exact .config fault broken
    case h_2 => cases valid
  | ok =>
    rw [follow_generation valid] at failed
    change CallOrder.outcome config returned = _ at failed
    unfold CallOrder.outcome at failed
    split at failed
    case h_1 fault _ =>
      cases failed
      exact .hubs fault
    case h_2 => cases failed

/-- Whatever the files and the formatter are like, a run that fails fails in one of the possible
ways. Its controllers all have a package to watch, and no failure is a manifest's, or one of
formatting an argument, of a missing package or of any other reason. -/
theorem failures_possible (config : Config) (output : HostPath) (formatter : Formatter)
    (tree : FileTree) :
    let result := (config.generateInto output formatter tree).1
    let made := (config.generation output).calls ((config.target output).answer formatter)
      ⟨tree, .empty⟩
    (∀ failure, result = .error failure → failure.Possible config output) ∧
    (∀ group resource watchPackage featuresPackage?,
      .controller group resource watchPackage featuresPackage? ∈ made → watchPackage ≠ "") ∧
    ∀ unit cause, result = .error (.work unit cause) →
      (∀ resource, unit ≠ .manifest resource) ∧ cause ≠ .generate .formatting ∧
        ∀ reason, cause ≠ .generate (.missingPackage reason) ∧ cause ≠ .generate (.other reason) ∧
          cause ≠ .generate (.yaml reason) := by
  intro result made
  obtain ⟨planned, ended⟩ := config.planned_or_failed output formatter tree
  have possible (failure : RunFailure) (failed : result = .error failure) :
      failure.Possible config output := by
    rcases ended with ⟨_, _, same⟩ | ⟨exchange, member, cause, reply, blamed⟩
    · exact possible_of_follow (same.symm.trans failed)
    · have call : exchange.1 ∈ config.plannedCalls output := by
        apply planned.subset
        rw [Process.calls_eq_exchanges]
        exact List.mem_map_of_mem member
      obtain ⟨reached, answered⟩ := Process.answered_of_mem_exchanges member
      cases blamed.symm.trans failed
      exact possible_of_planned call
        (Emit.Target.failure_of_answer (watching_of_planned call) (answered.trans reply))
  refine ⟨possible, ?watched, ?never⟩
  case watched =>
    intro group resource watchPackage featuresPackage? member
    exact watching_of_planned (planned.subset member)
  case never =>
    intro unit cause failed
    cases possible _ failed <;> exact ⟨nofun, nofun, fun reason => ⟨nofun, nofun, nofun⟩⟩

def fourFiles : FileTree where
  workingDirectory := ["home"]
  entries := ⟨[(["home"], .directory)], by decide⟩
  faults := [none, none, none, none,
    some (.refused (.other "Too many open files (os error 24)"))]

theorem networks_fourFiles :
    let result := (networks.generateInto ⟨"out"⟩ unformatted fourFiles).1
    let made := (networks.generation ⟨"out"⟩).calls
      ((networks.target ⟨"out"⟩).answer unformatted) ⟨fourFiles, .empty⟩
    let failure := RunFailure.work (.conversion "aws.example" "v1" .hub)
      (.generate (.io (.other "Too many open files (os error 24)")))
    result = .error failure ∧ failure.Possible networks ⟨"out"⟩ ∧
      made.map Call.workUnit = [.types "aws.example" "v1", .controller "settings",
        .manifest "settings", .conversion "aws.example" "v1" .hub] ∧
      ∀ call ∈ made, call.Watching := by
  intro result made failure
  have failed : result = .error failure := by decide +kernel
  have calls : made.map Call.workUnit = [.types "aws.example" "v1", .controller "settings",
      .manifest "settings", .conversion "aws.example" "v1" .hub] := by decide +kernel
  obtain ⟨possible, watched, _⟩ := failures_possible networks ⟨"out"⟩ unformatted fourFiles
  refine ⟨failed, possible failure failed, calls, fun call member => ?_⟩
  cases call with
  | controller group resource watchPackage featuresPackage? => exact watched _ _ _ _ member
  | _ => exact trivial

end Config

end ProviderGen
