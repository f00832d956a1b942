import ProviderGen.Emit.Target
import ProviderGen.Proofs.FileEffect

/-!
What the work of one call does to a file tree. The texts that it writes account for all it changes,
up to a write that the host fails; with that write, they are the first of the files listed for the
call.
-/

namespace ProviderGen

namespace GenerateFailure

def OfHost (failure : GenerateFailure) : Prop :=
  (∃ cause, failure = .io cause) ∨ ∃ path cause, failure = .unreadableTemplate path cause

end GenerateFailure

namespace FileWork

/-- The texts that are written, up to the first that cannot be. -/
def performed : FileWork → FileTree → List (HostPath × String)
  | .done _, _ => []
  | .write path text next, tree =>
    match tree.writeText path text with
    | (.ok (), written) => (path, text) :: next.performed written
    | (.error _, _) => []
  | .read path next, tree => (next (tree.readText path)).performed tree

def failed? : FileWork → FileTree → Option (HostPath × String)
  | .done _, _ => none
  | .write path text next, tree =>
    match tree.writeText path text with
    | (.ok (), written) => next.failed? written
    | (.error _, _) => some (path, text)
  | .read path next, tree => (next (tree.readText path)).failed? tree

def readings : FileWork → FileTree → List (HostPath × FileTree)
  | .done _, _ => []
  | .write path text next, tree =>
    match tree.writeText path text with
    | (.ok (), written) => next.readings written
    | (.error _, _) => []
  | .read path next, tree => (path, tree) :: (next (tree.readText path)).readings tree

theorem disturbed_run (work : FileWork) (tree : FileTree) :
    tree.Disturbed (work.performed tree) (work.failed? tree) (work.run tree).2 := by
  induction work generalizing tree with
  | done => exact .refl tree
  | write path text next ih =>
    rw [performed, failed?, run]
    rcases wrote : tree.writeText path text with ⟨_ | _, reached⟩
    · exact ⟨tree, .refl tree, (FileTree.broken_of_writeText wrote).1⟩
    · exact (FileTree.updated_of_writeText wrote).disturbed (ih reached)
  | read path next ih => exact ih _ tree

theorem failed?_of_success {work : FileWork} {tree : FileTree} {answer : String}
    (success : (work.run tree).1 = .ok answer) : work.failed? tree = none := by
  induction work generalizing tree with
  | done => rfl
  | write path text next ih =>
    rw [run] at success
    rw [failed?]
    rcases wrote : tree.writeText path text with ⟨cause | _, reached⟩
    · rw [wrote] at success
      cases success
    · rw [wrote] at success
      exact ih success
  | read path next ih => exact ih _ success

theorem updated_run {work : FileWork} {tree : FileTree} {answer : String}
    (success : (work.run tree).1 = .ok answer) :
    tree.Updated (work.performed tree) (work.run tree).2 := by
  have disturbed := work.disturbed_run tree
  rw [failed?_of_success success] at disturbed
  exact disturbed

theorem writeAll_cases (files : List (HostPath × String)) (next : FileWork) (tree : FileTree) :
    (∃ reached, (writeAll files next).performed tree = files ++ next.performed reached ∧
      (writeAll files next).failed? tree = next.failed? reached ∧
      (writeAll files next).readings tree = next.readings reached ∧
      (writeAll files next).run tree = next.run reached) ∨
    ∃ broken, (writeAll files next).failed? tree = some broken ∧
      (writeAll files next).performed tree ++ [broken] <+: files ∧
      (writeAll files next).readings tree = [] ∧
      ∃ cause, ((writeAll files next).run tree).1 = .error (.io cause) := by
  induction files generalizing tree with
  | nil => exact .inl ⟨tree, rfl, rfl, rfl, rfl⟩
  | cons file rest ih =>
    have unfolded : writeAll (file :: rest) next = .write file.1 file.2 (writeAll rest next) := rfl
    rw [unfolded, performed, failed?, readings, run]
    rcases tree.writeText file.1 file.2 with ⟨cause | _, reached⟩
    · exact .inr ⟨file, rfl, List.prefix_append [file] rest, rfl, cause, rfl⟩
    rcases ih reached with ⟨last, files, broken, readings, result⟩ |
      ⟨broken, failed, files, readings, result⟩
    · exact .inl ⟨last, congrArg (file :: ·) files, broken, readings, result⟩
    · exact .inr ⟨broken, failed, (List.prefix_cons_inj file).mpr files, readings, result⟩

theorem exists_of_isOk {work : FileWork} {tree : FileTree}
    (succeeded : (work.run tree).1.isOk = true) :
    ∃ answer after, work.run tree = (.ok answer, after) := by
  rcases outcome : work.run tree with ⟨failure | answer, after⟩
  · rw [outcome] at succeeded
    cases succeeded
  · exact ⟨answer, after, rfl⟩

theorem updated_of_writeAll {files : List (HostPath × String)} {next : FileWork}
    {tree after : FileTree} {answer : String}
    (success : (writeAll files next).run tree = (.ok answer, after)) :
    ∃ reached, tree.Updated files reached ∧ next.run reached = (.ok answer, after) := by
  induction files generalizing tree with
  | nil => exact ⟨tree, .refl tree, success⟩
  | cons file rest ih =>
    have unfolded : writeAll (file :: rest) next = .write file.1 file.2 (writeAll rest next) := rfl
    rw [unfolded, run] at success
    rcases wrote : tree.writeText file.1 file.2 with ⟨_ | _, written⟩
    · rw [wrote] at success
      cases success
    · rw [wrote] at success
      obtain ⟨reached, updated, onwards⟩ := ih success
      exact ⟨reached, (FileTree.updated_of_writeText wrote).trans updated, onwards⟩

theorem updated_of_writeAll_done {files : List (HostPath × String)} {tree after : FileTree}
    {answer package : String}
    (success : (writeAll files (.done (.ok answer))).run tree = (.ok package, after)) :
    tree.Updated files after := by
  obtain ⟨reached, updated, ended⟩ := updated_of_writeAll success
  cases ended
  exact updated

/-- Work that writes the listed files and answers with a package, unless the host fails it after
some of them. -/
structure Meets (work : FileWork) (tree : FileTree) (files : List (HostPath × String))
    (package : String) : Prop where
  started : work.performed tree ++ (work.failed? tree).toList <+: files
  finished : ∀ answer, (work.run tree).1 = .ok answer →
    answer = package ∧ work.performed tree = files
  excused : ∀ failure, (work.run tree).1 = .error failure → failure.OfHost

namespace Meets

variable {tree : FileTree} {files later : List (HostPath × String)} {package : String}

theorem done : (FileWork.done (.ok package)).Meets tree [] package where
  started := List.nil_prefix
  finished := fun _ success => ⟨(Except.ok.inj success).symm, rfl⟩
  excused := nofun

theorem failed {failure : GenerateFailure} (host : failure.OfHost) :
    (FileWork.done (.error failure)).Meets tree files package where
  started := List.nil_prefix
  finished := nofun
  excused := fun other failed => by
    cases failed
    exact host

theorem read {path : HostPath} {next : Except IoFailure String → FileWork}
    (rest : (next (tree.readText path)).Meets tree files package) :
    (FileWork.read path next).Meets tree files package :=
  ⟨rest.started, rest.finished, rest.excused⟩

theorem writeAll {next : FileWork} (rest : ∀ reached,
      (FileWork.writeAll files next).readings tree = next.readings reached →
        next.Meets reached later package) :
    (FileWork.writeAll files next).Meets tree (files ++ later) package := by
  rcases FileWork.writeAll_cases files next tree with
    ⟨reached, performed, failed, readings, result⟩ |
      ⟨broken, failed, first, readings, cause, result⟩
  · have last := rest reached readings
    constructor
    · rw [performed, failed, List.append_assoc]
      exact (List.prefix_append_right_inj files).mpr last.started
    · intro answer success
      rw [result] at success
      rw [performed, (last.finished answer success).2]
      exact ⟨(last.finished answer success).1, rfl⟩
    · intro failure stopped
      rw [result] at stopped
      exact last.excused failure stopped
  · constructor
    · rw [failed, Option.toList_some]
      exact first.trans (List.prefix_append files later)
    · intro answer success
      rw [result] at success
      cases success
    · intro failure stopped
      rw [result] at stopped
      exact .inl ⟨cause, (Except.error.inj stopped).symm⟩

theorem writeAll_done (files : List (HostPath × String)) :
    (FileWork.writeAll files (.done (.ok package))).Meets tree files package := by
  have whole : (FileWork.writeAll files (.done (.ok package))).Meets tree (files ++ []) package :=
    writeAll fun _ _ => done
  rwa [List.append_nil] at whole

end Meets

end FileWork

namespace Call

def Watching : Call → Prop
  | .controller _ _ watchPackage _ => watchPackage ≠ ""
  | _ => True

end Call

namespace Emit.Target

variable (target : Target)

def files (template : String) (pending : PendingManifests) : Call → List (HostPath × String)
  | .types group version resources => typeFiles target.root group version resources
  | .controller group resource watchPackage featuresPackage? =>
    [controllerFile target.root group resource watchPackage featuresPackage?]
  | .manifest _ _ _ => []
  | .conversion group version kind resources =>
    [conversionFile target.root group version kind resources]
  | .store => pending.files
  | .register packages => [registerFile target.root packages]
  | .setup controllers mainTemplate? =>
    setupFiles target.root controllers ++
      match mainTemplate? with
      | none => []
      | some _ => mainFiles target.root target.layout.modulePath template controllers.keys
  | .format _ => []

def package : Call → String
  | .types group version _ => target.layout.apiPackage group version
  | .controller group resource _ _ => target.layout.controllerPackage group resource.kind
  | _ => ""

def waiting (pending : PendingManifests) (call : Call) : PendingManifests :=
  (target.work pending call).2

variable {target} {template : String} {pending : PendingManifests} {tree : FileTree}

theorem setupWork_meets (controllers : ControllerMap) (mainTemplate? : Option HostPath)
    (read : ∀ reading ∈ (target.setupWork controllers mainTemplate?).readings tree,
      ∀ text, reading.2.readText reading.1 = .ok text → text = template) :
    (target.setupWork controllers mainTemplate?).Meets tree
      (target.files template pending (.setup controllers mainTemplate?)) "" := by
  refine FileWork.Meets.writeAll fun reached readings => ?_
  cases mainTemplate? with
  | none => exact .done
  | some path =>
    unfold setupWork at read
    rw [readings] at read
    have told := read (path, reached) List.mem_cons_self
    apply FileWork.Meets.read
    cases text : reached.readText path with
    | error cause => exact .failed (.inr ⟨path, cause, rfl⟩)
    | ok found =>
      rw [told found text]
      exact .writeAll_done _

theorem work_controller {group watchPackage : String} (resource : Resource)
    (featuresPackage? : Option String) (watched : watchPackage ≠ "") :
    target.work pending (.controller group resource watchPackage featuresPackage?) =
      (FileWork.writeAll
        [controllerFile target.root group resource watchPackage featuresPackage?]
        (.done (.ok (target.layout.controllerPackage group resource.kind))), pending) :=
  if_neg watched

theorem work_meets {call : Call} (watching : call.Watching)
    (read : ∀ reading ∈ (target.work pending call).1.readings tree,
      ∀ text, reading.2.readText reading.1 = .ok text → text = template) :
    (target.work pending call).1.Meets tree (target.files template pending call)
      (target.package call) := by
  cases call with
  | types group version resources => exact .writeAll_done _
  | controller group resource watchPackage featuresPackage? =>
    rw [work_controller resource featuresPackage? watching]
    exact .writeAll_done _
  | manifest group version resource => exact .done
  | conversion group version kind resources => exact .writeAll_done _
  | store => exact .writeAll_done _
  | register packages => exact .writeAll_done _
  | setup controllers mainTemplate? => exact setupWork_meets controllers mainTemplate? read
  | format directory => exact .done

/-! ### Readings -/

theorem readings_writeAll_done (files : List (HostPath × String))
    (answer : Except GenerateFailure String) (tree : FileTree) :
    (FileWork.writeAll files (.done answer)).readings tree = [] := by
  rcases FileWork.writeAll_cases files (.done answer) tree with
    ⟨_, _, _, readings, _⟩ | ⟨_, _, _, readings, _⟩ <;> exact readings

theorem readings_setupWork (target : Target) (controllers : ControllerMap)
    (mainTemplate? : Option HostPath) (tree : FileTree) :
    let work := target.setupWork controllers mainTemplate?
    work.readings tree = [] ∨
      ∃ path reached, mainTemplate? = some path ∧ work.readings tree = [(path, reached)] ∧
        ∀ answer, (work.run tree).1 = .ok answer → ∃ text, reached.readText path = .ok text := by
  unfold setupWork
  cases mainTemplate? with
  | none => exact .inl (readings_writeAll_done _ _ tree)
  | some path =>
    dsimp only
    rcases FileWork.writeAll_cases (setupFiles target.root controllers) _ tree with
      ⟨reached, _, _, readings, result⟩ | ⟨_, _, _, readings, _⟩
    · refine .inr ⟨path, reached, rfl, readings.trans (congrArg ((path, reached) :: ·) ?_), ?_⟩
      · cases reached.readText path with
        | error cause => rfl
        | ok template => exact readings_writeAll_done _ _ reached
      · intro answer success
        rw [result, FileWork.run] at success
        cases text : reached.readText path with
        | error cause =>
          rw [text] at success
          cases success
        | ok template => exact ⟨template, rfl⟩
    · exact .inl readings

theorem setup_of_mem_readings {call : Call} {reading : HostPath × FileTree}
    (member : reading ∈ (target.work pending call).1.readings tree) :
    (∃ controllers, call = .setup controllers (some reading.1)) ∧
      (target.work pending call).1.readings tree = [reading] ∧
      ∀ answer, ((target.work pending call).1.run tree).1 = .ok answer →
        ∃ text, reading.2.readText reading.1 = .ok text := by
  have silent {files : List (HostPath × String)} {answer : Except GenerateFailure String} :
      reading ∉ (FileWork.writeAll files (.done answer)).readings tree := by
    rw [readings_writeAll_done]
    exact List.not_mem_nil
  cases call with
  | types => exact absurd member silent
  | controller group resource watchPackage featuresPackage? =>
    unfold work at member
    dsimp only at member
    split at member
    · cases member
    · exact absurd member silent
  | manifest => cases member
  | conversion => exact absurd member silent
  | store => exact absurd member silent
  | register => exact absurd member silent
  | setup controllers mainTemplate? =>
    have one : (target.work pending (.setup controllers mainTemplate?)).1 =
        target.setupWork controllers mainTemplate? := rfl
    rw [one] at member ⊢
    rcases target.readings_setupWork controllers mainTemplate? tree with
      none | ⟨path, reached, rfl, only, readable⟩
    · rw [none] at member
      cases member
    · rw [only] at member
      cases List.mem_singleton.mp member
      exact ⟨⟨controllers, rfl⟩, only, readable⟩
  | format => cases member

theorem length_readings_work (target : Target) (pending : PendingManifests) (call : Call)
    (tree : FileTree) :
    ((target.work pending call).1.readings tree).length ≤ 1 := by
  cases readings : (target.work pending call).1.readings tree with
  | nil => exact Nat.zero_le 1
  | cons reading rest =>
    have member : reading ∈ (target.work pending call).1.readings tree := by
      rw [readings]
      exact List.mem_cons_self
    obtain ⟨_, only, _⟩ := setup_of_mem_readings member
    rw [← readings, only]
    exact Nat.le_refl 1

theorem exists_template {readings : List (HostPath × FileTree)} (single : readings.length ≤ 1) :
    ∃ template, ∀ reading ∈ readings, ∀ text,
      reading.2.readText reading.1 = .ok text → text = template := by
  match readings, single with
  | [], _ => exact ⟨"", fun _ member => nomatch member⟩
  | [reading], _ =>
    cases found : reading.2.readText reading.1 with
    | error cause =>
      refine ⟨"", fun other member text read => ?_⟩
      rw [List.mem_singleton.mp member, found] at read
      cases read
    | ok template =>
      refine ⟨template, fun other member text read => ?_⟩
      rw [List.mem_singleton.mp member, found] at read
      exact (Except.ok.inj read).symm

theorem watching_of_success {call : Call} {package : String}
    (success : ((target.work pending call).1.run tree).1 = .ok package) : call.Watching := by
  cases call with
  | controller group resource watchPackage featuresPackage? =>
    rintro rfl
    cases success
  | _ => exact trivial

theorem package_of_success {call : Call} {package : String}
    (success : ((target.work pending call).1.run tree).1 = .ok package) :
    package = target.package call := by
  obtain ⟨template, read⟩ := exists_template (target.length_readings_work pending call tree)
  exact ((work_meets (watching_of_success success) read).finished package success).1

end Emit.Target

end ProviderGen
