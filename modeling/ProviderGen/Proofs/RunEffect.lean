import ProviderGen.Proofs.FailFast
import ProviderGen.Proofs.WorkEffect

/-!
What a run does to a file tree. The texts that its calls write account for all that it changes, up
to a write that the host fails; with that write, they are the first of those listed for the
configuration, and all of them unless the host fails a call.
-/

namespace ProviderGen

namespace CallOrder

variable {config : Config} {returned : Call → String}

theorem exists_mem_ownCalls {entries : List (String × GroupVersions)} {c : Call}
    (member : c ∈ groupCalls config returned entries) :
    ∃ entry ∈ entries, c ∈ ownCalls config returned entry := by
  induction entries with
  | nil => cases member
  | cons entry rest ih =>
    rw [groupCalls_cons] at member
    cases found : hubFault? entry with
    | some fault =>
      rw [found] at member
      exact ⟨entry, List.mem_cons_self, List.mem_append_left _ member⟩
    | none =>
      rw [found] at member
      rcases List.mem_append.mp member with own | later
      · exact ⟨entry, List.mem_cons_self, own⟩
      · obtain ⟨other, present, own⟩ := ih later
        exact ⟨other, List.mem_cons_of_mem _ present, own⟩

theorem mem_runCalls {output : HostPath} {c : Call}
    (member : c ∈ runCalls config returned output) :
    (∃ entry ∈ config.table.groups.entries, c ∈ ownCalls config returned entry) ∨
      c ∈ closingCalls config returned output := by
  rcases List.mem_append.mp member with own | closing
  · exact .inl (exists_mem_ownCalls own)
  · split at closing
    · cases closing
    · exact .inr closing

end CallOrder

theorem Layout.apiPackage_ne_empty (layout : Layout) (group version : String) :
    layout.apiPackage group version ≠ "" := by
  intro empty
  have segments := congrArg PackagePath.segments empty
  unfold apiPackage apiGroupBase at segments
  rw [PackagePath.segments_join, List.flatMap_cons, PackagePath.segments_join, List.flatMap_cons,
    List.flatMap_cons] at segments
  have apis : "apis" ∈ PackagePath.segments "" := by
    rw [← segments]
    exact List.mem_append_left _ (List.mem_append_right _ (List.mem_append_left _ (by decide)))
  exact absurd apis (by decide)

namespace Emit.Target

variable (target : Target)

def writes (visits : List (Call × Workspace)) : List (HostPath × String) :=
  visits.flatMap fun visit => (target.work visit.2.pending visit.1).1.performed visit.2.tree

def failed? (visits : List (Call × Workspace)) : Option (HostPath × String) :=
  visits.findSome? fun visit => (target.work visit.2.pending visit.1).1.failed? visit.2.tree

def readings (visits : List (Call × Workspace)) : List (HostPath × FileTree) :=
  visits.flatMap fun visit => (target.work visit.2.pending visit.1).1.readings visit.2.tree

def filesOf (template : String) : PendingManifests → List Call → List (HostPath × String)
  | _, [] => []
  | pending, call :: rest =>
    target.files template pending call ++ filesOf template (target.waiting pending call) rest

variable {target} {template : String} {formatter : Formatter}

theorem filesOf_first {calls later : List Call} (fewer : calls <+: later)
    (pending : PendingManifests) :
    target.filesOf template pending calls <+: target.filesOf template pending later := by
  induction calls generalizing pending later with
  | nil => exact List.nil_prefix
  | cons call rest ih =>
    obtain ⟨more, rfl⟩ := fewer
    exact (List.prefix_append_right_inj _).mpr (ih (List.prefix_append rest more) _)

theorem filesOf_paths (template other : String) (pending : PendingManifests) (calls : List Call) :
    (target.filesOf template pending calls).map (·.1) =
      (target.filesOf other pending calls).map (·.1) := by
  induction calls generalizing pending with
  | nil => rfl
  | cons call rest ih =>
    have own : (target.files template pending call).map (·.1) =
        (target.files other pending call).map (·.1) := by
      cases call with
      | setup controllers mainTemplate? =>
        cases mainTemplate? with
        | none => rfl
        | some path => simp [files, mainFiles]
      | _ => rfl
    rw [filesOf, filesOf, List.map_append, List.map_append, own, ih]

/-! ### Answers -/

theorem answer_unformatted (call : Call) (workspace : Workspace) :
    target.answer unformatted call workspace =
      (((target.work workspace.pending call).1.run workspace.tree).1.mapError .generate,
        ⟨((target.work workspace.pending call).1.run workspace.tree).2,
          target.waiting workspace.pending call⟩) := by
  cases call
  case format => rfl
  all_goals
    unfold answer waiting
    dsimp only
    rcases target.work workspace.pending _ with ⟨work, pending⟩
    dsimp only
    rcases work.run workspace.tree with ⟨_ | _, reached⟩ <;> rfl

theorem tree_answer (call : Call) (workspace : Workspace) :
    (target.answer unformatted call workspace).2.tree =
      ((target.work workspace.pending call).1.run workspace.tree).2 := by
  rw [answer_unformatted]

theorem answer_formatter (call : Call) (workspace : Workspace) :
    (∃ directory, call = .format directory) ∨
      target.answer formatter call workspace = target.answer unformatted call workspace := by
  cases call
  case format directory => exact .inl ⟨directory, rfl⟩
  all_goals exact .inr rfl

theorem pending_answer (call : Call) (workspace : Workspace) :
    (target.answer formatter call workspace).2.pending =
      target.waiting workspace.pending call := by
  rcases answer_formatter call workspace with ⟨directory, rfl⟩ | same
  · unfold answer
    dsimp only
    split <;> rfl
  · rw [same, answer_unformatted]

theorem answer_ok {call : Call} {workspace : Workspace} {package : String}
    (reply : (target.answer formatter call workspace).1 = .ok package) :
    ((target.work workspace.pending call).1.run workspace.tree).1 = .ok package := by
  rcases answer_formatter call workspace with ⟨directory, rfl⟩ | same
  · unfold answer at reply
    dsimp only at reply
    split at reply
    · exact congrArg Except.ok (Except.ok.inj reply)
    · cases reply
  · rw [same, answer_unformatted] at reply
    cases result : ((target.work workspace.pending call).1.run workspace.tree).1 with
    | error failure =>
      rw [result] at reply
      cases reply
    | ok found =>
      rw [result] at reply
      exact congrArg Except.ok (Except.ok.inj reply)

/-! ### Runs -/

variable {α : Type}

theorem package_of_exchange {process : Process α} {workspace : Workspace}
    {exchange : Call × Answer}
    (member : exchange ∈ process.exchanges (target.answer formatter) workspace) {package : String}
    (reply : exchange.2 = .ok package) : package = target.package exchange.1 := by
  obtain ⟨reached, answered⟩ := Process.answered_of_mem_exchanges member
  exact package_of_success (answer_ok (answered.trans reply))

theorem writes_cons (visit : Call × Workspace) (visits : List (Call × Workspace)) :
    target.writes (visit :: visits) =
      (target.work visit.2.pending visit.1).1.performed visit.2.tree ++ target.writes visits :=
  List.flatMap_cons

theorem readings_cons (visit : Call × Workspace) (visits : List (Call × Workspace)) :
    target.readings (visit :: visits) =
      (target.work visit.2.pending visit.1).1.readings visit.2.tree ++ target.readings visits :=
  List.flatMap_cons

theorem failed?_cons (visit : Call × Workspace) (visits : List (Call × Workspace)) :
    target.failed? (visit :: visits) =
      ((target.work visit.2.pending visit.1).1.failed? visit.2.tree).or
        (target.failed? visits) := by
  unfold failed?
  rw [List.findSome?_cons]
  cases (target.work visit.2.pending visit.1).1.failed? visit.2.tree <;> rfl

theorem answer_of_failed? (formatter : Formatter) {call : Call} {workspace : Workspace}
    {file : HostPath × String}
    (failed : (target.work workspace.pending call).1.failed? workspace.tree = some file) :
    ∃ cause, (target.answer formatter call workspace).1 = .error cause := by
  cases reply : (target.answer formatter call workspace).1 with
  | error cause => exact ⟨cause, rfl⟩
  | ok package =>
    rw [FileWork.failed?_of_success (answer_ok reply)] at failed
    cases failed

theorem disturbed_run {process : Process α} (fast : process.FailFast) (workspace : Workspace) :
    let visits := process.visits (target.answer unformatted) workspace
    workspace.tree.Disturbed (target.writes visits) (target.failed? visits)
      (process.run (target.answer unformatted) workspace).2.tree := by
  induction process generalizing workspace with
  | done => exact .refl workspace.tree
  | call c next ih =>
    have first := (target.work workspace.pending c).1.disturbed_run workspace.tree
    have rest := ih (target.answer unformatted c workspace).1 (fast.of_reply _)
      (target.answer unformatted c workspace).2
    rw [tree_answer] at rest
    rw [Process.visits_call]
    dsimp only
    rw [writes_cons, failed?_cons]
    cases failed : (target.work workspace.pending c).1.failed? workspace.tree with
    | none =>
      rw [failed] at first
      exact FileTree.Updated.disturbed first rest
    | some file =>
      -- the call is the last one, so that nothing is written after the write that fails
      obtain ⟨cause, reply⟩ := answer_of_failed? unformatted failed
      rw [failed] at first
      rw [Process.run_call, reply, fast.1 cause]
      change workspace.tree.Disturbed (_ ++ []) (some file)
        (target.answer unformatted c workspace).2.tree
      rw [List.append_nil, tree_answer]
      exact first

theorem exists_answer_of_success {c : Call} {next : Answer → Process α}
    (fast : (Process.call c next).FailFast) {workspace reached : Workspace} {value : α}
    (success : ((next (target.answer formatter c workspace).1).run
      (target.answer formatter) reached).1 = .ok value) :
    ∃ package, (target.answer formatter c workspace).1 = .ok package := by
  cases reply : (target.answer formatter c workspace).1 with
  | error cause =>
    rw [reply, fast.1 cause] at success
    cases success
  | ok package => exact ⟨package, rfl⟩

theorem failed?_of_success {process : Process α} (fast : process.FailFast) {workspace : Workspace}
    {value : α} (success : (process.run (target.answer formatter) workspace).1 = .ok value) :
    target.failed? (process.visits (target.answer formatter) workspace) = none := by
  induction process generalizing workspace with
  | done => rfl
  | call c next ih =>
    rw [Process.run_call] at success
    obtain ⟨package, reply⟩ := exists_answer_of_success fast success
    rw [Process.visits_call, failed?_cons, FileWork.failed?_of_success (answer_ok reply),
      Option.none_or]
    exact ih _ (fast.of_reply _) success

theorem updated_run {process : Process α} (fast : process.FailFast) {workspace : Workspace}
    {value : α} (success : (process.run (target.answer unformatted) workspace).1 = .ok value) :
    workspace.tree.Updated (target.writes (process.visits (target.answer unformatted) workspace))
      (process.run (target.answer unformatted) workspace).2.tree := by
  have disturbed := target.disturbed_run fast workspace
  dsimp only at disturbed
  rw [failed?_of_success fast success] at disturbed
  exact disturbed

/-- The calls of a run write their files one after the other, up to a call that fails. -/
theorem writes_first {process : Process α} (fast : process.FailFast) {workspace : Workspace}
    (watching : ∀ call ∈ process.calls (target.answer formatter) workspace, call.Watching)
    (read : ∀ reading ∈ target.readings (process.visits (target.answer formatter) workspace),
      ∀ text, reading.2.readText reading.1 = .ok text → text = template) :
    let made := target.filesOf template workspace.pending
      (process.calls (target.answer formatter) workspace)
    let visits := process.visits (target.answer formatter) workspace
    target.writes visits ++ (target.failed? visits).toList <+: made ∧
      ((∀ exchange ∈ process.exchanges (target.answer formatter) workspace,
        ∃ package, exchange.2 = .ok package) →
          target.failed? visits = none ∧ target.writes visits = made) := by
  induction process generalizing workspace with
  | done => exact ⟨List.nil_prefix, fun _ => ⟨rfl, rfl⟩⟩
  | call c next ih =>
    rw [Process.visits_call, readings_cons] at read
    rw [Process.calls_call] at watching
    have meets := work_meets (watching c List.mem_cons_self)
      fun reading member => read reading (List.mem_append_left _ member)
    have rest := ih (target.answer formatter c workspace).1 (fast.of_reply _)
      (fun call member => watching call (List.mem_cons_of_mem _ member))
      (fun reading member => read reading (List.mem_append_right _ member))
    rw [pending_answer] at rest
    rw [Process.visits_call, Process.calls_call, Process.exchanges_call]
    dsimp only
    rw [writes_cons, failed?_cons, filesOf]
    cases reply : (target.answer formatter c workspace).1 with
    | error cause =>
      rw [fast.1 cause]
      refine ⟨?_, fun succeeded => ?_⟩
      · change (_ ++ []) ++ (Option.or _ none).toList <+: _ ++ []
        rw [List.append_nil, List.append_nil, Option.or_none]
        exact meets.started
      · obtain ⟨package, success⟩ := succeeded _ List.mem_cons_self
        cases success
    | ok package =>
      rw [reply] at rest
      rw [(meets.finished package (answer_ok reply)).2,
        FileWork.failed?_of_success (answer_ok reply), Option.none_or, List.append_assoc]
      refine ⟨(List.prefix_append_right_inj _).mpr rest.1, fun succeeded => ?_⟩
      obtain ⟨none, whole⟩ :=
        rest.2 fun exchange member => succeeded exchange (List.mem_cons_of_mem _ member)
      exact ⟨none, by rw [whole]⟩

/-- Calls of which none is made twice read one template at most. -/
theorem length_readings {visits : List (Call × Workspace)}
    (apart : (visits.map (·.1)).Pairwise CallOrder.Apart) :
    (target.readings visits).length ≤ 1 := by
  induction visits with
  | nil => exact Nat.zero_le 1
  | cons visit rest ih =>
    obtain ⟨first, later⟩ := List.pairwise_cons.mp apart
    have own := target.length_readings_work visit.2.pending visit.1 visit.2.tree
    rw [readings_cons]
    cases silent : (target.work visit.2.pending visit.1).1.readings visit.2.tree with
    | nil => exact ih later
    | cons reading more =>
      have member : reading ∈ (target.work visit.2.pending visit.1).1.readings visit.2.tree := by
        rw [silent]
        exact List.mem_cons_self
      obtain ⟨⟨controllers, setup⟩, _⟩ := setup_of_mem_readings member
      have none : target.readings rest = [] := by
        apply List.flatMap_eq_nil_iff.mpr
        intro other present
        apply List.eq_nil_iff_forall_not_mem.mpr
        intro again found
        obtain ⟨⟨others, sameSetup⟩, _⟩ := setup_of_mem_readings found
        apply first other.1 (List.mem_map_of_mem present)
        change visit.1.site = other.1.site
        rw [setup, sameSetup]
        rfl
      rw [← silent, none, List.append_nil]
      exact own

end Emit.Target

namespace Config

open Emit (Target)
open Emit.Target (Formatter Workspace unformatted)

variable (config : Config) (output : HostPath)

def target : Target := ⟨output, config.layout⟩

def visitsInto (formatter : Formatter) (tree : FileTree) : List (Call × Workspace) :=
  (config.generation output).visits ((config.target output).answer formatter) ⟨tree, .empty⟩

/-- The texts that a run writes, call by call. -/
def writesInto (formatter : Formatter) (tree : FileTree) : List (HostPath × String) :=
  (config.target output).writes (config.visitsInto output formatter tree)

/-- The write of a run that the host fails. -/
def failedInto? (formatter : Formatter) (tree : FileTree) : Option (HostPath × String) :=
  (config.target output).failed? (config.visitsInto output formatter tree)

def readingsInto (formatter : Formatter) (tree : FileTree) : List (HostPath × FileTree) :=
  (config.target output).readings (config.visitsInto output formatter tree)

def plannedCalls : List Call :=
  match config.validate with
  | .error _ => []
  | .ok () => CallOrder.runCalls config (config.target output).package output

/-- The texts that a run writes that the host never fails. -/
def plannedWrites (template : String) : List (HostPath × String) :=
  (config.target output).filesOf template .empty (config.plannedCalls output)

variable {config output}

theorem plannedCalls_eq_follow :
    config.plannedCalls output =
      ((config.generation output).follow (config.target output).package).1 := by
  unfold plannedCalls
  cases valid : config.validate with
  | error cause => rw [generation_of_invalid valid, Process.follow_fail]
  | ok => rw [follow_generation valid]

theorem plannedCalls_apart : (config.plannedCalls output).Pairwise CallOrder.Apart := by
  unfold plannedCalls
  split
  · exact .nil
  · exact CallOrder.runCalls_apart output

theorem watching_of_planned {call : Call} (planned : call ∈ config.plannedCalls output) :
    call.Watching := by
  unfold plannedCalls at planned
  split at planned
  case h_1 => cases planned
  case h_2 =>
  rcases CallOrder.mem_runCalls planned with ⟨entry, _, own⟩ | closing
  · rcases List.mem_append.mp own with versions | conversions
    · obtain ⟨version, _, member⟩ := List.mem_flatMap.mp versions
      rcases CallOrder.mem_versionCalls.mp member with rfl | ⟨resource, _, rfl | rfl⟩
      · exact trivial
      · change (if _ then _ else _) ≠ ""
        split
        · exact config.layout.apiPackage_ne_empty _ _
        · exact config.layout.apiPackage_ne_empty _ _
      · exact trivial
    · rcases List.mem_append.mp conversions with member | member
      · obtain ⟨version, _, made⟩ := List.mem_filterMap.mp member
        obtain ⟨_, rfl⟩ := CallOrder.conversionCall?_eq_some_iff.mp made
        exact trivial
      · obtain ⟨version, _, made⟩ := List.mem_filterMap.mp member
        obtain ⟨_, rfl⟩ := CallOrder.conversionCall?_eq_some_iff.mp made
        exact trivial
  · simp only [CallOrder.closingCalls, List.mem_cons, List.not_mem_nil, or_false] at closing
    rcases closing with rfl | rfl | rfl | rfl | rfl <;> exact trivial

theorem closing_of_planned {call : Call} (planned : call ∈ config.plannedCalls output)
    (grouped : call.site.group? = none) :
    call ∈ CallOrder.closingCalls config (config.target output).package output := by
  unfold plannedCalls at planned
  split at planned
  case h_1 => cases planned
  case h_2 =>
    rcases CallOrder.mem_runCalls planned with ⟨entry, inTable, own⟩ | closing
    · have label := CallOrder.group?_of_mem_ownCalls (config.table_wellPlaced entry inTable) own
      rw [grouped] at label
      cases label
    · exact closing

theorem mainTemplate?_of_planned {controllers : ControllerMap} {mainTemplate? : Option HostPath}
    (planned : .setup controllers mainTemplate? ∈ config.plannedCalls output) :
    mainTemplate? = config.mainTemplate? := by
  have closing := closing_of_planned planned rfl
  simp only [CallOrder.closingCalls, List.mem_cons, List.not_mem_nil, or_false] at closing
  rcases closing with same | same | same | same | same
  case inr.inr.inl => exact (Call.setup.inj same).2
  all_goals cases same

theorem follow_ne_work (returned : Call → String) (unit : WorkUnit) (cause : CallFailure) :
    ((config.generation output).follow returned).2 ≠ .error (.work unit cause) := by
  cases valid : config.validate with
  | error cause =>
    rw [generation_of_invalid valid, Process.follow_fail]
    exact nofun
  | ok =>
    rw [follow_generation valid]
    change CallOrder.outcome config returned ≠ _
    unfold CallOrder.outcome
    split <;> exact nofun

variable {formatter : Formatter} {tree : FileTree}

/-- How the calls of a run end: all of them are made and succeed, or the planned ones are made up to
one that fails. -/
theorem planned_or_failed (config : Config) (output : HostPath) (formatter : Formatter)
    (tree : FileTree) :
    let answer := (config.target output).answer formatter
    let made := (config.generation output).calls answer ⟨tree, .empty⟩
    let answered := (config.generation output).exchanges answer ⟨tree, .empty⟩
    let result := (config.generateInto output formatter tree).1
    made <+: config.plannedCalls output ∧
      ((∀ exchange ∈ answered, ∃ package, exchange.2 = .ok package) ∧
          made = config.plannedCalls output ∧
          result = ((config.generation output).follow (config.target output).package).2 ∨
        ∃ exchange ∈ answered, ∃ cause, exchange.2 = .error cause ∧
          result = .error (.work exchange.1.workUnit cause)) := by
  intro answer made answered result
  rw [plannedCalls_eq_follow]
  rcases (config.generation_failFast output).followed fun exchange member package reply =>
      Emit.Target.package_of_exchange member reply with all | ⟨calls, failed⟩
  · obtain ⟨calls, ended⟩ := Process.eq_follow all
    refine ⟨calls ▸ List.prefix_refl _, .inl ⟨fun exchange member => ?_, calls, ended⟩⟩
    exact ⟨_, all exchange member⟩
  · exact ⟨calls, .inr failed⟩

theorem made_apart {made : List Call} (planned : made <+: config.plannedCalls output) :
    made.Pairwise CallOrder.Apart :=
  plannedCalls_apart.sublist planned.sublist

theorem length_readingsInto (config : Config) (output : HostPath) (formatter : Formatter)
    (tree : FileTree) : (config.readingsInto output formatter tree).length ≤ 1 := by
  have planned := (config.planned_or_failed output formatter tree).1
  rw [Process.calls_eq_visits] at planned
  exact Emit.Target.length_readings (made_apart planned)

/-- Whatever the formatter does, a run writes the planned texts: all of them, or, if a call fails,
the first of them. -/
theorem writesInto_planned {template : String}
    (read : ∀ reading ∈ config.readingsInto output formatter tree,
      ∀ text, reading.2.readText reading.1 = .ok text → text = template) :
    config.writesInto output formatter tree ++ (config.failedInto? output formatter tree).toList <+:
        config.plannedWrites output template ∧
      ((∀ unit cause, (config.generateInto output formatter tree).1 ≠ .error (.work unit cause)) →
        config.failedInto? output formatter tree = none ∧
          config.writesInto output formatter tree = config.plannedWrites output template) := by
  obtain ⟨planned, ended⟩ := config.planned_or_failed output formatter tree
  have watching := fun call member => watching_of_planned (planned.subset (a := call) member)
  obtain ⟨started, finished⟩ :=
    Emit.Target.writes_first (config.generation_failFast output) watching read
  refine ⟨started.trans (Emit.Target.filesOf_first planned _), fun sound => ?_⟩
  rcases ended with ⟨succeeded, all, _⟩ | ⟨exchange, _, cause, _, blamed⟩
  · exact ⟨(finished succeeded).1, (finished succeeded).2.trans (by rw [all]; rfl)⟩
  · exact absurd blamed (sound _ _)

theorem ofHost_of_work {unit : WorkUnit} {cause : CallFailure}
    (failed : (config.generateInto output unformatted tree).1 = .error (.work unit cause)) :
    ∃ failure : GenerateFailure, cause = .generate failure ∧ failure.OfHost := by
  obtain ⟨planned, ended⟩ := config.planned_or_failed output unformatted tree
  rcases ended with ⟨_, _, result⟩ | ⟨exchange, member, reason, reply, blamed⟩
  · exact absurd (result.symm.trans failed) (follow_ne_work _ _ _)
  · have made : exchange.1 ∈ config.plannedCalls output := by
      apply planned.subset
      rw [Process.calls_eq_exchanges]
      exact List.mem_map_of_mem member
    have same : cause = reason := by
      rw [blamed] at failed
      cases failed
      rfl
    obtain ⟨reached, answered⟩ := Process.answered_of_mem_exchanges member
    rw [Emit.Target.answer_unformatted, reply] at answered
    obtain ⟨template, read⟩ := Emit.Target.exists_template
      ((config.target output).length_readings_work reached.pending
        exchange.1 reached.tree)
    have meets := Emit.Target.work_meets (watching_of_planned made) read
    cases outcome : (((config.target output).work reached.pending exchange.1).1.run
        reached.tree).1 with
    | ok package =>
      rw [outcome] at answered
      cases answered
    | error failure =>
      rw [outcome] at answered
      exact ⟨failure, same.trans (Except.error.inj answered).symm, meets.excused failure outcome⟩

theorem disturbed_generateInto (config : Config) (output : HostPath) (tree : FileTree) :
    tree.Disturbed (config.writesInto output unformatted tree)
      (config.failedInto? output unformatted tree)
      (config.generateInto output unformatted tree).2 :=
  (Emit.Target.disturbed_run (config.generation_failFast output) ⟨tree, .empty⟩).with_faults []

theorem updated_generateInto {summary : Summary}
    (generated : (config.generateInto output unformatted tree).1 = .ok summary) :
    tree.Updated (config.writesInto output unformatted tree)
      (config.generateInto output unformatted tree).2 := by
  have disturbed := config.disturbed_generateInto output tree
  have none : config.failedInto? output unformatted tree = none :=
    Emit.Target.failed?_of_success (config.generation_failFast output) generated
  rw [none] at disturbed
  exact disturbed

/-- What an unformatted run does to a file tree, however it ends. The texts that it writes account
for all that changes, up to a write that the host fails: the file of each written path holds its
last text, all others are untouched, and no more than directories come up besides; the write that
fails may leave the first bytes of its text in its own file. Together they are the planned texts, or
the first of them if the host fails a call. A single text that cannot be written changes no file,
unless the host fails it after it has opened the file, and then no other. -/
theorem generation_effect (config : Config) (output : HostPath) (tree : FileTree) :
    let writes := config.writesInto output unformatted tree
    let failed? := config.failedInto? output unformatted tree
    let run := config.generateInto output unformatted tree
    tree.Disturbed writes failed? run.2 ∧
    (∃ template,
      (∀ reading ∈ config.readingsInto output unformatted tree,
        ∀ text, reading.2.readText reading.1 = .ok text → text = template) ∧
      writes ++ failed?.toList <+: config.plannedWrites output template ∧
      ((∀ unit cause, run.1 ≠ .error (.work unit cause)) →
        failed? = none ∧ writes = config.plannedWrites output template)) ∧
    (∀ unit cause, run.1 = .error (.work unit cause) →
      ∃ failure : GenerateFailure, cause = .generate failure ∧ failure.OfHost) ∧
    ∀ path text cause reached, tree.writeText path text = (.error cause, reached) →
      tree.Broken (path, text) reached ∧
        ((∀ count, tree.faults.head? ≠ some (some (.torn count cause))) →
          tree.Updated [] reached) := by
  intro writes failed? run
  refine ⟨config.disturbed_generateInto output tree, ?_, fun _ _ => ofHost_of_work,
    fun _ _ _ _ => FileTree.broken_of_writeText⟩
  obtain ⟨template, read⟩ := Emit.Target.exists_template
    (config.length_readingsInto output unformatted tree)
  exact ⟨template, read, writesInto_planned read⟩

def templated : Config := { networks with mainTemplate? := some ⟨"main.tmpl"⟩ }

def templates : FileTree where
  workingDirectory := ["home"]
  entries := ⟨[(["home"], .directory), (["home", "main.tmpl"], .file "package main".toUTF8)],
    by decide⟩

theorem templated_generates :
    (templated.generateInto ⟨"out"⟩ unformatted templates).1.isOk = true := by
  decide +kernel

theorem templated_effect :
    let writes := templated.writesInto ⟨"out"⟩ unformatted templates
    let run := templated.generateInto ⟨"out"⟩ unformatted templates
    (∀ unit cause, run.1 ≠ .error (.work unit cause)) ∧ templates.Updated writes run.2 ∧
      ∃ template, writes = templated.plannedWrites ⟨"out"⟩ template := by
  intro writes run
  have sound (unit : WorkUnit) (cause : CallFailure) : run.1 ≠ .error (.work unit cause) := by
    intro failed
    have generated := templated_generates
    rw [failed] at generated
    cases generated
  obtain ⟨disturbed, ⟨template, _, _, whole⟩, _⟩ := generation_effect templated ⟨"out"⟩ templates
  obtain ⟨none, planned⟩ := whole sound
  rw [none] at disturbed
  exact ⟨sound, disturbed, template, planned⟩

def full : FileTree where
  workingDirectory := ["home"]
  entries := ⟨[(["home"], .directory), (["home", "out"], .directory),
    (["home", "out", "apis"], .directory), (["home", "out", "apis", "aws"], .directory),
    (["home", "out", "apis", "aws", "v1"], .directory),
    (["home", "out", "apis", "aws", "v1", "zz_settings_types.go"],
      .file "package v1\n".toUTF8)], by decide⟩
  faults := [some (.torn 0 (.other "No space left on device (os error 28)"))]

/-- A run that cannot write its first file leaves it empty. -/
theorem full_emptied :
    let path : HostPath := ⟨"out/apis/aws/v1/zz_settings_types.go"⟩
    let run := networks.generateInto ⟨"out"⟩ unformatted full
    run.1 = .error (.work (.types "aws.example" "v1")
      (.generate (.io (.other "No space left on device (os error 28)")))) ∧
    networks.writesInto ⟨"out"⟩ unformatted full = [] ∧
    full.readText path = .ok "package v1\n" ∧ run.2.readText path = .ok "" ∧
    (full.writeText path "package v1\n").1 =
      .error (.other "No space left on device (os error 28)") ∧
    (full.writeText path "package v1\n").2.readText path = .ok "" := by
  decide +kernel

end Config

end ProviderGen
