import ProviderGen.Proofs.RunTrace

/-!
The first failure ends a run. When one call of a stage fails, the calls that were made are those of
the run without this failure, up to the call that failed, and the run reports the work that this
call was made for.
-/

namespace ProviderGen

inductive Stage where
  | types
  | controllers
  | examples
  | conversions
  | store
  | registration
  | provider
  | format
deriving DecidableEq, Repr

def Call.stage : Call → Stage
  | .types _ _ _ => .types
  | .controller _ _ _ _ => .controllers
  | .manifest _ _ _ => .examples
  | .conversion _ _ _ _ => .conversions
  | .store => .store
  | .register _ => .registration
  | .setup _ _ => .provider
  | .format _ => .format

def WorkUnit.stage : WorkUnit → Stage
  | .types _ _ => .types
  | .controller _ => .controllers
  | .manifest _ => .examples
  | .conversion _ _ _ => .conversions
  | .store => .store
  | .registration => .registration
  | .setup => .provider
  | .format _ => .format

/-- A call of a stage that failed, and a result that reports with the cause what the call was made
for. -/
def Stage.Reports (call : Call) (cause : CallFailure) (result : Except RunFailure Summary) :
    Stage → Prop
  | .types => ∃ group version resources, call = .types group version resources ∧
      result = .error (.work (.types group version) cause)
  | .controllers => ∃ group resource watchPackage featuresPackage?,
      call = .controller group resource watchPackage featuresPackage? ∧
        result = .error (.work (.controller resource.name) cause)
  | .examples => ∃ group version resource, call = .manifest group version resource ∧
      result = .error (.work (.manifest resource.name) cause)
  | .conversions => ∃ group version kind resources,
      call = .conversion group version kind resources ∧
        result = .error (.work (.conversion group version kind) cause)
  | .store => call = .store ∧ result = .error (.work .store cause)
  | .registration => (∃ packages, call = .register packages) ∧
      result = .error (.work .registration cause)
  | .provider => (∃ controllers mainTemplate?, call = .setup controllers mainTemplate?) ∧
      result = .error (.work .setup cause)
  | .format => ∃ directory, call = .format directory ∧
      result = .error (.work (.format directory) cause)

theorem Call.reports (call : Call) (cause : CallFailure) :
    call.stage.Reports call cause (.error (.work call.workUnit cause)) := by
  cases call with
  | types group version resources => exact ⟨group, version, resources, rfl, rfl⟩
  | controller group resource watchPackage features? =>
    exact ⟨group, resource, watchPackage, features?, rfl, rfl⟩
  | manifest group version resource => exact ⟨group, version, resource, rfl, rfl⟩
  | conversion group version kind resources => exact ⟨group, version, kind, resources, rfl, rfl⟩
  | store => exact ⟨rfl, rfl⟩
  | register packages => exact ⟨⟨packages, rfl⟩, rfl⟩
  | setup controllers mainTemplate? => exact ⟨⟨controllers, mainTemplate?, rfl⟩, rfl⟩
  | format directory => exact ⟨directory, rfl, rfl⟩

theorem Call.workUnit_stage (call : Call) : call.workUnit.stage = call.stage := by
  cases call <;> rfl

namespace Process

variable {α β σ : Type}

/-- A process that ends with each failure of a call and blames the work of this call. -/
def FailFast : Process α → Prop
  | .done _ => True
  | .call c next =>
    (∀ cause, next (.error cause) = .done (.error (.work c.workUnit cause))) ∧
      ∀ package, (next (.ok package)).FailFast

namespace FailFast

theorem pure (value : α) : (Pure.pure value : Process α).FailFast := trivial

theorem ask (c : Call) : (Process.ask c).FailFast := ⟨fun _ => rfl, fun _ => trivial⟩

theorem bind {process : Process α} {k : α → Process β} (first : process.FailFast)
    (rest : ∀ value, (k value).FailFast) : (process >>= k).FailFast := by
  induction process with
  | done result =>
    cases result with
    | error failure => exact trivial
    | ok value => exact rest value
  | call c next ih =>
    refine ⟨fun cause => ?_, fun package => ih (.ok package) (first.2 package)⟩
    change (next (.error cause)).bind k = _
    rw [first.1 cause]
    rfl

theorem foldlM {step : β → α → Process β} (each : ∀ value item, (step value item).FailFast)
    (items : List α) (value : β) : (items.foldlM step value).FailFast := by
  induction items generalizing value with
  | nil => exact trivial
  | cons item rest ih =>
    rw [List.foldlM_cons]
    exact (each value item).bind ih

theorem forM {step : α → Process Unit} (each : ∀ item, (step item).FailFast) (items : List α) :
    (items.forM step).FailFast := by
  induction items with
  | nil => exact trivial
  | cons item rest ih => exact (each item).bind fun _ => ih

theorem of_reply {c : Call} {next : Answer → Process α} (fast : (Process.call c next).FailFast)
    (reply : Answer) : (next reply).FailFast := by
  cases reply with
  | error cause =>
    rw [fast.1 cause]
    exact trivial
  | ok package => exact fast.2 package

end FailFast

/-- Collaborators of which one call fails: the call of the stage that comes after `n` others. All
other calls are answered as before. The calls of the stage are counted on the way. -/
def failingAt (stage : Stage) (n : Nat) (cause : CallFailure) (answer : Call → σ → Answer × σ)
    (call : Call) (state : Nat × σ) : Answer × (Nat × σ) :=
  let (reply, later) := answer call state.2
  if call.stage = stage then
    (if state.1 = n then .error cause else reply, (state.1 + 1, later))
  else (reply, (state.1, later))

def callsIn (stage : Stage) (calls : List Call) : Nat := calls.countP (·.stage = stage)

section Counting

variable {stage : Stage} {n made : Nat} {cause : CallFailure} {answer : Call → σ → Answer × σ}
  {call : Call} {state : σ}

theorem failingAt_other (other : call.stage ≠ stage) :
    failingAt stage n cause answer call (made, state) =
      ((answer call state).1, (made, (answer call state).2)) := by
  simp only [failingAt, if_neg other]

theorem failingAt_earlier (counted : call.stage = stage) (earlier : made ≠ n) :
    failingAt stage n cause answer call (made, state) =
      ((answer call state).1, (made + 1, (answer call state).2)) := by
  simp only [failingAt, if_pos counted, if_neg earlier]

theorem failingAt_reached (counted : call.stage = stage) :
    failingAt stage n cause answer call (n, state) =
      (.error cause, (n + 1, (answer call state).2)) := by
  simp only [failingAt, if_pos counted, if_true]

theorem callsIn_cons_other (other : call.stage ≠ stage) (calls : List Call) :
    callsIn stage (call :: calls) = callsIn stage calls :=
  List.countP_cons_of_neg (by simpa using other)

theorem callsIn_cons_counted (counted : call.stage = stage) (calls : List Call) :
    callsIn stage (call :: calls) = callsIn stage calls + 1 :=
  List.countP_cons_of_pos (by simpa using counted)

end Counting

variable {stage : Stage} {n : Nat} {cause : CallFailure} {answer : Call → σ → Answer × σ}

theorem failingAt_beyond (process : Process α) {made : Nat} {state : σ}
    (beyond : made + callsIn stage (process.calls answer state) ≤ n) :
    process.calls (failingAt stage n cause answer) (made, state) = process.calls answer state ∧
      (process.run (failingAt stage n cause answer) (made, state)).1 =
        (process.run answer state).1 := by
  induction process generalizing made state with
  | done => exact ⟨rfl, rfl⟩
  | call c next ih =>
    rw [calls_call] at beyond
    rw [calls_call, calls_call, run_call, run_call]
    by_cases counted : c.stage = stage
    · rw [callsIn_cons_counted counted] at beyond
      have earlier : made ≠ n := by omega
      have later : made + 1 +
          callsIn stage ((next (answer c state).1).calls answer (answer c state).2) ≤ n := by omega
      have rest := ih (answer c state).1 later
      rw [failingAt_earlier counted earlier]
      exact ⟨congrArg (c :: ·) rest.1, rest.2⟩
    · rw [callsIn_cons_other counted] at beyond
      rw [failingAt_other counted]
      have rest := ih (answer c state).1 beyond
      exact ⟨congrArg (c :: ·) rest.1, rest.2⟩

variable (cause) in
theorem FailFast.failingAt_within {process : Process α} (fast : process.FailFast) {made : Nat}
    {state : σ} (start : made ≤ n)
    (within : n < made + callsIn stage (process.calls answer state)) :
    ∃ before call after, process.calls answer state = before ++ call :: after ∧
      call.stage = stage ∧ made + callsIn stage before = n ∧
      process.calls (failingAt stage n cause answer) (made, state) = before ++ [call] ∧
      (process.run (failingAt stage n cause answer) (made, state)).1 =
        .error (.work call.workUnit cause) := by
  induction process generalizing made state with
  | done =>
    change n < made + 0 at within
    omega
  | call c next ih =>
    rw [calls_call] at within
    rw [calls_call, calls_call, run_call]
    by_cases counted : c.stage = stage
    · rw [callsIn_cons_counted counted] at within
      by_cases reached : made = n
      · subst reached
        rw [failingAt_reached counted, fast.1 cause]
        exact ⟨[], c, _, rfl, counted, rfl, rfl, rfl⟩
      · have earlier : made + 1 ≤ n := by omega
        have later : n < made + 1 +
            callsIn stage ((next (answer c state).1).calls answer (answer c state).2) := by omega
        rw [failingAt_earlier counted reached]
        obtain ⟨before, call, after, whole, inStage, place, made, result⟩ :=
          ih (answer c state).1 (fast.of_reply _) earlier later
        refine ⟨c :: before, call, after, congrArg (c :: ·) whole, inStage, ?_,
          congrArg (c :: ·) made, result⟩
        rw [callsIn_cons_counted counted]
        omega
    · rw [callsIn_cons_other counted] at within
      rw [failingAt_other counted]
      obtain ⟨before, call, after, whole, inStage, place, made, result⟩ :=
        ih (answer c state).1 (fast.of_reply _) start within
      refine ⟨c :: before, call, after, congrArg (c :: ·) whole, inStage, ?_,
        congrArg (c :: ·) made, result⟩
      rw [callsIn_cons_other counted]
      exact place

theorem FailFast.succeeded_of_run {process : Process α} (fast : process.FailFast) {state : σ}
    {value : α} (success : (process.run answer state).1 = .ok value) :
    ∀ exchange ∈ process.exchanges answer state, ∃ package, exchange.2 = .ok package := by
  induction process generalizing state with
  | done =>
    intro exchange member
    cases member
  | call c next ih =>
    rw [run_call] at success
    intro exchange member
    rw [exchanges_call] at member
    cases reply : (answer c state).1 with
    | error cause =>
      rw [reply, fast.1 cause] at success
      cases success
    | ok package =>
      rcases List.mem_cons.mp member with rfl | member
      · exact ⟨package, reply⟩
      · exact ih _ (fast.of_reply _) success exchange member

/-- Where calls that succeed return the named packages, a process makes the calls that are followed:
all of them, or those up to one that fails and is blamed. -/
theorem FailFast.followed {returned : Call → String} {process : Process α} (fast : process.FailFast)
    {state : σ} (agree : ∀ exchange ∈ process.exchanges answer state, ∀ package,
      exchange.2 = .ok package → package = returned exchange.1) :
    (∀ exchange ∈ process.exchanges answer state, exchange.2 = .ok (returned exchange.1)) ∨
      process.calls answer state <+: (process.follow returned).1 ∧
        ∃ exchange ∈ process.exchanges answer state, ∃ cause, exchange.2 = .error cause ∧
          (process.run answer state).1 = .error (.work exchange.1.workUnit cause) := by
  induction process generalizing state with
  | done =>
    refine .inl fun exchange member => ?_
    cases member
  | call c next ih =>
    rw [exchanges_call] at agree ⊢
    rw [calls_call, follow_call, run_call]
    cases reply : (answer c state).1 with
    | error cause =>
      rw [fast.1 cause]
      refine .inr ⟨?_, (c, .error cause), List.mem_cons_self, cause, rfl, rfl⟩
      exact (List.prefix_cons_inj c).mpr List.nil_prefix
    | ok package =>
      have named : package = returned c := agree _ List.mem_cons_self package reply
      subst named
      rw [reply] at agree
      rcases ih (.ok (returned c)) (fast.2 _)
          (fun exchange member => agree exchange (List.mem_cons_of_mem _ member)) with
        all | ⟨calls, exchange, member, cause, failed, blamed⟩
      · exact .inl (List.forall_mem_cons.mpr ⟨rfl, all⟩)
      · exact .inr ⟨(List.prefix_cons_inj c).mpr calls, exchange,
          List.mem_cons_of_mem _ member, cause, failed, blamed⟩

end Process

namespace Generation

open Process

variable (config : Config)

theorem resourceStep_failFast (group version package : String) (progress : Progress)
    (resource : Resource) :
    (resourceStep config group version package progress resource).FailFast :=
  (FailFast.ask _).bind fun _ => (FailFast.ask _).bind fun _ => .pure _

theorem versionStep_failFast (group : String) (progress : Progress) (entry : String × Bucket) :
    (versionStep config group progress entry).FailFast := by
  refine (FailFast.ask _).bind fun package => ?_
  have resources := FailFast.foldlM (resourceStep_failFast config group entry.1 package)
    entry.2.values progress
  exact resources.bind fun _ => .pure _

theorem conversionStep_failFast (group : String) (kind : NodeKind)
    (nodes : String × List Resource) : (conversionStep group kind nodes).FailFast :=
  (FailFast.ask _).bind fun _ => .pure _

theorem groupStep_failFast (progress : Progress) (entry : String × GroupVersions) :
    (groupStep config progress entry).FailFast := by
  have versions := FailFast.foldlM (versionStep_failFast config entry.1) entry.2.entries progress
  refine versions.bind fun _ => ?_
  cases GroupConversions.check entry.1 entry.2 with
  | error failure => exact trivial
  | ok conversions =>
    refine (FailFast.forM (conversionStep_failFast entry.1 .hub) _).bind fun _ => ?_
    exact (FailFast.forM (conversionStep_failFast entry.1 .spoke) _).bind fun _ => .pure _

theorem finish_failFast (output : HostPath) (progress : Progress) :
    (finish config output progress).FailFast := by
  refine (FailFast.ask _).bind fun _ => ?_
  refine (FailFast.ask _).bind fun _ => ?_
  refine (FailFast.ask _).bind fun _ => ?_
  have formats := FailFast.forM (fun directory : String =>
    (FailFast.ask (.format (output.join directory))).bind fun _ => .pure ())
    formattedDirectories
  exact formats.bind fun _ => .pure _

end Generation

namespace Config

open Process

theorem generation_failFast (config : Config) (output : HostPath) :
    (config.generation output).FailFast := by
  unfold Config.generation
  cases config.validate with
  | error cause => exact trivial
  | ok =>
    have groups := FailFast.foldlM (Generation.groupStep_failFast config)
      config.table.groups.entries (Generation.start config)
    exact groups.bind (Generation.finish_failFast config output)

/-- If a stage makes more than `n` calls in a run, then the failure of the one after `n` others
ends the same run there: the calls up to it were made and the work it was made for is reported with
the cause. Otherwise the failure is never met. -/
theorem generation_failingAt {σ : Type} (config : Config) (output : HostPath)
    (answer : Call → σ → Answer × σ) (state : σ) (stage : Stage) (n : Nat) (cause : CallFailure) :
    let whole := (config.generation output).calls answer state
    let failing := failingAt stage n cause answer
    let made := (config.generation output).calls failing (0, state)
    let result := ((config.generation output).run failing (0, state)).1
    (n < callsIn stage whole → ∃ before call after, whole = before ++ call :: after ∧
      callsIn stage before = n ∧ call.stage = stage ∧ call.workUnit.stage = stage ∧
      made = before ++ [call] ∧ result = .error (.work call.workUnit cause) ∧
      stage.Reports call cause result) ∧
    (callsIn stage whole ≤ n →
      made = whole ∧ result = ((config.generation output).run answer state).1) := by
  intro whole failing made result
  refine ⟨fun within => ?_, fun beyond => ?_⟩
  · obtain ⟨before, call, after, split, inStage, place, calls, reported⟩ :=
      (config.generation_failFast output).failingAt_within cause (Nat.zero_le n)
        (by rwa [Nat.zero_add])
    rw [Nat.zero_add] at place
    have reports := call.reports cause
    rw [inStage, ← reported] at reports
    exact ⟨before, call, after, split, place, inStage, call.workUnit_stage.trans inStage, calls,
      reported, reports⟩
  · exact failingAt_beyond _ (by rwa [Nat.zero_add])

theorem networks_failingAt :
    let run := networks.generation ⟨"/out"⟩
    let whole := run.calls counting 0
    let cause : CallFailure := .generate (.other "no space")
    let failed := (run.run (failingAt .controllers 1 cause counting) (0, 0)).1
    1 < callsIn .controllers whole ∧ callsIn .controllers whole ≤ 3 ∧
    (∃ before call after, whole = before ++ call :: after ∧ callsIn .controllers before = 1 ∧
      call.stage = .controllers ∧ call.workUnit.stage = .controllers ∧
      run.calls (failingAt .controllers 1 cause counting) (0, 0) = before ++ [call] ∧
      failed = .error (.work call.workUnit cause) ∧
      Stage.controllers.Reports call cause failed) ∧
    failed = .error (.work (.controller "vpc") cause) ∧
    (run.calls (failingAt .controllers 3 cause counting) (0, 0) = whole ∧
      (run.run (failingAt .controllers 3 cause counting) (0, 0)).1 = (run.run counting 0).1) :=
  ⟨by decide, by decide,
    (generation_failingAt networks ⟨"/out"⟩ counting 0 .controllers 1 _).1 (by decide), rfl,
    (generation_failingAt networks ⟨"/out"⟩ counting 0 .controllers 3 _).2 (by decide)⟩

end Config

end ProviderGen
