import Mathlib.Data.List.Nodup
import ProviderGen.Generation.Process

/-!
What a process does when its calls are answered. A process whose calls all succeed is followed by
naming the package that each call returns; as long as no call is made twice, such names exist for
collaborators with any state of their own.
-/

namespace ProviderGen.Process

variable {α β σ : Type}

theorem run_call (answer : Call → σ → Answer × σ) (c : Call) (next : Answer → Process α)
    (state : σ) : (Process.call c next).run answer state =
      (next (answer c state).1).run answer (answer c state).2 := rfl

theorem calls_call (answer : Call → σ → Answer × σ) (c : Call) (next : Answer → Process α)
    (state : σ) : (Process.call c next).calls answer state =
      c :: (next (answer c state).1).calls answer (answer c state).2 := rfl

def exchanges (answer : Call → σ → Answer × σ) : Process α → σ → List (Call × Answer)
  | .done _, _ => []
  | .call c next, state =>
    let (reply, later) := answer c state
    (c, reply) :: (next reply).exchanges answer later

theorem exchanges_call (answer : Call → σ → Answer × σ) (c : Call) (next : Answer → Process α)
    (state : σ) : (Process.call c next).exchanges answer state =
      (c, (answer c state).1) ::
        (next (answer c state).1).exchanges answer (answer c state).2 := rfl

theorem calls_eq_exchanges (answer : Call → σ → Answer × σ) (process : Process α) (state : σ) :
    process.calls answer state = (process.exchanges answer state).map (·.1) := by
  induction process generalizing state with
  | done => rfl
  | call c next ih => rw [calls_call, exchanges_call, List.map_cons, ih]

def visits (answer : Call → σ → Answer × σ) : Process α → σ → List (Call × σ)
  | .done _, _ => []
  | .call c next, state =>
    let (reply, later) := answer c state
    (c, state) :: (next reply).visits answer later

theorem visits_call (answer : Call → σ → Answer × σ) (c : Call) (next : Answer → Process α)
    (state : σ) : (Process.call c next).visits answer state =
      (c, state) :: (next (answer c state).1).visits answer (answer c state).2 := rfl

theorem calls_eq_visits (answer : Call → σ → Answer × σ) (process : Process α) (state : σ) :
    process.calls answer state = (process.visits answer state).map (·.1) := by
  induction process generalizing state with
  | done => rfl
  | call c next ih => rw [calls_call, visits_call, List.map_cons, ih]

theorem answered_of_mem_exchanges {answer : Call → σ → Answer × σ} {process : Process α}
    {state : σ} {exchange : Call × Answer} (member : exchange ∈ process.exchanges answer state) :
    ∃ reached, (answer exchange.1 reached).1 = exchange.2 := by
  induction process generalizing state with
  | done => cases member
  | call c next ih =>
    rw [exchanges_call] at member
    rcases List.mem_cons.mp member with rfl | member
    · exact ⟨state, rfl⟩
    · exact ih _ member

theorem succeeded_of_obliging {answer : Call → σ → Answer × σ}
    (obliging : ∀ call state, ∃ package, (answer call state).1 = .ok package)
    (process : Process α) (state : σ) :
    ∀ exchange ∈ process.exchanges answer state, ∃ package, exchange.2 = .ok package := by
  intro exchange member
  obtain ⟨reached, reply⟩ := answered_of_mem_exchanges member
  rw [← reply]
  exact obliging exchange.1 reached

/-- The calls and the result of a process whose calls succeed with the named packages. -/
def follow (returned : Call → String) : Process α → List Call × Except RunFailure α
  | .done result => ([], result)
  | .call c next =>
    let rest := (next (.ok (returned c))).follow returned
    (c :: rest.1, rest.2)

section Following

variable {returned : Call → String}

theorem follow_call (c : Call) (next : Answer → Process α) :
    (Process.call c next).follow returned =
      (c :: ((next (.ok (returned c))).follow returned).1,
        ((next (.ok (returned c))).follow returned).2) := rfl

@[simp] theorem follow_pure (value : α) :
    (pure value : Process α).follow returned = ([], .ok value) := rfl

@[simp] theorem follow_fail (failure : RunFailure) :
    (fail failure : Process α).follow returned = ([], .error failure) := rfl

@[simp] theorem follow_ask (c : Call) : (ask c).follow returned = ([c], .ok (returned c)) := rfl

theorem follow_bind {process : Process α} {k : α → Process β} {made later : List Call} {value : α}
    {result : Except RunFailure β} (first : process.follow returned = (made, .ok value))
    (rest : (k value).follow returned = (later, result)) :
    (process >>= k).follow returned = (made ++ later, result) := by
  induction process generalizing made with
  | done ended =>
    obtain ⟨rfl, rfl⟩ := Prod.mk.inj first
    exact rest
  | call c next ih =>
    rw [follow_call] at first
    obtain ⟨rfl, succeeded⟩ := Prod.mk.inj first
    have tail := ih (.ok (returned c)) (Prod.ext rfl succeeded)
    change (Process.call c fun answer => next answer >>= k).follow returned = _
    rw [follow_call, tail]
    rfl

theorem follow_bind_silent {process : Process α} {k : α → Process β} {made : List Call} {value : α}
    {result : Except RunFailure β} (first : process.follow returned = (made, .ok value))
    (rest : (k value).follow returned = ([], result)) :
    (process >>= k).follow returned = (made, result) := by
  have whole := follow_bind first rest
  rwa [List.append_nil] at whole

theorem follow_ask_bind {c : Call} {k : String → Process α} {later : List Call}
    {result : Except RunFailure α} (rest : (k (returned c)).follow returned = (later, result)) :
    (ask c >>= k).follow returned = (c :: later, result) :=
  follow_bind (follow_ask c) rest

theorem follow_bind_failed {process : Process α} {k : α → Process β} {made : List Call}
    {failure : RunFailure} (failed : process.follow returned = (made, .error failure)) :
    (process >>= k).follow returned = (made, .error failure) := by
  induction process generalizing made with
  | done ended =>
    obtain ⟨rfl, rfl⟩ := Prod.mk.inj failed
    rfl
  | call c next ih =>
    rw [follow_call] at failed
    obtain ⟨rfl, reason⟩ := Prod.mk.inj failed
    have tail := ih (.ok (returned c)) (Prod.ext rfl reason)
    change (Process.call c fun answer => next answer >>= k).follow returned = _
    rw [follow_call, tail]

theorem follow_foldlM {step : β → α → Process β} {made : α → List Call} {advance : β → α → β}
    (each : ∀ value item, (step value item).follow returned = (made item, .ok (advance value item)))
    (items : List α) (value : β) :
    (items.foldlM step value).follow returned =
      (items.flatMap made, .ok (items.foldl advance value)) := by
  induction items generalizing value with
  | nil => rfl
  | cons item rest ih =>
    rw [List.foldlM_cons, List.flatMap_cons, List.foldl_cons]
    exact follow_bind (each value item) (ih _)

theorem follow_forM {step : α → Process Unit} {made : α → List Call}
    (each : ∀ item, (step item).follow returned = (made item, .ok ())) (items : List α) :
    (items.forM step).follow returned = (items.flatMap made, .ok ()) := by
  induction items with
  | nil => rfl
  | cons item rest ih =>
    rw [List.flatMap_cons]
    exact follow_bind (each item) ih

theorem eq_follow {answer : Call → σ → Answer × σ} {process : Process α} {state : σ}
    (agree : ∀ exchange ∈ process.exchanges answer state, exchange.2 = .ok (returned exchange.1)) :
    process.calls answer state = (process.follow returned).1 ∧
      (process.run answer state).1 = (process.follow returned).2 := by
  induction process generalizing state with
  | done => exact ⟨rfl, rfl⟩
  | call c next ih =>
    rw [exchanges_call] at agree
    have reply : (answer c state).1 = .ok (returned c) := agree _ List.mem_cons_self
    have tail := ih _ fun exchange member => agree exchange (List.mem_cons_of_mem _ member)
    rw [reply] at tail
    rw [calls_call, run_call, follow_call, reply, tail.1, tail.2]
    exact ⟨rfl, rfl⟩

end Following

/-- Successful calls of which none is made twice return packages that depend on the call alone. -/
theorem exists_returned {answer : Call → σ → Answer × σ} {process : Process α} {state : σ}
    (once : (process.calls answer state).Nodup)
    (succeeded : ∀ exchange ∈ process.exchanges answer state, ∃ package, exchange.2 = .ok package) :
    ∃ returned : Call → String,
      ∀ exchange ∈ process.exchanges answer state, exchange.2 = .ok (returned exchange.1) := by
  classical
  rw [calls_eq_exchanges] at once
  refine ⟨fun c => if found : ∃ package, (c, .ok package) ∈ process.exchanges answer state
    then found.choose else "", ?_⟩
  intro exchange member
  obtain ⟨package, reply⟩ := succeeded exchange member
  have found : ∃ package, (exchange.1, .ok package) ∈ process.exchanges answer state :=
    ⟨package, by rw [← reply]; exact member⟩
  simp only [dif_pos found]
  have same := List.inj_on_of_nodup_map once member found.choose_spec rfl
  exact congrArg Prod.snd same

end ProviderGen.Process
