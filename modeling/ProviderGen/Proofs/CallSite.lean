import ProviderGen.Generation.Run
import ProviderGen.Proofs.Process

/-!
Where in a run a call is made. Which calls are made, and for which groups, versions and resources,
is settled by the configuration alone; the packages that are returned only show up inside later
calls.
-/

namespace ProviderGen

/-- The place of a call in a run, without what earlier answers decide about it. -/
inductive CallSite where
  | types (group version : String)
  | controller (group version name : String)
  | manifest (group version name : String)
  | conversion (group version : String) (kind : NodeKind)
  | store
  | register
  | setup
  | format (directory : HostPath)
deriving DecidableEq, Repr

def Call.site : Call → CallSite
  | .types group version _ => .types group version
  | .controller group resource _ _ => .controller group resource.version resource.name
  | .manifest group version resource => .manifest group version resource.name
  | .conversion group version kind _ => .conversion group version kind
  | .store => .store
  | .register _ => .register
  | .setup _ _ => .setup
  | .format directory => .format directory

namespace Process

variable {α β σ : Type}

/-- Two processes whose calls are made at the same places as long as they succeed, whatever packages
they return, and that then both have a value or both fail. -/
inductive Alike : Process α → Process α → Prop
  | value (a b : α) : Alike (.done (.ok a)) (.done (.ok b))
  | failure (f g : RunFailure) : Alike (.done (.error f)) (.done (.error g))
  | call {c d : Call} {next later : Answer → Process α} (sites : c.site = d.site)
      (rest : ∀ package other, Alike (next (.ok package)) (later (.ok other))) :
      Alike (.call c next) (.call d later)

namespace Alike

theorem pure (a b : α) : Alike (Pure.pure a : Process α) (Pure.pure b) := .value a b

theorem ask {c d : Call} (sites : c.site = d.site) :
    Alike (Process.ask c) (Process.ask d) :=
  .call sites fun package other => .value package other

theorem bind {p q : Process α} {k l : α → Process β} (first : Alike p q)
    (rest : ∀ a b, Alike (k a) (l b)) : Alike (p >>= k) (q >>= l) := by
  induction first with
  | value a b => exact rest a b
  | failure f g => exact .failure f g
  | call sites _ ih => exact .call sites ih

theorem foldlM {step other : β → α → Process β}
    (each : ∀ a b item, Alike (step a item) (other b item)) (items : List α) (a b : β) :
    Alike (items.foldlM step a) (items.foldlM other b) := by
  induction items generalizing a b with
  | nil => exact .value a b
  | cons item rest ih =>
    rw [List.foldlM_cons, List.foldlM_cons]
    exact (each a b item).bind ih

theorem forM {step : α → Process Unit} (each : ∀ item, Alike (step item) (step item))
    (items : List α) : Alike (items.forM step) (items.forM step) := by
  induction items with
  | nil => exact .value () ()
  | cons item rest ih => exact (each item).bind fun _ _ => ih

theorem sites_eq {p q : Process α} (alike : Alike p q) {answer : Call → σ → Answer × σ}
    {state : σ}
    (succeeded : ∀ exchange ∈ p.exchanges answer state, ∃ package, exchange.2 = .ok package)
    (returned : Call → String) :
    (p.calls answer state).map Call.site = (q.follow returned).1.map Call.site := by
  induction alike generalizing state with
  | value | failure => rfl
  | @call c d next later sites _ ih =>
    rw [exchanges_call] at succeeded
    obtain ⟨package, reply⟩ := succeeded _ List.mem_cons_self
    have reply : (answer c state).1 = .ok package := reply
    have rest : ∀ exchange ∈ (next (answer c state).1).exchanges answer (answer c state).2,
        ∃ package, exchange.2 = .ok package :=
      fun exchange member => succeeded exchange (List.mem_cons_of_mem _ member)
    rw [reply] at rest
    rw [calls_call, follow_call, reply, List.map_cons, List.map_cons, sites, ih _ _ rest]

end Alike

end Process

namespace Generation

open Process

variable (config : Config)

theorem resourceStep_alike (group version package other : String) (progress before : Progress)
    (resource : Resource) : Alike (resourceStep config group version package progress resource)
      (resourceStep config group version other before resource) := by
  refine (Alike.ask (by rfl)).bind fun _ _ => ?_
  exact (Alike.ask (by rfl)).bind fun _ _ => .pure _ _

theorem versionStep_alike (group : String) (progress before : Progress)
    (entry : String × Bucket) : Alike (versionStep config group progress entry)
      (versionStep config group before entry) := by
  refine (Alike.ask (by rfl)).bind fun package other => ?_
  have resources := Alike.foldlM
    (resourceStep_alike config group entry.1 package other) entry.2.values progress before
  exact resources.bind fun _ _ => .pure _ _

theorem groupStep_alike (progress before : Progress) (entry : String × GroupVersions) :
    Alike (groupStep config progress entry) (groupStep config before entry) := by
  have versions := Alike.foldlM (versionStep_alike config entry.1) entry.2.entries progress before
  refine versions.bind fun _ _ => ?_
  cases GroupConversions.check entry.1 entry.2 with
  | error failure => exact .failure failure failure
  | ok conversions =>
    have each (kind : NodeKind) (nodes : String × List Resource) :
        Alike (conversionStep entry.1 kind nodes) (conversionStep entry.1 kind nodes) :=
      (Alike.ask (by rfl)).bind fun _ _ => .pure _ _
    refine (Alike.forM (each .hub) _).bind fun _ _ => ?_
    exact (Alike.forM (each .spoke) _).bind fun _ _ => .pure _ _

theorem finish_alike (output : HostPath) (progress before : Progress) :
    Alike (finish config output progress) (finish config output before) := by
  refine (Alike.ask (by rfl)).bind fun _ _ => ?_
  refine (Alike.ask (by rfl)).bind fun _ _ => ?_
  refine (Alike.ask (by rfl)).bind fun _ _ => ?_
  have formats := Alike.forM (fun directory : String =>
    (Alike.ask (c := .format (output.join directory)) rfl).bind fun _ _ => .pure () ())
    formattedDirectories
  exact formats.bind fun _ _ => .pure _ _

end Generation

theorem Config.generation_alike (config : Config) (output : HostPath) :
    Process.Alike (config.generation output) (config.generation output) := by
  unfold Config.generation
  cases config.validate with
  | error cause => exact .failure _ _
  | ok =>
    have groups := Process.Alike.foldlM (Generation.groupStep_alike config)
      config.table.groups.entries (Generation.start config) (Generation.start config)
    exact groups.bind (Generation.finish_alike config output)

end ProviderGen
