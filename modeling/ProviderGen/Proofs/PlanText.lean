import Mathlib.Data.List.Nodup
import ProviderGen.Json.Plan
import ProviderGen.Proofs.JsonText
import ProviderGen.Proofs.PlanAgreement

/-!
What the text of a plan tells. A member that is left out of a resource is told from one that is set,
so the text settles the table of resources and the conversions of every group.
-/

namespace ProviderGen

open Json

/-! ### Resources -/

namespace Json

theorem name_of_mem_optional {fields : List (String × Option String)} {member : String × Json}
    (written : member ∈ fields.flatMap fun field => optional field.1 field.2) :
    member.1 ∈ fields.map (·.1) := by
  obtain ⟨field, present, written⟩ := List.mem_flatMap.mp written
  refine List.mem_map.mpr ⟨field, present, ?_⟩
  cases value : field.2 with
  | none =>
    rw [value] at written
    cases written
  | some text =>
    rw [value] at written
    rw [List.mem_singleton.mp written]

theorem optional_ne_cons {fields : List (String × Option String)} {member : String × Json}
    (fresh : member.1 ∉ fields.map (·.1)) (rest : List (String × Json)) :
    (fields.flatMap fun field => optional field.1 field.2) ≠ member :: rest := by
  intro same
  have written : member ∈ fields.flatMap fun field => optional field.1 field.2 := by
    rw [same]
    exact List.mem_cons_self
  exact fresh (name_of_mem_optional written)

theorem optional_members_inj {fields others : List (String × Option String)}
    (named : fields.map (·.1) = others.map (·.1)) (distinct : (fields.map (·.1)).Nodup)
    (same : fields.flatMap (fun field => optional field.1 field.2) =
      others.flatMap fun field => optional field.1 field.2) : fields = others := by
  induction fields generalizing others with
  | nil => exact (List.map_eq_nil_iff.mp named.symm).symm
  | cons field rest ih =>
    cases others with
    | nil => cases named
    | cons another more =>
      obtain ⟨name, value⟩ := field
      obtain ⟨label, other⟩ := another
      obtain ⟨rfl, later⟩ := List.cons.inj named
      obtain ⟨fresh, distinctLater⟩ := List.nodup_cons.mp distinct
      rw [List.flatMap_cons, List.flatMap_cons] at same
      -- a member that only one of them writes would have to be written later by the other
      cases value with
      | none =>
        cases other with
        | none => rw [ih later distinctLater same]
        | some text => exact absurd same (optional_ne_cons fresh _)
      | some text =>
        cases other with
        | none => exact absurd same.symm (optional_ne_cons (later ▸ fresh) _)
        | some label =>
          obtain ⟨member, tail⟩ := List.cons.inj same
          cases member
          rw [ih later distinctLater tail]

end Json

namespace Resource

def fields (resource : Resource) : List (String × Option String) := [
  ("name", some resource.name),
  ("group", if resource.group = "" then none else some resource.group),
  ("short_group", some resource.shortGroup),
  ("version", some resource.version),
  ("kind", some resource.kind),
  ("controller_reconcile_version", resource.reconcileVersion?),
  ("hub_version", resource.hubVersion?),
  ("terraform_resource_type", resource.resourceType?)]

theorem json_eq_fields (resource : Resource) :
    resource.json = .object (resource.fields.flatMap fun field => optional field.1 field.2) := by
  unfold json fields
  by_cases omitted : resource.group = ""
  · simp [omitted, Json.optional]
  · simp [omitted, Json.optional]

theorem json_injective : Function.Injective json := by
  intro first second same
  rw [json_eq_fields, json_eq_fields, Json.object.injEq] at same
  have distinct : (first.fields.map (·.1)).Nodup := by simp [fields]
  have texts : first.fields = second.fields := optional_members_inj rfl distinct same
  simp only [fields, List.cons.injEq, Prod.mk.injEq, Option.some.injEq, true_and, and_true]
    at texts
  have group : first.group = second.group := by
    have written := texts.2.1
    split at written <;> split at written
    case isTrue.isTrue empty otherEmpty => rw [empty, otherEmpty]
    case isFalse.isFalse => exact Option.some.inj written
    all_goals cases written
  cases first
  cases second
  simp_all

end Resource

/-! ### Maps -/

theorem OrderedMap.json_injective {α : Type} {value : α → Json}
    (injective : Function.Injective value) :
    Function.Injective (OrderedMap.json value) := by
  intro m n same
  have members : Function.Injective fun (entry : String × α) => (entry.1, value entry.2) :=
    fun _ _ member => Prod.ext (congrArg (·.1) member) (injective (congrArg (·.2) member))
  exact OrderedMap.ext (List.map_injective_iff.mpr members (Json.object.inj same))

theorem ResourceTable.json_injective : Function.Injective ResourceTable.json := by
  rintro ⟨groups⟩ ⟨others⟩ same
  have buckets := OrderedMap.json_injective Resource.json_injective
  have versions := OrderedMap.json_injective buckets
  exact congrArg ResourceTable.mk (OrderedMap.json_injective versions same)

theorem NodeVersions.json_injective : Function.Injective NodeVersions.json := by
  refine OrderedMap.json_injective fun versions others listed => ?_
  exact List.map_injective_iff.mpr (fun _ _ => Json.string.inj) (Json.array.inj listed)

/-! ### Plans -/

namespace GroupConversions

def written (conversions : GroupConversions) : String × NodeVersions × NodeVersions :=
  (conversions.group, conversions.hubs, conversions.spokes)

theorem json_eq_json_iff {first second : GroupConversions} :
    first.json = second.json ↔ first.written = second.written := by
  simp only [json, written, Json.object.injEq, List.cons.injEq, Prod.mk.injEq, Json.string.injEq,
    NodeVersions.json_injective.eq_iff, true_and, and_true]

end GroupConversions

theorem Plan.text_eq_text_iff (first second : Plan) :
    first.json.text = second.json.text ↔
      first.resources = second.resources ∧ first.table = second.table ∧
        first.conversions.map (·.written) = second.conversions.map (·.written) := by
  have conversions (planned others : List GroupConversions) :
      planned.map (·.json) = others.map (·.json) ↔
        planned.map (·.written) = others.map (·.written) := by
    simp only [← List.forall₂_eq_eq_eq, List.forall₂_map_left_iff, List.forall₂_map_right_iff,
      GroupConversions.json_eq_json_iff]
  rw [Json.text_injective.eq_iff, ← conversions]
  simp only [json, Json.object.injEq, List.cons.injEq, Prod.mk.injEq, Json.number.injEq,
    Json.array.injEq, ResourceTable.json_injective.eq_iff, true_and, and_true]

namespace Config

open CallOrder

theorem eq_of_plan {config : Config} {plan : Plan} (planned : config.plan = .ok plan) :
    plan = ⟨plan.table.resourceCount, plan.table,
      plan.table.groups.entries.map fun entry => .ofVersions entry.1 entry.2⟩ := by
  cases valid : config.validate with
  | error cause =>
    unfold Config.plan at planned
    rw [valid] at planned
    cases planned
  | ok =>
    rw [plan_of_valid valid] at planned
    split at planned
    · cases planned
    · cases planned
      rfl

/-- Two configurations whose plans have one text have one plan: the same numbers, the same resources
in every field, and the same hubs and spokes of every group. -/
theorem plans_eq_iff_text {config other : Config} {first second : Plan}
    (planned : config.plan = .ok first) (otherPlanned : other.plan = .ok second) :
    first.json.text = second.json.text ↔ first = second := by
  constructor
  · intro same
    obtain ⟨_, table, _⟩ := (Plan.text_eq_text_iff first second).mp same
    rw [eq_of_plan planned, eq_of_plan otherPlanned, table]
  · rintro rfl
    rfl

def networksBlankHub : Config :=
  { networks with resources := networks.resources.map fun resource =>
      if resource.name = "settings" then { resource with hubVersion? := some "" } else resource }

theorem networksBlankHub_text : ∃ first second,
    networks.plan = .ok first ∧ networksBlankHub.plan = .ok second ∧
      first.conversions = second.conversions ∧ first.json.text ≠ second.json.text := by
  obtain ⟨first, planned⟩ : ∃ plan, networks.plan = .ok plan := ⟨_, rfl⟩
  obtain ⟨second, otherPlanned⟩ : ∃ plan, networksBlankHub.plan = .ok plan := ⟨_, rfl⟩
  refine ⟨first, second, planned, otherPlanned, ?conversions, fun same => ?texts⟩
  case conversions =>
    cases planned
    cases otherPlanned
    decide
  case texts =>
    have plans := (plans_eq_iff_text planned otherPlanned).mp same
    cases planned
    cases otherPlanned
    exact absurd plans (by decide)

end Config

end ProviderGen
