import ProviderGen.HubSpoke
import ProviderGen.OrderedMap.Lemmas

/-!
What the classification of a group records. A version is recorded under a node key exactly if a
resource with that key meets the condition in that version; hence only versions of the group are
ever recorded.
-/

namespace ProviderGen

def NodeVersions.versionsOf (nodes : NodeVersions) (key : String) : List String :=
  (nodes.find? key).getD []

theorem NodeVersions.mem_versionsOf_record {nodes : NodeVersions} {key recorded : String}
    {version added : String} :
    version ∈ (nodes.record recorded added).versionsOf key ↔
      version ∈ nodes.versionsOf key ∨ key = recorded ∧ version = added := by
  unfold versionsOf record
  by_cases same : key = recorded
  · subst same
    rw [OrderedMap.find?_alter_self, Option.getD_some]
    by_cases known : added ∈ (nodes.find? key).getD []
    · simp only [if_pos known, true_and]
      exact ⟨.inl, fun found => found.elim id fun equal => equal ▸ known⟩
    · simp only [if_neg known, true_and, List.mem_append, List.mem_singleton]
  · have apart : compare key recorded ≠ .eq :=
      fun equal => same (Std.LawfulEqCmp.eq_of_compare equal)
    rw [OrderedMap.find?_alter_of_ne nodes apart]
    simp [same]

theorem NodeVersions.nodup_record {nodes : NodeVersions} {key : String}
    (distinct : (nodes.versionsOf key).Nodup) (recorded added : String) :
    ((nodes.record recorded added).versionsOf key).Nodup := by
  unfold versionsOf record at *
  by_cases same : key = recorded
  · subst same
    rw [OrderedMap.find?_alter_self, Option.getD_some]
    by_cases known : added ∈ (nodes.find? key).getD []
    · simp only [if_pos known]
      exact distinct
    · simp only [if_neg known]
      exact List.nodup_append.mpr ⟨distinct, by simp, by grind⟩
  · have apart : compare key recorded ≠ .eq :=
      fun equal => same (Std.LawfulEqCmp.eq_of_compare equal)
    rwa [OrderedMap.find?_alter_of_ne nodes apart]

namespace GroupVersions

theorem mem_placed {versions : GroupVersions} {version : String} {resource : Resource} :
    (version, resource) ∈ versions.placed ↔
      ∃ bucket, (version, bucket) ∈ versions.entries ∧ resource ∈ bucket.values := by
  unfold placed
  simp only [List.mem_flatMap, List.mem_map, Prod.mk.injEq, Prod.exists]
  constructor
  · rintro ⟨_, bucket, inGroup, _, present, rfl, rfl⟩
    exact ⟨bucket, inGroup, present⟩
  · rintro ⟨bucket, inGroup, present⟩
    exact ⟨version, bucket, inGroup, resource, present, rfl, rfl⟩

theorem mem_versionsOf_step {holds : Resource → String → Bool} {nodes : NodeVersions}
    {resource : Resource} {key version added : String} :
    version ∈ NodeVersions.versionsOf
        (if holds resource added then nodes.record resource.nodeKey added else nodes) key ↔
      version ∈ nodes.versionsOf key ∨
        holds resource added ∧ resource.nodeKey = key ∧ version = added := by
  by_cases met : holds resource added = true
  · rw [if_pos met, NodeVersions.mem_versionsOf_record]
    simp only [met, true_and, eq_comm (a := key)]
  · rw [if_neg met]
    simp only [met, Bool.false_eq_true, false_and, or_false]

theorem mem_versionsOf_foldl {holds : Resource → String → Bool} {key version : String}
    (placed : List (String × Resource)) (nodes : NodeVersions) :
    version ∈ (placed.foldl (fun nodes (version, resource) =>
        if holds resource version then nodes.record resource.nodeKey version else nodes)
        nodes).versionsOf key ↔
      version ∈ nodes.versionsOf key ∨
        ∃ resource, (version, resource) ∈ placed ∧ holds resource version ∧
          resource.nodeKey = key := by
  induction placed generalizing nodes with
  | nil => simp
  | cons head rest ih =>
    obtain ⟨added, resource⟩ := head
    rw [List.foldl_cons, ih, mem_versionsOf_step]
    simp only [List.mem_cons, Prod.mk.injEq]
    constructor
    · rintro ((known | ⟨met, keyed, rfl⟩) | ⟨other, present, found⟩)
      · exact .inl known
      · exact .inr ⟨resource, .inl ⟨rfl, rfl⟩, met, keyed⟩
      · exact .inr ⟨other, .inr present, found⟩
    · rintro (known | ⟨other, ⟨rfl, rfl⟩ | present, found⟩)
      · exact .inl (.inl known)
      · exact .inl (.inr ⟨found.1, found.2, rfl⟩)
      · exact .inr ⟨other, present, found⟩

/-- A version is recorded under the key of a resource that meets the condition there. -/
theorem mem_versionsOf_classify {versions : GroupVersions} {holds : Resource → String → Bool}
    {key version : String} :
    version ∈ (versions.classify holds).versionsOf key ↔
      ∃ bucket, (version, bucket) ∈ versions.entries ∧
        ∃ resource ∈ bucket.values, holds resource version ∧ resource.nodeKey = key := by
  unfold classify
  rw [mem_versionsOf_foldl]
  have start : version ∉ NodeVersions.versionsOf .empty key := nofun
  simp only [start, false_or, mem_placed]
  constructor
  · rintro ⟨resource, ⟨bucket, inGroup, present⟩, found⟩
    exact ⟨bucket, inGroup, resource, present, found⟩
  · rintro ⟨bucket, inGroup, resource, present, found⟩
    exact ⟨resource, ⟨bucket, inGroup, present⟩, found⟩

theorem nodup_versionsOf_classify (versions : GroupVersions) (holds : Resource → String → Bool)
    (key : String) : ((versions.classify holds).versionsOf key).Nodup := by
  unfold classify
  refine List.foldlRecOn versions.placed _ (motive := fun nodes : NodeVersions =>
    (nodes.versionsOf key).Nodup) .nil fun nodes distinct (version, resource) _ => ?_
  dsimp only
  split
  · exact NodeVersions.nodup_record distinct _ _
  · exact distinct

end GroupVersions

namespace GroupConversions

def ofKind (conversions : GroupConversions) : NodeKind → NodeVersions
  | .hub => conversions.hubs
  | .spoke => conversions.spokes

theorem ofKind_ofVersions (group : String) (versions : GroupVersions) (kind : NodeKind) :
    (ofVersions group versions).ofKind kind = versions.classify kind.covers := by
  cases kind <;> rfl

end GroupConversions

end ProviderGen
