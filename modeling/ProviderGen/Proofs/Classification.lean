import ProviderGen.Proofs.ControllerMap
import ProviderGen.Proofs.HubSpoke

/-!
The classification of a group under any condition, as a whole. A node key is there exactly if some
resource with it meets the condition, and then it has the versions of these resources, in ascending
order and each once.
-/

namespace ProviderGen

open ControllerMap (addNew listed listed_concat listed_eq_some_iff nodup_eraseDups
  sublist_eraseDups)

theorem NodeVersions.find?_record (nodes : NodeVersions) (key version other : String) :
    (nodes.record key version).find? other =
      if other = key then some (addNew version ((nodes.find? other).getD []))
      else nodes.find? other := by
  unfold record
  rw [OrderedMap.find?_alter]
  by_cases same : other = key
  · rw [if_pos same, if_pos same, same]
    rfl
  · rw [if_neg same, if_neg same]

theorem eraseDups_ascending {names : List String}
    (sorted : names.Pairwise fun first second => first = second ∨ first < second) :
    names.eraseDups.Pairwise (· < ·) := by
  have kept := sorted.sublist (sublist_eraseDups names)
  exact (kept.and (nodup_eraseDups names)).imp fun both => both.1.resolve_left both.2

namespace GroupVersions

theorem placed_sorted (versions : GroupVersions) :
    versions.placed.Pairwise fun first second => first.1 = second.1 ∨ first.1 < second.1 := by
  refine List.pairwise_flatMap.mpr ⟨fun entry _ => ?_, ?_⟩
  · exact List.pairwise_map.mpr (List.pairwise_of_forall fun _ _ => .inl rfl)
  · refine (List.pairwise_map.mp versions.keys_lt).imp fun {first second} less => ?_
    intro place here later there
    obtain ⟨_, _, rfl⟩ := List.mem_map.mp here
    obtain ⟨_, _, rfl⟩ := List.mem_map.mp there
    exact .inr less

def meeting (versions : GroupVersions) (holds : Resource → String → Bool) (key : String) :
    List String :=
  (versions.placed.filter fun place => holds place.2 place.1 && place.2.nodeKey == key).map (·.1)

theorem find?_classify (versions : GroupVersions) (holds : Resource → String → Bool)
    (key : String) :
    (versions.classify holds).find? key = listed (versions.meeting holds key) := by
  unfold classify meeting
  -- The walk is told from its last resource, whose version comes after all that are recorded.
  induction versions.placed using List.reverseRecOn with
  | nil => rfl
  | append_singleton placed place ih =>
    rw [List.foldl_append, List.foldl_cons, List.foldl_nil, List.filter_append, List.map_append]
    dsimp only
    by_cases met : holds place.2 place.1 = true
    · rw [if_pos met, NodeVersions.find?_record, ih]
      by_cases keyed : key = place.2.nodeKey
      · rw [if_pos keyed, List.filter_cons_of_pos (by simp [met, keyed])]
        exact (listed_concat _ _).symm
      · rw [if_neg keyed, List.filter_cons_of_neg (by simp [Ne.symm keyed])]
        simp
    · rw [if_neg met, ih, List.filter_cons_of_neg (by simp [met])]
      simp

variable {versions : GroupVersions} {holds : Resource → String → Bool} {key : String}

theorem ascending_of_find?_classify {recorded : List String}
    (found : (versions.classify holds).find? key = some recorded) :
    recorded.Pairwise (· < ·) ∧ recorded ≠ [] := by
  rw [find?_classify, listed_eq_some_iff] at found
  obtain ⟨nonempty, rfl⟩ := found
  have sorted : (versions.meeting holds key).Pairwise fun first second =>
      first = second ∨ first < second :=
    List.pairwise_map.mpr (versions.placed_sorted.sublist List.filter_sublist)
  obtain ⟨version, member⟩ := List.exists_mem_of_ne_nil _ nonempty
  exact ⟨eraseDups_ascending sorted, List.ne_nil_of_mem (List.mem_eraseDups.mpr member)⟩

/-- A version in which a resource with the key meets the condition. -/
def Meets (versions : GroupVersions) (holds : Resource → String → Bool) (key version : String) :
    Prop :=
  ∃ bucket, (version, bucket) ∈ versions.entries ∧
    ∃ resource ∈ bucket.values, holds resource version ∧ resource.nodeKey = key

/-- What a classification records under any condition: a node key is there exactly if a resource of
the group has it and meets the condition in its version; the versions under it are those in which
there is such a resource, in strictly ascending order; so no key is there without versions. -/
theorem classify_records (versions : GroupVersions) (holds : Resource → String → Bool) :
    let nodes := versions.classify holds
    (∀ key, key ∈ nodes.keys ↔ ∃ version, versions.Meets holds key version) ∧
    ∀ key recorded, nodes.find? key = some recorded →
      recorded.Pairwise (· < ·) ∧
      (∀ version, version ∈ recorded ↔ versions.Meets holds key version) ∧
      recorded ≠ [] := by
  intro nodes
  have recorded_iff {key : String} {recorded : List String}
      (found : nodes.find? key = some recorded) (version : String) :
      version ∈ recorded ↔ versions.Meets holds key version := by
    have listed : nodes.versionsOf key = recorded := by rw [NodeVersions.versionsOf, found]; rfl
    rw [← listed]
    exact mem_versionsOf_classify
  constructor
  · intro key
    rw [OrderedMap.mem_keys_iff]
    constructor
    · rintro ⟨recorded, found⟩
      obtain ⟨version, member⟩ := List.exists_mem_of_ne_nil _ (ascending_of_find?_classify found).2
      exact ⟨version, (recorded_iff found version).mp member⟩
    · rintro ⟨version, met⟩
      have member : version ∈ nodes.versionsOf key := mem_versionsOf_classify.mpr met
      cases found : nodes.find? key with
      | none =>
        rw [NodeVersions.versionsOf, found] at member
        cases member
      | some recorded => exact ⟨recorded, rfl⟩
  · intro key recorded found
    obtain ⟨ascending, nonempty⟩ := ascending_of_find?_classify found
    exact ⟨ascending, recorded_iff found, nonempty⟩

end GroupVersions

end ProviderGen
