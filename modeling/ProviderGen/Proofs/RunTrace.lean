import ProviderGen.Proofs.CallOrder
import ProviderGen.Proofs.CallSite
import ProviderGen.Proofs.ResourceTable

/-!
The calls of a run against collaborators that never fail. No two calls of a run are made at one
place, so what a collaborator returns is settled by the call it answers, and the run makes the
calls that are listed for its configuration and the packages returned.
-/

namespace ProviderGen

theorem HostPath.eq_of_join_eq {path : HostPath} {first second : String}
    (firstRelative : Text.startsWith '/' first = false)
    (secondRelative : Text.startsWith '/' second = false)
    (same : path.join first = path.join second) : first = second := by
  unfold join at same
  rw [firstRelative, secondRelative] at same
  simp only [Bool.false_eq_true, ↓reduceIte] at same
  split at same
  · exact (String.append_right_inj _).mp (HostPath.mk.inj same)
  · exact (String.append_right_inj _).mp (HostPath.mk.inj same)

namespace CallSite

def group? : CallSite → Option String
  | types group _ | controller group _ _ | manifest group _ _ | conversion group _ _ => some group
  | store | register | setup | format _ => none

def version? : CallSite → Option String
  | types _ version | controller _ version _ | manifest _ version _ | conversion _ version _ =>
    some version
  | store | register | setup | format _ => none

def name? : CallSite → Option String
  | controller _ _ name | manifest _ _ name => some name
  | _ => none

def kind? : CallSite → Option NodeKind
  | conversion _ _ kind => some kind
  | _ => none

end CallSite

namespace CallOrder

open ResourceTable

/-- Two calls at different places of a run. -/
def Apart (c d : Call) : Prop := c.site ≠ d.site

theorem apart_of_label {β : Type} (label : CallSite → β) {c d : Call}
    (different : label c.site ≠ label d.site) : Apart c d :=
  fun same => different (congrArg label same)

variable {config : Config} {returned : Call → String}

theorem mem_versionCalls {group : String} {entry : String × Bucket} {c : Call} :
    c ∈ versionCalls config returned group entry ↔
      c = typesCall group entry ∨ ∃ resource ∈ entry.2.values,
        c = controllerCall config returned group entry resource ∨
          c = .manifest group entry.1 resource := by
  simp [versionCalls]

theorem labels_of_mem_versionCalls {group : String} {entry : String × Bucket}
    (placed : BucketPlaced config.rootGroup group entry) {c : Call}
    (member : c ∈ versionCalls config returned group entry) :
    c.site.group? = some group ∧ c.site.version? = some entry.1 ∧ c.site.kind? = none := by
  rcases mem_versionCalls.mp member with rfl | ⟨resource, present, rfl | rfl⟩
  · exact ⟨rfl, rfl, rfl⟩
  · have version := version_of_mem_values placed present
    exact ⟨rfl, congrArg some version, rfl⟩
  · exact ⟨rfl, rfl, rfl⟩

theorem labels_of_mem_conversionCalls {kind : NodeKind} {entry : String × GroupVersions} {c : Call}
    (member : c ∈ conversionCalls kind entry) :
    c.site.group? = some entry.1 ∧ c.site.kind? = some kind := by
  obtain ⟨version, _, made⟩ := List.mem_filterMap.mp member
  obtain ⟨_, rfl⟩ := conversionCall?_eq_some_iff.mp made
  exact ⟨rfl, rfl⟩

theorem versionCalls_apart {group : String} {entry : String × Bucket}
    (placed : BucketPlaced config.rootGroup group entry) :
    (versionCalls config returned group entry).Pairwise Apart := by
  unfold versionCalls
  apply List.pairwise_cons.mpr
  refine ⟨fun c member => ?_, List.pairwise_flatMap.mpr ⟨fun resource _ => ?_, ?_⟩⟩
  · obtain ⟨resource, _, member⟩ := List.mem_flatMap.mp member
    apply apart_of_label CallSite.name?
    simp only [List.mem_cons, List.not_mem_nil, or_false] at member
    rcases member with rfl | rfl <;> exact nofun
  · apply List.pairwise_pair.mpr
    exact nofun
  · have names : (entry.2.values.map Resource.name).Pairwise (· ≠ ·) := by
      rw [map_name_values placed]
      exact entry.2.keys_distinct
    apply (List.pairwise_map.mp names).imp
    intro first second different c firstMember d secondMember
    apply apart_of_label CallSite.name?
    simp only [List.mem_cons, List.not_mem_nil, or_false] at firstMember secondMember
    rcases firstMember with rfl | rfl <;> rcases secondMember with rfl | rfl <;>
      exact fun same => different (Option.some.inj same)

theorem groupVersions_apart {entry : String × GroupVersions}
    (placed : GroupPlaced config.rootGroup entry) :
    (entry.2.entries.flatMap (versionCalls config returned entry.1)).Pairwise Apart := by
  apply List.pairwise_flatMap.mpr
  refine ⟨fun version member => versionCalls_apart (placed version member), ?_⟩
  apply (List.pairwise_map.mp entry.2.keys_distinct).imp_of_mem
  intro first second firstMember secondMember different c firstCall d secondCall
  have firstLabels := labels_of_mem_versionCalls (placed first firstMember) firstCall
  have secondLabels := labels_of_mem_versionCalls (placed second secondMember) secondCall
  apply apart_of_label CallSite.version?
  rw [firstLabels.2.1, secondLabels.2.1]
  exact fun same => different (Option.some.inj same)

theorem conversionCalls_apart (kind : NodeKind) (entry : String × GroupVersions) :
    (conversionCalls kind entry).Pairwise Apart := by
  apply List.pairwise_filterMap.mpr
  apply (List.pairwise_map.mp entry.2.keys_distinct).imp
  intro first second different c firstCall d secondCall
  apply apart_of_label CallSite.version?
  obtain ⟨_, rfl⟩ := conversionCall?_eq_some_iff.mp firstCall
  obtain ⟨_, rfl⟩ := conversionCall?_eq_some_iff.mp secondCall
  exact fun same => different (Option.some.inj same)

def ownCalls (config : Config) (returned : Call → String) (entry : String × GroupVersions) :
    List Call :=
  entry.2.entries.flatMap (versionCalls config returned entry.1) ++
    (conversionCalls .hub entry ++ conversionCalls .spoke entry)

theorem labels_of_mem_versions {entry : String × GroupVersions}
    (placed : GroupPlaced config.rootGroup entry) {c : Call}
    (member : c ∈ entry.2.entries.flatMap (versionCalls config returned entry.1)) :
    c.site.group? = some entry.1 ∧ c.site.kind? = none := by
  obtain ⟨version, present, member⟩ := List.mem_flatMap.mp member
  have labels := labels_of_mem_versionCalls (placed version present) member
  exact ⟨labels.1, labels.2.2⟩

theorem group?_of_mem_ownCalls {entry : String × GroupVersions}
    (placed : GroupPlaced config.rootGroup entry) {c : Call}
    (member : c ∈ ownCalls config returned entry) : c.site.group? = some entry.1 := by
  rcases List.mem_append.mp member with member | member
  · exact (labels_of_mem_versions placed member).1
  · rcases List.mem_append.mp member with member | member
    · exact (labels_of_mem_conversionCalls member).1
    · exact (labels_of_mem_conversionCalls member).1

theorem ownCalls_apart {entry : String × GroupVersions}
    (placed : GroupPlaced config.rootGroup entry) :
    (ownCalls config returned entry).Pairwise Apart := by
  have nodes : (conversionCalls .hub entry ++ conversionCalls .spoke entry).Pairwise Apart := by
    apply List.pairwise_append.mpr
    refine ⟨conversionCalls_apart .hub entry, conversionCalls_apart .spoke entry, ?_⟩
    intro c hub d spoke
    apply apart_of_label CallSite.kind?
    rw [(labels_of_mem_conversionCalls hub).2, (labels_of_mem_conversionCalls spoke).2]
    exact nofun
  apply List.pairwise_append.mpr
  refine ⟨groupVersions_apart placed, nodes, ?_⟩
  intro c version d node
  apply apart_of_label CallSite.kind?
  rw [(labels_of_mem_versions placed version).2]
  rcases List.mem_append.mp node with node | node
  · rw [(labels_of_mem_conversionCalls node).2]
    exact nofun
  · rw [(labels_of_mem_conversionCalls node).2]
    exact nofun

theorem groupCalls_cons (entry : String × GroupVersions) (rest : List (String × GroupVersions)) :
    groupCalls config returned (entry :: rest) =
      match hubFault? entry with
      | some _ => entry.2.entries.flatMap (versionCalls config returned entry.1)
      | none => ownCalls config returned entry ++ groupCalls config returned rest := by
  unfold ownCalls
  rw [groupCalls]
  cases hubFault? entry with
  | some fault => exact List.append_nil _
  | none => simp only [List.append_assoc]

theorem groupCalls_eq_flatMap {entries : List (String × GroupVersions)}
    (sound : entries.findSome? hubFault? = none) :
    groupCalls config returned entries = entries.flatMap (ownCalls config returned) := by
  induction entries with
  | nil => rfl
  | cons entry rest ih =>
    rw [List.findSome?_cons] at sound
    rw [groupCalls_cons, List.flatMap_cons]
    cases found : hubFault? entry with
    | some fault => simp [found] at sound
    | none =>
      simp only [found] at sound ⊢
      rw [ih sound]

theorem runCalls_of_sound (sound : firstFault? config = none) (output : HostPath) :
    runCalls config returned output =
      config.table.groups.entries.flatMap (ownCalls config returned) ++
        closingCalls config returned output := by
  unfold runCalls
  rw [sound, groupCalls_eq_flatMap sound]

theorem exists_group_of_mem_groupCalls {entries : List (String × GroupVersions)}
    (placed : ∀ entry ∈ entries, GroupPlaced config.rootGroup entry) {c : Call}
    (member : c ∈ groupCalls config returned entries) :
    ∃ entry ∈ entries, c.site.group? = some entry.1 := by
  induction entries with
  | nil => cases member
  | cons entry rest ih =>
    have first := placed entry List.mem_cons_self
    rw [groupCalls_cons] at member
    cases found : hubFault? entry with
    | some fault =>
      rw [found] at member
      exact ⟨entry, List.mem_cons_self, (labels_of_mem_versions first member).1⟩
    | none =>
      rw [found] at member
      rcases List.mem_append.mp member with own | later
      · exact ⟨entry, List.mem_cons_self, group?_of_mem_ownCalls first own⟩
      · obtain ⟨other, present, label⟩ :=
          ih (fun entry member => placed entry (List.mem_cons_of_mem _ member)) later
        exact ⟨other, List.mem_cons_of_mem _ present, label⟩

theorem groupCalls_apart {entries : List (String × GroupVersions)}
    (placed : ∀ entry ∈ entries, GroupPlaced config.rootGroup entry)
    (distinct : entries.Pairwise fun first second => first.1 ≠ second.1) :
    (groupCalls config returned entries).Pairwise Apart := by
  induction entries with
  | nil => exact .nil
  | cons entry rest ih =>
    have first := placed entry List.mem_cons_self
    have others : ∀ other ∈ rest, GroupPlaced config.rootGroup other :=
      fun other member => placed other (List.mem_cons_of_mem _ member)
    obtain ⟨different, distinct⟩ := List.pairwise_cons.mp distinct
    rw [groupCalls_cons]
    cases found : hubFault? entry with
    | some fault => exact groupVersions_apart first
    | none =>
      apply List.pairwise_append.mpr
      refine ⟨ownCalls_apart first, ih others distinct, ?_⟩
      intro c own d later
      obtain ⟨other, present, label⟩ := exists_group_of_mem_groupCalls others later
      apply apart_of_label CallSite.group?
      rw [group?_of_mem_ownCalls first own, label]
      exact fun same => different other present (Option.some.inj same)

theorem closingCalls_apart (output : HostPath) :
    (closingCalls config returned output).Pairwise Apart := by
  have formats : Apart (.format (output.join "apis")) (.format (output.join "internal")) := by
    intro same
    have parts := HostPath.eq_of_join_eq (by decide) (by decide) (CallSite.format.inj same)
    exact absurd parts (by decide)
  unfold closingCalls
  simpa [Apart, Call.site] using formats

theorem group?_of_mem_closingCalls {output : HostPath} {c : Call}
    (member : c ∈ closingCalls config returned output) : c.site.group? = none := by
  simp only [closingCalls, List.mem_cons, List.not_mem_nil, or_false] at member
  rcases member with rfl | rfl | rfl | rfl | rfl <;> rfl

theorem runCalls_apart (output : HostPath) :
    (runCalls config returned output).Pairwise Apart := by
  have placed := config.table_wellPlaced
  have groups : (groupCalls config returned config.table.groups.entries).Pairwise Apart :=
    groupCalls_apart placed (List.pairwise_map.mp config.table.groups.keys_distinct)
  unfold runCalls
  cases firstFault? config with
  | some fault =>
    rw [List.append_nil]
    exact groups
  | none =>
    apply List.pairwise_append.mpr
    refine ⟨groups, closingCalls_apart output, ?_⟩
    intro c own d closing
    obtain ⟨entry, _, label⟩ := exists_group_of_mem_groupCalls placed own
    apply apart_of_label CallSite.group?
    rw [label, group?_of_mem_closingCalls closing]
    exact nofun

end CallOrder

/-- Collaborators that answer every call with how many they have answered before. -/
def Process.counting (_ : Call) (count : Nat) : Answer × Nat := (.ok (toString count), count + 1)

namespace Config

variable {σ : Type} {answer : Call → σ → Answer × σ} {state : σ}

theorem generation_of_invalid {config : Config} {cause : ConfigFailure}
    (invalid : config.validate = .error cause) (output : HostPath) :
    config.generation output = Process.fail (.config cause) := by
  unfold generation
  rw [invalid]

theorem calls_nodup {config : Config} (valid : config.validate = .ok ()) (output : HostPath)
    (succeeded : ∀ exchange ∈ (config.generation output).exchanges answer state,
      ∃ package, exchange.2 = .ok package) :
    ((config.generation output).calls answer state).Nodup := by
  have sites := (config.generation_alike output).sites_eq succeeded fun _ => ""
  rw [follow_generation valid] at sites
  apply List.Nodup.of_map Call.site
  rw [sites]
  exact List.pairwise_map.mpr (CallOrder.runCalls_apart output)

theorem exists_listed {config : Config} (valid : config.validate = .ok ()) (output : HostPath)
    (succeeded : ∀ exchange ∈ (config.generation output).exchanges answer state,
      ∃ package, exchange.2 = .ok package) :
    ∃ returned : Call → String,
      (∀ exchange ∈ (config.generation output).exchanges answer state,
        exchange.2 = .ok (returned exchange.1)) ∧
      (config.generation output).calls answer state =
        CallOrder.runCalls config returned output ∧
      ((config.generation output).run answer state).1 = CallOrder.outcome config returned := by
  obtain ⟨returned, agree⟩ := Process.exists_returned (calls_nodup valid output succeeded) succeeded
  have followed := Process.eq_follow agree
  rw [follow_generation valid] at followed
  exact ⟨returned, agree, followed⟩

/-- Against collaborators that never fail, a valid configuration makes exactly the calls listed for
the packages that they return, and reports what is listed with them. Groups, versions and names are
listed in ascending order. -/
theorem generation_calls (config : Config) (valid : config.validate = .ok ()) (output : HostPath)
    (answer : Call → σ → Answer × σ)
    (obliging : ∀ call state, ∃ package, (answer call state).1 = .ok package) (state : σ) :
    ∃ returned : Call → String,
      (∀ exchange ∈ (config.generation output).exchanges answer state,
        exchange.2 = .ok (returned exchange.1)) ∧
      (config.generation output).calls answer state =
        CallOrder.runCalls config returned output ∧
      ((config.generation output).run answer state).1 = CallOrder.outcome config returned ∧
      config.table.Ascending := by
  have succeeded := Process.succeeded_of_obliging obliging (config.generation output) state
  obtain ⟨returned, agree, calls, result⟩ := exists_listed valid output succeeded
  exact ⟨returned, agree, calls, result, config.table_wellPlaced.ascending⟩

def networks : Config where
  rootGroup := "aws.example"
  shortName := "aws"
  modulePath := "example.org/provider"
  base := { apiVersions := ["apis/v1"], controllers := ["internal/controller/settings"] }
  resources := [
    { name := "vpc_v2", shortGroup := "EC2", version := "v2", kind := "VPC",
      hubVersion? := some "v1", reconcileVersion? := some "v1" },
    { name := "vpc", shortGroup := "EC2", version := "v1", kind := "VPC" },
    { name := "settings", version := "v1", kind := "Settings" }]

def watching? : Call → Option (String × String)
  | .controller _ resource watchPackage _ => some (resource.name, watchPackage)
  | _ => none

/-- The controller of the later network is given the place of the earlier version, the others what
was answered for their own versions. -/
theorem networks_calls :
    let run := networks.generation ⟨"/out"⟩
    let calls := run.calls Process.counting 0
    networks.validate = .ok () ∧
    (∀ call state, ∃ package, (Process.counting call state).1 = .ok package) ∧
    (∃ returned : Call → String,
      (∀ exchange ∈ run.exchanges Process.counting 0, exchange.2 = .ok (returned exchange.1)) ∧
      calls = CallOrder.runCalls networks returned ⟨"/out"⟩ ∧
      (run.run Process.counting 0).1 = CallOrder.outcome networks returned ∧
      networks.table.Ascending) ∧
    calls.map Call.site = [
      .types "aws.example" "v1", .controller "aws.example" "v1" "settings",
      .manifest "aws.example" "v1" "settings", .conversion "aws.example" "v1" .hub,
      .types "ec2.aws.example" "v1", .controller "ec2.aws.example" "v1" "vpc",
      .manifest "ec2.aws.example" "v1" "vpc", .types "ec2.aws.example" "v2",
      .controller "ec2.aws.example" "v2" "vpc_v2", .manifest "ec2.aws.example" "v2" "vpc_v2",
      .conversion "ec2.aws.example" "v1" .hub, .conversion "ec2.aws.example" "v2" .spoke,
      .store, .register, .setup, .format ⟨"/out/apis"⟩, .format ⟨"/out/internal"⟩] ∧
    calls.filterMap watching? = [("settings", "0"), ("vpc", "4"),
      ("vpc_v2", "example.org/provider/apis/ec2/v1")] :=
  have obliging : ∀ call state, ∃ package, (Process.counting call state).1 = .ok package :=
    fun _ _ => ⟨_, rfl⟩
  ⟨rfl, obliging, generation_calls networks rfl ⟨"/out"⟩ Process.counting obliging 0,
    by decide +kernel, by decide +kernel⟩

end Config

end ProviderGen
