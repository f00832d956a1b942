import ProviderGen.Proofs.KnownKeys

/-!
Which documents are accepted. A document is refused for its shape if it describes no configuration,
and for a rule if it describes one that breaks it; of several broken rules the first is reported.
All other documents are accepted with the configuration that they describe.
-/

namespace ProviderGen

open Toml (Value)

structure Resource.Complete (resource : Resource) : Prop where
  name : resource.name ≠ ""
  version : resource.version ≠ ""
  kind : resource.kind ≠ ""

/-- How a resource is reported that is not complete. -/
inductive Resource.Breaks (resource : Resource) : ConfigFault → Prop
  | name (empty : resource.name = "") : Breaks resource (.emptyName resource.kind)
  | versionOrKind (named : resource.name ≠ "")
      (empty : resource.version = "" ∨ resource.kind = "") :
      Breaks resource (.missingVersionOrKind resource.name)

namespace Resource

variable {resource : Resource} {fault : ConfigFault}

theorem fault?_eq_none_iff : resource.fault? = none ↔ resource.Complete := by
  unfold fault?
  constructor
  · intro sound
    by_cases named : resource.name = ""
    · simp [named] at sound
    · by_cases empty : resource.version = "" ∨ resource.kind = ""
      · simp [named, empty] at sound
      · exact ⟨named, (not_or.mp empty).1, (not_or.mp empty).2⟩
  · intro complete
    simp [complete.name, complete.version, complete.kind]

theorem fault?_eq_some_iff : resource.fault? = some fault ↔ resource.Breaks fault := by
  unfold fault?
  constructor
  · intro found
    by_cases named : resource.name = ""
    · rw [if_pos named] at found
      cases found
      exact .name named
    · by_cases empty : resource.version = "" ∨ resource.kind = ""
      · rw [if_neg named, if_pos (by simpa using empty)] at found
        cases found
        exact .versionOrKind named empty
      · simp [named, empty] at found
  · intro breaks
    cases breaks with
    | name empty => simp [empty]
    | versionOrKind named empty => simp [named, empty]

end Resource

namespace Config

variable {config : Config} {fault : ConfigFault} {entries : List (String × Value)}

structure Sound (config : Config) : Prop where
  rootGroup : Text.isBlank config.rootGroup = false
  modulePath : Text.isBlank config.modulePath = false
  resources : ∀ resource ∈ config.resources, resource.Complete

/-- The rule that a configuration is refused for: the first one that it breaks, and for the first
resource that breaks it. -/
inductive Breaks (config : Config) : ConfigFault → Prop
  | rootGroup (blank : Text.isBlank config.rootGroup = true) : Breaks config .blankRootGroup
  | modulePath (root : Text.isBlank config.rootGroup = false)
      (blank : Text.isBlank config.modulePath = true) : Breaks config .blankModulePath
  | resource {before after : List Resource} {resource : Resource} {fault : ConfigFault}
      (root : Text.isBlank config.rootGroup = false)
      (module : Text.isBlank config.modulePath = false)
      (split : config.resources = before ++ resource :: after)
      (earlier : ∀ other ∈ before, other.Complete) (breaks : resource.Breaks fault) :
      Breaks config fault

theorem fault?_eq_none_iff : config.fault? = none ↔ config.Sound := by
  unfold fault?
  constructor
  · intro sound
    cases root : Text.isBlank config.rootGroup with
    | true => simp [root] at sound
    | false =>
      cases module : Text.isBlank config.modulePath with
      | true => simp [root, module] at sound
      | false =>
        simp only [root, module, Bool.false_eq_true, if_false, List.findSome?_eq_none_iff] at sound
        exact ⟨root, module, fun resource member =>
          Resource.fault?_eq_none_iff.mp (sound resource member)⟩
  · intro sound
    simp only [sound.rootGroup, sound.modulePath, Bool.false_eq_true, if_false,
      List.findSome?_eq_none_iff]
    exact fun resource member => Resource.fault?_eq_none_iff.mpr (sound.resources resource member)

theorem fault?_eq_some_iff : config.fault? = some fault ↔ config.Breaks fault := by
  unfold fault?
  constructor
  · intro found
    cases root : Text.isBlank config.rootGroup with
    | true =>
      rw [if_pos root] at found
      cases found
      exact .rootGroup root
    | false =>
      cases module : Text.isBlank config.modulePath with
      | true =>
        rw [if_neg (by simp [root]), if_pos module] at found
        cases found
        exact .modulePath root module
      | false =>
        simp only [root, module, Bool.false_eq_true, if_false, List.findSome?_eq_some_iff] at found
        obtain ⟨before, resource, after, split, broken, earlier⟩ := found
        exact .resource root module split
          (fun other member => Resource.fault?_eq_none_iff.mp (earlier other member))
          (Resource.fault?_eq_some_iff.mp broken)
  · intro breaks
    cases breaks with
    | rootGroup blank => simp [blank]
    | modulePath root blank => simp [root, blank]
    | resource root module split earlier breaks =>
      simp only [root, module, Bool.false_eq_true, if_false, List.findSome?_eq_some_iff]
      exact ⟨_, _, _, split, Resource.fault?_eq_some_iff.mpr breaks,
        fun other member => Resource.fault?_eq_none_iff.mpr (earlier other member)⟩

/-! ### Accepted and refused documents -/

theorem ofEntries_eq (entries : List (String × Value)) :
    ofEntries entries = match ofDocument entries with
      | .error cause => .error (.misshapen cause)
      | .ok config =>
        match config.fault? with
        | some fault => .error (.invalid fault)
        | none => .ok config := by
  unfold ofEntries
  cases ofDocument entries with
  | error cause => rfl
  | ok config =>
    dsimp only [validate]
    cases config.fault? <;> rfl

theorem ofEntries_eq_ok_iff :
    ofEntries entries = .ok config ↔ Described entries config ∧ config.Sound := by
  rw [← ofDocument_eq_ok_iff, ← fault?_eq_none_iff, ofEntries_eq]
  constructor
  · intro accepted
    split at accepted
    case h_1 => cases accepted
    case h_2 described decoded =>
      split at accepted
      case h_1 => cases accepted
      case h_2 sound =>
        cases accepted
        exact ⟨decoded, sound⟩
  · rintro ⟨decoded, sound⟩
    rw [decoded]
    simp [sound]

theorem ofEntries_eq_invalid_iff :
    ofEntries entries = .error (.invalid fault) ↔
      ∃ config, Described entries config ∧ config.Breaks fault := by
  simp only [← ofDocument_eq_ok_iff, ← fault?_eq_some_iff]
  rw [ofEntries_eq]
  constructor
  · intro refused
    split at refused
    case h_1 => cases refused
    case h_2 described decoded =>
      split at refused
      case h_1 broken =>
        cases refused
        exact ⟨described, decoded, broken⟩
      case h_2 => cases refused
  · rintro ⟨config, decoded, broken⟩
    rw [decoded]
    simp [broken]

theorem ofEntries_misshapen_iff :
    (∃ cause, ofEntries entries = .error (.misshapen cause)) ↔
      ¬ ∃ config, Described entries config := by
  simp only [← ofDocument_eq_ok_iff]
  rw [ofEntries_eq]
  cases ofDocument entries with
  | error cause => simp
  | ok config => cases sound : config.fault? <;> simp [sound]

theorem exists_read_of_ofText {text : String} (accepted : ofText text = .ok config) :
    ∃ entries, Toml.read? text = some entries ∧ ofEntries entries = .ok config := by
  unfold ofText at accepted
  cases read : Toml.read? text with
  | none =>
    rw [read] at accepted
    cases accepted
  | some entries =>
    rw [read] at accepted
    exact ⟨entries, rfl, accepted⟩

/-- A document is accepted exactly if it describes a configuration that breaks no rule, and with
that configuration. It is refused for a rule exactly if it describes a configuration that breaks
this rule first, and for its shape exactly if it describes none. What stands under unknown keys
makes no difference, neither to an accepted configuration nor to an error; a date stands for a table
without known keys. -/
theorem ofEntries_acceptance (entries : List (String × Value)) :
    (∀ config, ofEntries entries = .ok config ↔ Described entries config ∧ config.Sound) ∧
    (∀ fault, ofEntries entries = .error (.invalid fault) ↔
      ∃ config, Described entries config ∧ config.Breaks fault) ∧
    ((∃ cause, ofEntries entries = .error (.misshapen cause)) ↔
      ¬ ∃ config, Described entries config) ∧
    (∀ others, knownFields.entries others = knownFields.entries entries →
      ofEntries others = ofEntries entries) ∧
    ∀ text, Toml.read? text = some entries → ofText text = ofEntries entries := by
  refine ⟨fun _ => ofEntries_eq_ok_iff, fun _ => ofEntries_eq_invalid_iff,
    ofEntries_misshapen_iff, fun others same => ?known, fun text parsed => ?parsed⟩
  case known =>
    rw [ofEntries_eq, ofEntries_eq, ← ofDocument_entries others, same, ofDocument_entries]
  case parsed =>
    unfold ofText
    rw [parsed]

def owned : String :=
  "root_group = \"aws.example\"\nowner = \"network\"\nshort_name = \"aws\"\n" ++
    "module_path = \"example.org/provider\"\n[[resources]]\nname = \"vpc\"\n" ++
    "version = \"v1\"\nkind = \"VPC\"\n"

def ownedConfig : Config where
  rootGroup := "aws.example"
  shortName := "aws"
  modulePath := "example.org/provider"
  resources := [{ name := "vpc", version := "v1", kind := "VPC" }]

theorem owned_acceptance : ∃ entries, Toml.read? owned = some entries ∧
    ofText owned = ofEntries entries ∧ Described entries ownedConfig ∧ ownedConfig.Sound ∧
    knownFields.entries (("since", .dateTime) :: entries) = knownFields.entries entries ∧
    ofEntries (("since", .dateTime) :: entries) = .ok ownedConfig := by
  have whole : ofText owned = .ok ownedConfig := by decide +kernel
  obtain ⟨entries, read, accepted⟩ := exists_read_of_ofText whole
  obtain ⟨described, _, _, unknown, parsed⟩ := ofEntries_acceptance entries
  obtain ⟨shape, sound⟩ := (described ownedConfig).mp accepted
  exact ⟨entries, read, parsed owned read, shape, sound, rfl, (unknown _ rfl).trans accepted⟩

def dated : String :=
  "root_group = \"r\"\nshort_name = \"s\"\nmodule_path = \"m\"\nbase_packages = 1979-05-27\n"

def isDate : Value → Bool
  | .dateTime => true
  | _ => false

theorem isDate_iff {value : Value} : isDate value = true ↔ value = .dateTime := by
  cases value <;> simp [isDate]

/-- Base packages may be present as what is neither a table nor an array of their fields. -/
theorem dated_accepted : ∃ entries, Toml.read? dated = some entries ∧
    (∃ value ∈ valuesUnder entries "base_packages",
      ¬ ((∃ table, value = .table table) ∨ ∃ items, value = .array items)) ∧
    ofText dated = .ok { rootGroup := "r", shortName := "s", modulePath := "m" } := by
  have dates : (Toml.read? dated).any fun entries =>
      (valuesUnder entries "base_packages").any isDate := by decide +kernel
  obtain ⟨entries, read, found⟩ := (Option.any_eq_true ..).mp dates
  obtain ⟨value, member, date⟩ := List.any_eq_true.mp found
  rw [isDate_iff] at date
  subst date
  exact ⟨entries, read, ⟨_, member, by simp⟩, by decide +kernel⟩

end Config

end ProviderGen
