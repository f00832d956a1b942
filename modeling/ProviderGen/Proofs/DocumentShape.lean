import Mathlib.Data.List.Forall2
import ProviderGen.Config.Decode

/-!
The shape of a configuration's document, field by field. A table gives the values under the names of
a record's fields, an array gives them by place, and a date gives none. Each value of a field is of
the field's type, and the field holds what its value means or else its default; the decoders of
single values and of fields succeed exactly there.
-/

namespace ProviderGen

open Toml (Value)

abbrev Meaning (α : Type) := Value → α → Prop

def valuesUnder (entries : List (String × Value)) (key : String) : List Value :=
  (entries.filter (·.1 == key)).map (·.2)

/-- The values that are given for the fields of a record with these names, where the value can stand
for a record at all. -/
def fieldValues? (names : List String) : Value → Option (String → List Value)
  | .table entries => some (valuesUnder entries)
  | .array items => some fun name => items[names.idxOf name]?.toList
  | .dateTime => some fun _ => []
  | _ => none

namespace Meaning

variable {α : Type}

def text : Meaning String := fun value content => value = .text content

def path : Meaning HostPath := fun value path => value = .text path.text

def optional (means : Meaning α) : Meaning (Option α) := fun value held =>
  ∃ content, means value content ∧ held = some content

def list (means : Meaning α) : Meaning (List α) := fun value held =>
  ∃ items, value = .array items ∧ List.Forall₂ means items held

def record (names : List String) (typed : (String → List Value) → Prop)
    (holds : (String → List Value) → α → Prop) : Meaning α :=
  fun value held => ∃ given, fieldValues? names value = some given ∧ typed given ∧ holds given held

/-- The first value of a field counts; without a value the field holds its default, if it has
one. -/
def Taken (means : Meaning α) (default? : Option α) : List Value → α → Prop
  | [], held => default? = some held
  | value :: _, held => means value held

def Typed (means : Meaning α) (values : List Value) : Prop :=
  ∀ value ∈ values, ∃ content, means value content

end Meaning

open Meaning

namespace ControllerEntry

def fieldNames : List String := ["package", "key"]

structure Holds (given : String → List Value) (entry : ControllerEntry) : Prop where
  package : text.Taken none (given "package") entry.package
  key : text.Taken none (given "key") entry.key

def Typed (given : String → List Value) : Prop := ∀ name ∈ fieldNames, text.Typed (given name)

def means : Meaning ControllerEntry := record fieldNames Typed Holds

end ControllerEntry

namespace BasePackages

def fieldNames : List String := ["api_version", "controller", "controller_map"]

structure Holds (given : String → List Value) (base : BasePackages) : Prop where
  apiVersions : text.list.Taken (some []) (given "api_version") base.apiVersions
  controllers : text.list.Taken (some []) (given "controller") base.controllers
  controllerMap : ControllerEntry.means.list.Taken (some []) (given "controller_map")
    base.controllerMap

structure Typed (given : String → List Value) : Prop where
  packages : ∀ name ∈ ["api_version", "controller"], text.list.Typed (given name)
  entries : ControllerEntry.means.list.Typed (given "controller_map")

def means : Meaning BasePackages := record fieldNames Typed Holds

end BasePackages

namespace Resource

structure Holds (given : String → List Value) (resource : Resource) : Prop where
  name : text.Taken none (given "name") resource.name
  group : text.Taken (some "") (given "group") resource.group
  shortGroup : text.Taken (some "") (given "short_group") resource.shortGroup
  version : text.Taken none (given "version") resource.version
  kind : text.Taken none (given "kind") resource.kind
  reconcileVersion : text.optional.Taken (some none) (given "controller_reconcile_version")
    resource.reconcileVersion?
  hubVersion : text.optional.Taken (some none) (given "hub_version") resource.hubVersion?
  resourceType : text.optional.Taken (some none) (given "terraform_resource_type")
    resource.resourceType?

def Typed (given : String → List Value) : Prop := ∀ name ∈ fieldNames, text.Typed (given name)

def means : Meaning Resource := record fieldNames Typed Holds

end Resource

namespace Config

structure Holds (given : String → List Value) (config : Config) : Prop where
  rootGroup : text.Taken none (given "root_group") config.rootGroup
  shortName : text.Taken none (given "short_name") config.shortName
  modulePath : text.Taken none (given "module_path") config.modulePath
  featuresPackage : text.optional.Taken (some none) (given "features_package")
    config.featuresPackage?
  mainTemplate : path.optional.Taken (some none) (given "main_template") config.mainTemplate?
  base : BasePackages.means.Taken (some {}) (given "base_packages") config.base
  resources : Resource.means.list.Taken (some []) (given "resources") config.resources

def textFields : List String := ["root_group", "short_name", "module_path", "features_package"]

structure Typed (given : String → List Value) : Prop where
  texts : ∀ name ∈ textFields, text.Typed (given name)
  template : path.Typed (given "main_template")
  base : BasePackages.means.Typed (given "base_packages")
  resources : Resource.means.list.Typed (given "resources")

/-- The document with these entries has the shape of a configuration, and of this one. -/
def Described (entries : List (String × Value)) (config : Config) : Prop :=
  Typed (valuesUnder entries) ∧ Holds (valuesUnder entries) config

end Config

/-! ### Decoders of single values -/

theorem bind_eq_ok_iff {ε α β : Type} {first : Except ε α} {next : α → Except ε β} {b : β} :
    (first >>= next) = .ok b ↔ ∃ a, first = .ok a ∧ next a = .ok b := by
  cases first with
  | error fault => exact ⟨nofun, nofun⟩
  | ok a =>
    constructor
    · intro result
      exact ⟨a, rfl, result⟩
    · rintro ⟨_, same, result⟩
      cases same
      exact result

theorem checked_bind_eq_ok_iff {ε β : Type} {check : Except ε Unit} {rest : Except ε β} {b : β} :
    (check >>= fun _ => rest) = .ok b ↔ check = .ok () ∧ rest = .ok b := by
  rw [bind_eq_ok_iff]
  constructor
  · rintro ⟨_, checked, result⟩
    exact ⟨checked, result⟩
  · rintro ⟨checked, result⟩
    exact ⟨(), checked, result⟩

theorem map_eq_ok_iff {ε α β : Type} {first : Except ε α} {f : α → β} {b : β} :
    first.map f = .ok b ↔ ∃ a, first = .ok a ∧ f a = b := by
  cases first with
  | error fault => exact ⟨nofun, nofun⟩
  | ok a => simp [Except.map]

namespace Decoder

variable {α : Type} {decode : Decoder α} {means : Meaning α}

def Decodes (decode : Decoder α) (means : Meaning α) : Prop :=
  ∀ value held, decode value = .ok held ↔ means value held

theorem text_eq_ok_iff {expected content : String} {value : Value} :
    Decoder.text expected value = .ok content ↔ value = .text content := by
  cases value <;> simp [Decoder.text, wrongType]

theorem string_decodes : Decodes string Meaning.text := fun _ _ => text_eq_ok_iff

theorem path_decodes : Decodes path Meaning.path := by
  intro value held
  unfold path Meaning.path
  rw [map_eq_ok_iff]
  constructor
  · rintro ⟨content, decoded, rfl⟩
    exact text_eq_ok_iff.mp decoded
  · intro spelled
    exact ⟨held.text, text_eq_ok_iff.mpr spelled, rfl⟩

theorem mapM_eq_ok_iff (decodes : Decodes decode means) {items : List Value} {held : List α} :
    items.mapM decode = .ok held ↔ List.Forall₂ means items held := by
  induction items generalizing held with
  | nil => cases held <;> simp [pure, Except.pure]
  | cons item rest ih =>
    rw [List.mapM_cons, bind_eq_ok_iff]
    simp only [bind_eq_ok_iff, ih]
    constructor
    · rintro ⟨first, decoded, others, agree, same⟩
      cases same
      exact .cons ((decodes item first).mp decoded) agree
    · rintro (_ | ⟨meant, agree⟩)
      exact ⟨_, (decodes item _).mpr meant, _, agree, rfl⟩

theorem list_decodes (decodes : Decodes decode means) : Decodes (list decode) (means.list) := by
  intro value held
  unfold Meaning.list
  cases value with
  | array items => simp [list, mapM_eq_ok_iff decodes]
  | _ => simp [list, wrongType]

theorem accepts_eq_ok_iff (decodes : Decodes decode means) {value : Value} :
    accepts decode value = .ok () ↔ ∃ held, means value held := by
  unfold accepts
  simp only [map_eq_ok_iff, and_true, decodes value]

theorem if_accepts_iff (decodes : Decodes decode means) {value : Value} {known : Prop}
    [Decidable known] :
    (if known then accepts decode value else .ok ()) = .ok () ↔
      (known → ∃ content, means value content) := by
  split
  case isTrue holds => simp [holds, accepts_eq_ok_iff decodes]
  case isFalse fails => simp [fails]

/-! ### Decoders of fields -/

def first? (decode : Decoder α) : List Value → Except ShapeFault (Option α)
  | [] => .ok none
  | value :: _ => (decode value).map some

theorem field?_eq_first? (entries : List (String × Value)) (key : String) :
    field? entries key decode = first? decode (valuesUnder entries key) := by
  unfold field? valuesUnder
  rw [← List.head?_filter]
  cases entries.filter (·.1 == key) <;> rfl

theorem item?_eq_first? (items : List Value) (place : Nat) :
    item? items place decode = first? decode items[place]?.toList := by
  unfold item?
  cases items[place]? <;> rfl

theorem first?_eq_ok_iff (decodes : Decodes decode means) {values : List Value}
    {held : Option α} :
    first? decode values = .ok held ↔ means.optional.Taken (some none) values held := by
  cases values with
  | nil => simp [first?, Taken]
  | cons value rest =>
    refine map_eq_ok_iff.trans (exists_congr fun content => ?_)
    rw [decodes value content, eq_comm]

theorem taken_some_iff {fallback held : α} {values : List Value} :
    means.Taken (some fallback) values held ↔
      ∃ found, means.optional.Taken (some none) values found ∧ found.getD fallback = held := by
  cases values with
  | nil => simp [Taken]
  | cons value rest =>
    constructor
    · intro meant
      exact ⟨some held, ⟨held, meant, rfl⟩, rfl⟩
    · rintro ⟨_, ⟨_, meant, rfl⟩, rfl⟩
      exact meant

theorem taken_none_iff {held : α} {values : List Value} :
    means.Taken none values held ↔ means.optional.Taken (some none) values (some held) := by
  cases values with
  | nil => simp [Taken]
  | cons value rest => simp [Taken, Meaning.optional]

theorem required_eq_ok_iff (decodes : Decodes decode means) {entries : List (String × Value)}
    {key : String} {held : α} :
    required entries key decode = .ok held ↔ means.Taken none (valuesUnder entries key) held := by
  rw [taken_none_iff, ← first?_eq_ok_iff decodes, ← field?_eq_first?]
  unfold required
  rcases field? entries key decode with _ | (_ | _) <;> simp

theorem requiredItem_eq_ok_iff (decodes : Decodes decode means) {expected : String}
    {items : List Value} {place : Nat} {held : α} :
    requiredItem expected items place decode = .ok held ↔
      means.Taken none items[place]?.toList held := by
  rw [taken_none_iff, ← first?_eq_ok_iff decodes, ← item?_eq_first?]
  unfold requiredItem
  rcases item? items place decode with _ | (_ | _) <;> simp

theorem checkEntries_eq_ok_iff {check : String → Value → Except ShapeFault Unit}
    {entries : List (String × Value)} :
    checkEntries check entries = .ok () ↔
      ∀ key, ∀ value ∈ valuesUnder entries key, check key value = .ok () := by
  have each : checkEntries check entries = .ok () ↔
      ∀ entry ∈ entries, check entry.1 entry.2 = .ok () := by
    induction entries with
    | nil => simp [checkEntries]
    | cons entry rest ih =>
      rw [checkEntries, List.forall_mem_cons, ← ih]
      cases check entry.1 entry.2 <;> simp
  rw [each]
  unfold valuesUnder
  simp only [List.mem_map, List.mem_filter, beq_iff_eq]
  constructor
  · rintro checked key value ⟨entry, ⟨member, rfl⟩, rfl⟩
    exact checked entry member
  · intro checked entry member
    exact checked entry.1 entry.2 ⟨entry, ⟨member, rfl⟩, rfl⟩

theorem checkEntries_known_iff (decodes : Decodes decode means) {known : String → Prop}
    [DecidablePred known] {entries : List (String × Value)} :
    checkEntries (fun key value => if known key then accepts decode value else .ok ()) entries =
        .ok () ↔ ∀ key, known key → means.Typed (valuesUnder entries key) := by
  rw [checkEntries_eq_ok_iff]
  simp only [if_accepts_iff decodes]
  constructor
  · intro checked key holds value member
    exact checked key value member holds
  · intro typed key value member holds
    exact typed key holds value member

theorem typed_of_taken {default? : Option α} {value? : Option Value} {held : α}
    (taken : means.Taken default? value?.toList held) : means.Typed value?.toList := by
  intro value member
  rw [Option.mem_toList] at member
  subst member
  exact ⟨held, taken⟩

theorem typed_of_optional {values : List Value} (typed : means.optional.Typed values) :
    means.Typed values := by
  intro value member
  obtain ⟨_, content, meant, _⟩ := typed value member
  exact ⟨content, meant⟩

/-! ### Decoders of records -/

/-- A record is decoded from its table or its array as that form tells. -/
theorem record_decodes {name : String} {names : List String}
    {typed : (String → List Value) → Prop} {holds : (String → List Value) → α → Prop}
    {ofTable : List (String × Value) → Except ShapeFault α}
    {ofArray : List Value → Except ShapeFault α}
    (table : ∀ entries held, ofTable entries = .ok held ↔
      typed (valuesUnder entries) ∧ holds (valuesUnder entries) held)
    (array : ∀ items held, ofArray items = .ok held ↔
      holds (fun name => items[names.idxOf name]?.toList) held)
    (alone : ∀ (items : List Value) held,
      holds (fun name => items[names.idxOf name]?.toList) held →
        typed fun name => items[names.idxOf name]?.toList) :
    Decodes (Decoder.record name ofTable ofArray) (Meaning.record names typed holds) := by
  intro value held
  unfold Meaning.record
  cases value with
  | table entries => simp [Decoder.record, fieldValues?, table]
  | dateTime =>
    -- A date is decoded as the table without entries.
    have none : valuesUnder [] = fun _ => [] := rfl
    simp [Decoder.record, fieldValues?, table, none]
  | array items =>
    simp only [Decoder.record, fieldValues?, array, Option.some.injEq, exists_eq_left']
    exact ⟨fun holds => ⟨alone items held holds, holds⟩, fun described => described.2⟩
  | _ => simp [Decoder.record, fieldValues?, wrongType]

end Decoder

end ProviderGen
