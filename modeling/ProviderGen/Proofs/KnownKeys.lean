import ProviderGen.Proofs.RecordDecoding

/-!
Unknown keys. What is known of a document is found by leaving out the entries under unknown keys in
each of its tables, however deep these lie; decoders give the same answer for what is known, also
where that is an error, so two documents that differ in unknown keys only cannot be told apart.
-/

namespace ProviderGen

open Toml (Value)

abbrev KnownFields := List (String × (Value → Value))

namespace KnownFields

variable (fields : KnownFields)

def entries (table : List (String × Value)) : List (String × Value) :=
  table.filterMap fun entry => (fields.lookup entry.1).map fun known => (entry.1, known entry.2)

def items (array : List Value) : List Value :=
  array.mapIdx fun place item => (fields[place]?.elim id Prod.snd) item

def ofRecord : Value → Value
  | .table table => .table (fields.entries table)
  | .array array => .array (fields.items array)
  | value => value

def ofRecords : Value → Value
  | .array array => .array (array.map fields.ofRecord)
  | value => value

def plain (names : List String) : KnownFields := names.map fun name => (name, id)

theorem items_plain (names : List String) (array : List Value) :
    (plain names).items array = array := by
  unfold items plain
  rw [List.mapIdx_eq_iff]
  intro place
  rw [List.getElem?_map]
  cases names[place]? <;> cases array[place]? <;> rfl

end KnownFields

def ControllerEntry.knownFields : KnownFields := .plain fieldNames

def BasePackages.knownFields : KnownFields :=
  [("api_version", id), ("controller", id),
    ("controller_map", ControllerEntry.knownFields.ofRecords)]

def Resource.knownFields : KnownFields := .plain fieldNames

def Config.knownFields : KnownFields :=
  [("root_group", id), ("short_name", id), ("module_path", id), ("features_package", id),
    ("main_template", id), ("base_packages", BasePackages.knownFields.ofRecord),
    ("resources", Resource.knownFields.ofRecords)]

/-- Only the first of the two base packages is known, and an entry without its remark. -/
example : Config.knownFields.entries [
    ("root_group", .text "aws.example"), ("owner", .text "network"),
    ("base_packages", .table [
      ("controller_map", .array [.table [
        ("package", .text "internal/eks"), ("remark", .boolean true), ("key", .text "eks")]]),
      ("controllers", .array [])])] = [
    ("root_group", .text "aws.example"),
    ("base_packages", .table [
      ("controller_map", .array [.table [
        ("package", .text "internal/eks"), ("key", .text "eks")]])])] := by
  rfl

namespace Decoder

variable {α : Type} {decode : Decoder α} {known : Value → Value}

/-- A decoder gives the same answer for what is known of a value. -/
def Heeds (decode : Decoder α) (known : Value → Value) : Prop :=
  ∀ value, decode (known value) = decode value

theorem heeds_id (decode : Decoder α) : Heeds decode id := fun _ => rfl

theorem accepts_known (heeds : Heeds decode known) (value : Value) :
    accepts decode (known value) = accepts decode value := by
  unfold accepts
  rw [heeds]

variable {fields : KnownFields}

theorem mem_of_lookup {key : String} (found : fields.lookup key = some known) :
    (key, known) ∈ fields := by
  obtain ⟨before, after, split, _⟩ := List.lookup_eq_some_iff.mp found
  rw [split]
  exact List.mem_append_right before List.mem_cons_self

theorem checkEntries_entries {check : String → Value → Except ShapeFault Unit}
    (unknown : ∀ key, (∀ field ∈ fields, key ≠ field.1) → ∀ value, check key value = .ok ())
    (heeds : ∀ field ∈ fields, ∀ value, check field.1 (field.2 value) = check field.1 value)
    (table : List (String × Value)) :
    checkEntries check (fields.entries table) = checkEntries check table := by
  induction table with
  | nil => rfl
  | cons entry rest ih =>
    unfold KnownFields.entries at ih ⊢
    rw [checkEntries]
    cases found : fields.lookup entry.1 with
    | none =>
      have other : ∀ field ∈ fields, entry.1 ≠ field.1 := fun field member =>
        bne_iff_ne.mp (List.lookup_eq_none_iff.mp found field member)
      rw [List.filterMap_cons_none (by rw [found]; rfl), ih, unknown _ other]
    | some known =>
      rw [List.filterMap_cons_some (by rw [found]; rfl), checkEntries,
        heeds _ (mem_of_lookup found), ih]

theorem checkEntries_plain {names : List String}
    {check : String → Value → Except ShapeFault Unit}
    (unknown : ∀ key, key ∉ names → ∀ value, check key value = .ok ())
    (table : List (String × Value)) :
    checkEntries check ((KnownFields.plain names).entries table) = checkEntries check table := by
  refine checkEntries_entries (fun key other => unknown key fun member => ?_)
    (fun field member value => ?_) table
  · exact other (key, id) (List.mem_map_of_mem member) rfl
  · obtain ⟨name, _, rfl⟩ := List.mem_map.mp member
    rfl

theorem field?_entries {key : String} (found : fields.lookup key = some known)
    (heeds : Heeds decode known) (table : List (String × Value)) :
    field? (fields.entries table) key decode = field? table key decode := by
  induction table with
  | nil => rfl
  | cons entry rest ih =>
    unfold KnownFields.entries field? at ih ⊢
    by_cases same : entry.1 = key
    · subst same
      rw [List.filterMap_cons_some (by rw [found]; rfl)]
      simp [heeds entry.2]
    · -- An entry under another key is passed over, whether that key is known or not.
      rw [List.find?_cons_of_neg (by simpa using same), ← ih]
      cases other : fields.lookup entry.1 with
      | none => rw [List.filterMap_cons_none (by rw [other]; rfl)]
      | some known =>
        rw [List.filterMap_cons_some (by rw [other]; rfl),
          List.find?_cons_of_neg (by simpa using same)]

theorem required_entries {key : String} (found : fields.lookup key = some known)
    (heeds : Heeds decode known) (table : List (String × Value)) :
    required (fields.entries table) key decode = required table key decode := by
  unfold required
  rw [field?_entries found heeds]

/-! A field whose values are known as a whole is read alike under any decoder. -/

theorem field?_plain {key : String} (found : fields.lookup key = some id) (decode : Decoder α)
    (table : List (String × Value)) :
    field? (fields.entries table) key decode = field? table key decode :=
  field?_entries found (heeds_id decode) table

theorem required_plain {key : String} (found : fields.lookup key = some id) (decode : Decoder α)
    (table : List (String × Value)) :
    required (fields.entries table) key decode = required table key decode :=
  required_entries found (heeds_id decode) table

theorem item?_items {place : Nat} {name : String} (found : fields[place]? = some (name, known))
    (heeds : Heeds decode known) (array : List Value) :
    item? (fields.items array) place decode = item? array place decode := by
  unfold item? KnownFields.items
  rw [List.getElem?_mapIdx]
  cases array[place]? with
  | none => rfl
  | some value =>
    change (decode ((fields[place]?.elim id Prod.snd) value)).map some = _
    rw [found]
    exact congrArg _ (heeds value)

theorem heeds_ofRecord {name : String} {ofTable : List (String × Value) → Except ShapeFault α}
    {ofArray : List Value → Except ShapeFault α}
    (table : ∀ entries, ofTable (fields.entries entries) = ofTable entries)
    (array : ∀ items, ofArray (fields.items items) = ofArray items) :
    Heeds (record name ofTable ofArray) fields.ofRecord := by
  intro value
  cases value with
  | table entries => exact table entries
  | array items => exact array items
  | _ => rfl

theorem heeds_ofRecords (heeds : Heeds decode fields.ofRecord) :
    Heeds (list decode) fields.ofRecords := by
  intro value
  cases value with
  | array items =>
    change (items.map fields.ofRecord).mapM decode = items.mapM decode
    induction items with
    | nil => rfl
    | cons item rest ih => rw [List.map_cons, List.mapM_cons, List.mapM_cons, heeds, ih]
  | _ => rfl

end Decoder

open Decoder

namespace ControllerEntry

theorem ofTable_entries (table : List (String × Value)) :
    ofTable (knownFields.entries table) = ofTable table := by
  unfold ofTable
  rw [knownFields, checkEntries_plain fun key other value => ?unknown, required_plain rfl,
    required_plain rfl]
  simp only [fieldNames, List.mem_cons, List.not_mem_nil, or_false, not_or] at other
  simp [other]

theorem heeds_known : Heeds decode knownFields.ofRecord :=
  heeds_ofRecord ofTable_entries fun _ => congrArg ofArray (KnownFields.items_plain ..)

end ControllerEntry

namespace BasePackages

theorem heeds_known_map :
    Heeds (list ControllerEntry.decode) ControllerEntry.knownFields.ofRecords :=
  heeds_ofRecords ControllerEntry.heeds_known

theorem ofTable_entries (table : List (String × Value)) :
    ofTable (knownFields.entries table) = ofTable table := by
  rw [ofTable_eq, ofTable_eq,
    checkEntries_entries (fun key other value => ?unknown) ?heeds]
  case unknown =>
    simp only [knownFields, List.forall_mem_cons] at other
    simp [check, other.1, other.2.1, other.2.2.1]
  case heeds =>
    simp only [knownFields, List.forall_mem_cons]
    exact ⟨fun _ => rfl, fun _ => rfl, accepts_known heeds_known_map,
      List.forall_mem_nil _⟩
  unfold assemble
  beta_reduce
  rw [field?_plain rfl, field?_plain rfl, field?_entries rfl heeds_known_map]

theorem heeds_known : Heeds decode knownFields.ofRecord := by
  refine heeds_ofRecord ofTable_entries fun items => ?_
  unfold ofArray
  rw [item?_items rfl (heeds_id _), item?_items rfl (heeds_id _), item?_items rfl heeds_known_map]

end BasePackages

namespace Resource

theorem ofTable_entries (table : List (String × Value)) :
    ofTable (knownFields.entries table) = ofTable table := by
  rw [ofTable_eq, ofTable_eq, knownFields, checkEntries_plain fun _ other _ => if_neg other]
  unfold assemble
  beta_reduce
  rw [required_plain rfl, field?_plain rfl, field?_plain rfl, required_plain rfl,
    required_plain rfl, field?_plain rfl, field?_plain rfl, field?_plain rfl]

theorem heeds_known : Heeds decode knownFields.ofRecord :=
  heeds_ofRecord ofTable_entries fun _ => congrArg ofArray (KnownFields.items_plain ..)

end Resource

namespace Config

/-- What is known of a document is all that counts of it. -/
theorem ofDocument_entries (table : List (String × Value)) :
    ofDocument (knownFields.entries table) = ofDocument table := by
  have listed := heeds_ofRecords Resource.heeds_known
  unfold ofDocument
  rw [checkEntries_entries (fun key other value => ?unknown) ?heeds]
  case unknown =>
    simp only [knownFields, List.forall_mem_cons] at other
    obtain ⟨root, short, module, features, template, base, resources, _⟩ := other
    simp [checkEntry, root, short, module, features, template, base, resources]
  case heeds =>
    simp only [knownFields, List.forall_mem_cons]
    exact ⟨fun _ => rfl, fun _ => rfl, fun _ => rfl, fun _ => rfl, fun _ => rfl,
      accepts_known BasePackages.heeds_known, accepts_known listed,
      List.forall_mem_nil _⟩
  rw [required_plain rfl, required_plain rfl, required_plain rfl, field?_plain rfl,
    field?_plain rfl, field?_entries rfl BasePackages.heeds_known, field?_entries rfl listed]

end Config

end ProviderGen
