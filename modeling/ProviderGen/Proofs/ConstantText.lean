import ProviderGen.Proofs.Imports
import ProviderGen.Proofs.Literal
import ProviderGen.Proofs.VersionFiles

/-!
Which texts the sources of a provider hold as constants, and which of them can be read back. Every
constant ends a line of its file. It is quoted as in messages, so a text is read back exactly if it
has no hidden characters other than tabs and line ends.
-/

namespace ProviderGen.Emit

open Text (bytes)
open Text.Literal (Readable octalDigits value?)

/-- Packages as they are imported: what stands before each of them on its line. -/
def importedConstants (packages : List String) : List (String × String) :=
  (withAliases [] packages).map fun (name, package) => ("\t" ++ name ++ " ", package)

/-- The texts that a call has as constants in its files, each with what stands before it on its
line. A controller without a package to watch has no file. -/
def constants : Call → List (String × String)
  | .types group version resources =>
    ("\tCRDGroup   = ", group) :: ("\tCRDVersion = ", version) ::
      resources.map fun resource => ("\treturn ", resource.resourceType)
  | .controller _ _ watchPackage featuresPackage? =>
    if watchPackage = "" then []
    else ("\tv1 ", watchPackage) :: featuresPackage?.toList.map fun features => ("\t_ ", features)
  | .register packages => importedConstants packages.unique
  | .setup controllers _ =>
    controllers.packages.entries.flatMap fun (_, packages) => importedConstants packages
  | .manifest .. | .conversion .. | .store | .format _ => []

def HoldsConstant (source opening text : String) : Prop :=
  opening ++ constant text ∈ Text.split '\n' source

theorem holdsConstant_of_mem {lines : List String} {opening text : String}
    (member : opening ++ constant text ∈ lines) (unbroken : '\n' ∉ opening.toList) :
    HoldsConstant (sourceText lines) opening text :=
  mem_split_sourceText member (not_mem_append.mpr ⟨unbroken, feed_not_mem_constant text⟩)

theorem holdsConstant_imported {lines packages : List String}
    (block : importLines (withAliases [] packages) ⊆ lines) {entry : String × String}
    (member : entry ∈ importedConstants packages) :
    HoldsConstant (sourceText lines) entry.1 entry.2 := by
  obtain ⟨⟨name, package⟩, listed, rfl⟩ := List.mem_map.mp member
  have unnamed : '\n' ∉ name.toList := feed_not_mem_of_mem_withAliases listed
  have unbroken : '\n' ∉ ("\t" ++ name ++ " ").toList :=
    not_mem_append.mpr ⟨not_mem_append.mpr ⟨by decide, unnamed⟩, by decide⟩
  refine holdsConstant_of_mem (block ?_) unbroken
  exact List.mem_append_right _ (List.mem_map.mpr ⟨(name, package), listed, rfl⟩)

/-! ### The files of each call -/

theorem registration_mem_typeFiles (root : HostPath) (group version : String)
    (resources : List Resource) :
    (registrationPath root group version,
      sourceText (groupVersionLines (packageName version) group version resources)) ∈
        typeFiles root group version resources := by
  rw [typeFiles_eq]
  exact List.mem_append_right _ (List.mem_cons_of_mem _ List.mem_cons_self)

theorem accessors_mem_typeFiles (root : HostPath) (group version : String)
    (resources : List Resource) :
    (accessorsPath root group version,
      sourceText (accessorLines (packageName version) resources)) ∈
        typeFiles root group version resources := by
  rw [typeFiles_eq]
  exact List.mem_append_right _ List.mem_cons_self

theorem exists_file_of_types (root : HostPath) {group version : String}
    {resources : List Resource} {entry : String × String}
    (member : entry ∈ constants (.types group version resources)) :
    ∃ file ∈ typeFiles root group version resources, HoldsConstant file.2 entry.1 entry.2 := by
  have registration := registration_mem_typeFiles root group version resources
  have accessors := accessors_mem_typeFiles root group version resources
  rcases List.mem_cons.mp member with rfl | member
  · have line : "\tCRDGroup   = " ++ constant group ∈
        groupVersionLines (packageName version) group version resources := by
      simp [groupVersionLines]
    refine ⟨_, registration, ?_⟩
    dsimp only
    exact holdsConstant_of_mem line (by decide)
  rcases List.mem_cons.mp member with rfl | member
  · have line : "\tCRDVersion = " ++ constant version ∈
        groupVersionLines (packageName version) group version resources := by
      simp [groupVersionLines]
    refine ⟨_, registration, ?_⟩
    dsimp only
    exact holdsConstant_of_mem line (by decide)
  obtain ⟨resource, listed, rfl⟩ := List.mem_map.mp member
  have line : "\treturn " ++ constant resource.resourceType ∈
      accessorLines (packageName version) resources := by
    unfold accessorLines
    refine List.mem_append_right _ (List.mem_flatMap.mpr ⟨resource, listed, ?_⟩)
    simp
  refine ⟨_, accessors, ?_⟩
  dsimp only
  exact holdsConstant_of_mem line (by decide)

theorem holdsConstant_controllerFile (root : HostPath) {group : String} {resource : Resource}
    {watchPackage : String} {featuresPackage? : Option String} {entry : String × String}
    (member : entry ∈ constants (.controller group resource watchPackage featuresPackage?)) :
    HoldsConstant (controllerFile root group resource watchPackage featuresPackage?).2
      entry.1 entry.2 := by
  unfold controllerFile
  rw [constants] at member
  split at member
  case isTrue => cases member
  case isFalse =>
    rcases List.mem_cons.mp member with rfl | member
    · have line : "\tv1 " ++ constant watchPackage ∈
          controllerLines group resource watchPackage featuresPackage? := by
        simp [controllerLines]
      dsimp only
      exact holdsConstant_of_mem line (by decide)
    · obtain ⟨features, some, rfl⟩ := List.mem_map.mp member
      obtain rfl := Option.mem_toList.mp some
      have line : "\t_ " ++ constant features ∈
          controllerLines group resource watchPackage (.some features) := by
        simp [controllerLines]
      dsimp only
      exact holdsConstant_of_mem line (by decide)

theorem holdsConstant_registerFile (root : HostPath) {packages : ApiPackages}
    {entry : String × String} (member : entry ∈ constants (.register packages)) :
    HoldsConstant (registerFile root packages).2 entry.1 entry.2 := by
  have imported : entry ∈ importedConstants packages.unique := member
  refine holdsConstant_imported ?_ imported
  unfold registerLines
  intro line imported
  simp [imported]

theorem exists_file_of_setup (root : HostPath) {controllers : ControllerMap}
    {mainTemplate? : Option HostPath} {entry : String × String}
    (member : entry ∈ constants (.setup controllers mainTemplate?)) :
    ∃ file ∈ setupFiles root controllers, HoldsConstant file.2 entry.1 entry.2 := by
  obtain ⟨⟨key, packages⟩, listed, imported⟩ := List.mem_flatMap.mp member
  refine ⟨_, List.mem_map.mpr ⟨(key, packages), listed, rfl⟩, ?_⟩
  refine holdsConstant_imported ?_ imported
  unfold setupLines
  intro line imported
  simp [imported]

namespace Target

theorem exists_file_of_mem_constants (target : Target) (template : String)
    (pending : PendingManifests) {call : Call} {entry : String × String}
    (member : entry ∈ constants call) :
    ∃ file ∈ target.files template pending call, HoldsConstant file.2 entry.1 entry.2 := by
  cases call with
  | types => exact exists_file_of_types target.root member
  | controller =>
    exact ⟨_, List.mem_singleton_self _, holdsConstant_controllerFile target.root member⟩
  | register => exact ⟨_, List.mem_singleton_self _, holdsConstant_registerFile target.root member⟩
  | setup =>
    obtain ⟨file, listed, holds⟩ := exists_file_of_setup target.root member
    exact ⟨file, List.mem_append_left _ listed, holds⟩
  | manifest | conversion | store | format => cases member

end Target

/-! ### Reading constants back -/

/-- Every text that a call has as a constant is quoted at the end of a line of one of its files. It
is read back from there exactly if all its characters are shown, tabs or line ends. It is a constant
of the source at all exactly if the others are zeros before two octal digits, and then another text
is read. -/
theorem constants_read_back_iff (target : Target) (template : String) (pending : PendingManifests)
    (call : Call) :
    ∀ entry ∈ constants call,
      (∃ file ∈ target.files template pending call, HoldsConstant file.2 entry.1 entry.2) ∧
      (value? (constant entry.2) = some (bytes entry.2) ↔
        ∀ c ∈ entry.2.toList, Readable c) ∧
      ((value? (constant entry.2)).isSome = true ↔ ∀ c after, c :: after <:+ entry.2.toList →
        Readable c ∨ c = '\x00' ∧ ∃ first ∈ octalDigits, ∃ second ∈ octalDigits, ∃ later,
          after = first :: second :: later) := by
  intro entry member
  exact ⟨target.exists_file_of_mem_constants template pending member,
    Text.Literal.value?_quoted_eq_bytes_iff entry.2, Text.Literal.isSome_value?_quoted_iff entry.2⟩

def typesOfUpstream (type : String) : Call :=
  .types "ec2.aws.example" "v1" [{
    name := "vpc", shortGroup := "ec2", version := "v1", kind := "VPC"
    resourceType? := some type }]

def constantsTarget : Target := ⟨⟨"out"⟩, ⟨"example.org/provider"⟩⟩

theorem quotedType_reads_back :
    ("\treturn ", "aws \"vpc\"\\\t") ∈ constants (typesOfUpstream "aws \"vpc\"\\\t") ∧
    (∀ c ∈ "aws \"vpc\"\\\t".toList, Readable c) ∧
    value? (constant "aws \"vpc\"\\\t") = some (bytes "aws \"vpc\"\\\t") := by
  have member : ("\treturn ", "aws \"vpc\"\\\t") ∈
      constants (typesOfUpstream "aws \"vpc\"\\\t") := by decide
  have each : ("aws \"vpc\"\\\t".toList.all fun c => decide (Readable c)) = true := by decide
  have readable : ∀ c ∈ "aws \"vpc\"\\\t".toList, Readable c :=
    fun c listed => of_decide_eq_true (List.all_eq_true.mp each c listed)
  obtain ⟨_, readBack, _⟩ :=
    constants_read_back_iff constantsTarget "" .empty (typesOfUpstream "aws \"vpc\"\\\t") _ member
  exact ⟨member, readable, readBack.mpr readable⟩

/-- A no-break space makes a text no string literal, and a zero before two octal digits makes it
another one. -/
theorem concealed_constants :
    (("\treturn ", "aws_vpc\u00a0") ∈ constants (typesOfUpstream "aws_vpc\u00a0") ∧
      constant "aws_vpc\u00a0" = "\"aws_vpc\\u\x7ba0\x7d\"" ∧
      value? (constant "aws_vpc\u00a0") = none) ∧
    (("\treturn ", "aws_vpc\x0012") ∈ constants (typesOfUpstream "aws_vpc\x0012") ∧
      constant "aws_vpc\x0012" = "\"aws_vpc\\012\"" ∧
      value? (constant "aws_vpc\x0012") = some (bytes "aws_vpc\n") ∧
      bytes "aws_vpc\n" ≠ bytes "aws_vpc\x0012") ∧
    ∀ type, ∃ file ∈ constantsTarget.files "" .empty (typesOfUpstream type),
      HoldsConstant file.2 "\treturn " type := by
  refine ⟨by decide +kernel, by decide +kernel, fun type => ?_⟩
  have member : ("\treturn ", type) ∈ constants (typesOfUpstream type) :=
    List.mem_cons_of_mem _ (List.mem_cons_of_mem _ List.mem_cons_self)
  exact constantsTarget.exists_file_of_mem_constants "" .empty member

end ProviderGen.Emit
