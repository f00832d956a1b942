import ProviderGen.Emit.Controller
import ProviderGen.Emit.HubSpoke
import ProviderGen.Proofs.VersionFiles

/-!
Which package clauses can be compiled. The sources of a version and of a controller declare the
package name of the version and of the kind, which is always an identifier and its own package name.
It can be declared exactly if what the version or kind keeps is neither a lone underscore nor a
keyword, which nothing prevents.
-/

namespace ProviderGen.Emit

/-! ### Identifiers -/

def IsIdentifier (name : String) : Prop :=
  match name.toList with
  | [] => False
  | first :: rest =>
    (first.isAlpha = true ∨ first = '_') ∧ ∀ c ∈ rest, c.isAlphanum = true ∨ c = '_'

def keywords : List String := [
  "break", "case", "chan", "const", "continue", "default", "defer", "else", "fallthrough", "for",
  "func", "go", "goto", "if", "import", "interface", "map", "package", "range", "return", "select",
  "struct", "switch", "type", "var"]

/-- What a package clause can declare. -/
structure IsDeclarable (name : String) : Prop where
  identifier : IsIdentifier name
  notBlank : name ≠ "_"
  notKeyword : name ∉ keywords

theorem IsPlain.isIdentifier {word : String} (plain : IsPlain word) : IsIdentifier word := by
  have named : ∀ c ∈ word.toList, c.isAlphanum = true ∨ c = '_' := by
    intro c member
    have kept : (c.isAlphanum || c == '_') = true :=
      isNameChar_of_isPackageChar (plain.letters c member)
    simpa using kept
  obtain ⟨first, rest, spelled, start⟩ := plain.start
  rw [spelled] at named
  unfold IsIdentifier
  rw [spelled]
  constructor
  · have kept := named first List.mem_cons_self
    unfold Char.isAlphanum at kept
    simpa [start] using kept
  · intro c member
    exact named c (List.mem_cons_of_mem first member)

/-- No keyword has a digit, and none is the name for what keeps nothing; nor is the underscore. -/
theorem packageName_eq_reserved_iff {name word : String} (reserved : word ∈ "_" :: keywords) :
    packageName name = word ↔ keptLetters name = word.toList := by
  have shape : ∀ word ∈ "_" :: keywords, IsVerbatim word := by decide
  exact (shape word reserved).packageName_eq_iff

theorem isDeclarable_packageName_iff (name : String) :
    IsDeclarable (packageName name) ↔
      ∀ word ∈ "_" :: keywords, keptLetters name ≠ word.toList := by
  constructor
  · intro declarable word reserved kept
    have same := (packageName_eq_reserved_iff reserved).mpr kept
    cases List.mem_cons.mp reserved with
    | inl blank => exact declarable.notBlank (same.trans blank)
    | inr keyword => exact declarable.notKeyword (same ▸ keyword)
  · intro free
    have apart : ∀ word ∈ "_" :: keywords, packageName name ≠ word := fun word reserved same =>
      free word reserved ((packageName_eq_reserved_iff reserved).mp same)
    refine ⟨(isPlain_packageName name).isIdentifier, apart _ List.mem_cons_self, ?_⟩
    exact fun keyword => apart _ (List.mem_cons_of_mem _ keyword) rfl

/-! ### Clauses of emitted sources -/

def Declares (text package : String) : Prop := "package " ++ package ∈ Text.split '\n' text

theorem declares_of_mem {lines : List String} {name : String}
    (member : "package " ++ packageName name ∈ lines) :
    Declares (sourceText lines) (packageName name) := by
  have unbroken : '\n' ∉ ("package " ++ packageName name).toList :=
    not_mem_append.mpr ⟨by decide, (isPlain_packageName name).not_mem (by decide)⟩
  exact mem_split_sourceText member unbroken

theorem declares_of_fileStart (name : String) (lines : List String) :
    Declares (sourceText (fileStart (packageName name) ++ lines)) (packageName name) :=
  declares_of_mem (List.mem_append_left lines (by simp [fileStart]))

theorem declares_typeFiles (root : HostPath) (group version : String)
    (resources : List Resource) :
    ∀ file ∈ typeFiles root group version resources, Declares file.2 (packageName version) := by
  rw [typeFiles_eq]
  intro file member
  cases List.mem_append.mp member with
  | inl types =>
    obtain ⟨resource, _, rfl⟩ := List.mem_map.mp types
    unfold typeText typeLines
    simp only [List.append_assoc]
    exact declares_of_fileStart version _
  | inr others =>
    simp only [List.mem_cons, List.not_mem_nil, or_false] at others
    cases others with
    | inl accessors =>
      subst accessors
      unfold accessorLines
      exact declares_of_fileStart version _
    | inr registration =>
      subst registration
      apply declares_of_mem
      simp [groupVersionLines]

theorem declares_conversionFile (root : HostPath) (group version : String) (kind : NodeKind)
    (resources : List Resource) :
    Declares (conversionFile root group version kind resources).2 (packageName version) := by
  unfold conversionFile
  cases kind with
  | hub =>
    unfold conversionLines hubLines
    exact declares_of_fileStart version _
  | spoke =>
    unfold conversionLines spokeLines
    simp only [List.append_assoc]
    exact declares_of_fileStart version _

theorem declares_controllerFile (root : HostPath) (group : String) (resource : Resource)
    (watchPackage : String) (featuresPackage? : Option String) :
    Declares (controllerFile root group resource watchPackage featuresPackage?).2
      (packageName resource.kind) := by
  unfold controllerFile controllerLines
  simp only [List.append_assoc]
  exact declares_of_fileStart resource.kind _

/-- The sources of a version declare the package name of the version, and that of a controller the
package name of the kind. A package name is an identifier and its own package name, whatever the
name is; and it can be declared exactly if what the name keeps is neither a lone underscore nor a
keyword. -/
theorem packageName_declarable_iff (root : HostPath) (group version : String)
    (resources : List Resource) (kind : NodeKind) (resource : Resource) (watchPackage : String)
    (featuresPackage? : Option String) (name : String) :
    ((∀ file ∈ typeFiles root group version resources, Declares file.2 (packageName version)) ∧
      Declares (conversionFile root group version kind resources).2 (packageName version) ∧
      Declares (controllerFile root group resource watchPackage featuresPackage?).2
        (packageName resource.kind)) ∧
    IsIdentifier (packageName name) ∧
    packageName (packageName name) = packageName name ∧
    (IsDeclarable (packageName name) ↔
      ∀ word ∈ "_" :: keywords, keptLetters name ≠ word.toList) := by
  have plain := isPlain_packageName name
  exact ⟨⟨declares_typeFiles root group version resources,
    declares_conversionFile root group version kind resources,
    declares_controllerFile root group resource watchPackage featuresPackage?⟩,
    plain.isIdentifier, plain.packageName_eq, isDeclarable_packageName_iff name⟩

def vpc : Resource where
  name := "vpc"
  shortGroup := "ec2"
  version := "v1beta1"
  kind := "VPC"

theorem vpc_declarable :
    (∃ file ∈ typeFiles ⟨"out"⟩ "ec2.aws.example" "v1beta1" [vpc], Declares file.2 "v1beta1") ∧
    Declares (controllerFile ⟨"out"⟩ "ec2.aws.example" vpc "example.org/apis/ec2/v1beta1" none).2
      "vpc" ∧
    (∀ word ∈ "_" :: keywords, keptLetters "VPC" ≠ word.toList) ∧ IsDeclarable "vpc" := by
  obtain ⟨⟨types, _, controller⟩, _, _, declarable⟩ := packageName_declarable_iff ⟨"out"⟩
    "ec2.aws.example" "v1beta1" [vpc] .hub vpc "example.org/apis/ec2/v1beta1" none "VPC"
  have kind : packageName "VPC" = "vpc" := by decide
  have version : packageName "v1beta1" = "v1beta1" := by decide
  have free : ∀ word ∈ "_" :: keywords, keptLetters "VPC" ≠ word.toList := by decide
  rw [kind] at declarable
  rw [version] at types
  change Declares _ (packageName "VPC") at controller
  rw [kind] at controller
  exact ⟨⟨_, List.mem_cons_self, types _ List.mem_cons_self⟩, controller, free,
    declarable.mpr free⟩

def reserved : Resource where
  name := "location_map"
  shortGroup := "location"
  version := "_"
  kind := "Map"

/-- The controller of a kind can declare a keyword as its package, and a version no name at all. -/
theorem reserved_declared :
    Declares (controllerFile ⟨"out"⟩ "location.aws.example" reserved "example.org/apis/location/_"
      none).2 "map" ∧
    Declares (conversionFile ⟨"out"⟩ "location.aws.example" "_" .hub [reserved]).2 "_" ∧
    ¬IsDeclarable (packageName reserved.kind) ∧ ¬IsDeclarable (packageName reserved.version) := by
  have kind : packageName reserved.kind = "map" := by decide
  have version : packageName "_" = "_" := by decide
  have controller := declares_controllerFile ⟨"out"⟩ "location.aws.example" reserved
    "example.org/apis/location/_" none
  have conversion := declares_conversionFile ⟨"out"⟩ "location.aws.example" "_" .hub [reserved]
  rw [kind] at controller
  rw [version] at conversion
  refine ⟨controller, conversion, fun declarable => ?_,
    fun declarable => declarable.notBlank version⟩
  rw [kind] at declarable
  exact declarable.notKeyword (by decide)

end ProviderGen.Emit
