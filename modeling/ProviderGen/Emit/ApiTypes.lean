import ProviderGen.Emit.Source
import ProviderGen.Resource

/-!
The API types of one version of a group: one file per resource, the accessors of all of them and
the registration of the version.
-/

namespace ProviderGen.Emit

/-- The types of one resource. The marker of the storage version stands in the hub version. -/
def typeLines (package version : String) (resource : Resource) : List String :=
  let kind := resource.kind
  fileStart package ++ [
    "",
    "import (",
    "\tmetav1 \"k8s.io/apimachinery/pkg/apis/meta/v1\"",
    ")",
    "",
    "// " ++ kind ++ "Parameters are the configurable fields of a " ++ kind ++ ".",
    "type " ++ kind ++ "Parameters struct\x7b\x7d",
    "",
    "// " ++ kind ++ "Observation are the observable fields of a " ++ kind ++ ".",
    "type " ++ kind ++ "Observation struct\x7b\x7d",
    "",
    "// " ++ kind ++ "Spec defines the desired state of " ++ kind,
    "type " ++ kind ++ "Spec struct \x7b",
    "\tForProvider " ++ kind ++ "Parameters `json:\"forProvider\"`",
    "\x7d",
    "",
    "// " ++ kind ++ "Status defines the observed state of " ++ kind ++ ".",
    "type " ++ kind ++ "Status struct \x7b",
    "\tAtProvider " ++ kind ++ "Observation `json:\"atProvider,omitempty\"`",
    "\x7d",
    "",
    "// +kubebuilder:object:root=true"] ++
  (if resource.hubVersion = version then ["// +kubebuilder:storageversion"] else []) ++ [
    "",
    "// " ++ kind ++ " is the Schema for the " ++ kind ++ "s API.",
    "type " ++ kind ++ " struct \x7b",
    "\tmetav1.TypeMeta   `json:\",inline\"`",
    "\tmetav1.ObjectMeta `json:\"metadata,omitempty\"`",
    "\tSpec   " ++ kind ++ "Spec   `json:\"spec\"`",
    "\tStatus " ++ kind ++ "Status `json:\"status,omitempty\"`",
    "\x7d",
    "",
    "// +kubebuilder:object:root=true",
    "",
    "// " ++ kind ++ "List contains a list of " ++ kind ++ "s",
    "type " ++ kind ++ "List struct \x7b",
    "\tmetav1.TypeMeta `json:\",inline\"`",
    "\tmetav1.ListMeta `json:\"metadata,omitempty\"`",
    "\tItems []" ++ kind ++ " `json:\"items\"`",
    "\x7d"]

def accessorLines (package : String) (resources : List Resource) : List String :=
  fileStart package ++ resources.flatMap fun resource => [
    "",
    "// GetTerraformResourceType returns the upstream resource type for this " ++ resource.kind,
    "func (mg *" ++ resource.kind ++ ") GetTerraformResourceType() string \x7b",
    "\treturn " ++ constant resource.resourceType,
    "\x7d"]

def groupVersionLines (package group version : String) (resources : List Resource) :
    List String :=
  [ generatedHeader,
    "",
    "// +kubebuilder:object:generate=true",
    "// +groupName=" ++ group,
    "// +versionName=" ++ version,
    "package " ++ package,
    "",
    "import (",
    "\t\"k8s.io/apimachinery/pkg/runtime/schema\"",
    "\t\"sigs.k8s.io/controller-runtime/pkg/scheme\"",
    ")",
    "",
    "// Package type metadata.",
    "const (",
    "\tCRDGroup   = " ++ constant group,
    "\tCRDVersion = " ++ constant version,
    ")",
    "",
    "var (",
    "\t// CRDGroupVersion is the API Group Version used to register the objects",
    "\tCRDGroupVersion = schema.GroupVersion\x7bGroup: CRDGroup, Version: CRDVersion\x7d",
    "",
    "\t// SchemeBuilder is used to add go types to the GroupVersionKind scheme",
    "\tSchemeBuilder = &scheme.Builder\x7bGroupVersion: CRDGroupVersion\x7d",
    "",
    "\t// AddToScheme adds the types in this group-version to the given scheme.",
    "\tAddToScheme = SchemeBuilder.AddToScheme",
    ")",
    "",
    "func init() \x7b"] ++
  (resources.map fun resource =>
    "\tSchemeBuilder.Register(&" ++ resource.kind ++ "\x7b\x7d, &" ++ resource.kind ++
      "List\x7b\x7d)") ++
  ["\x7d"]

def typeFileName (kind : String) : String := "zz_" ++ Text.lowercase kind ++ "_types.go"

def typeFiles (root : HostPath) (group version : String) (resources : List Resource) :
    List (HostPath × String) :=
  let directory := apiDirectory root group version
  let package := packageName version
  (resources.map fun resource =>
    (directory.join (typeFileName resource.kind),
      sourceText (typeLines package version resource))) ++ [
    (directory.join "zz_generated_resources.go", sourceText (accessorLines package resources)),
    (directory.join "zz_groupversion_info.go",
      sourceText (groupVersionLines package group version resources))]

end ProviderGen.Emit
