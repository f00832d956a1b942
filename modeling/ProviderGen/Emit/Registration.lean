import ProviderGen.ApiPackages
import ProviderGen.Emit.Source

/-!
The registration of every API version package, each once and in the order in which it first
occurs.
-/

namespace ProviderGen.Emit

def registerLines (packages : ApiPackages) : List String :=
  let imports := withAliases [] packages.unique
  [ generatedHeader,
    "",
    "// Package apis contains Kubernetes API for the provider.",
    "package apis",
    "",
    "import (",
    "\t\"k8s.io/apimachinery/pkg/runtime\""] ++
  importLines imports ++ [
    ")",
    "",
    "func init() \x7b",
    "\t// Register the types with the Scheme so the components can map objects to " ++
      "GroupVersionKinds and back",
    "\tAddToSchemes = append(AddToSchemes,"] ++
  (imports.map fun (name, _) => "\t\t" ++ name ++ ".SchemeBuilder.AddToScheme,") ++ [
    "\t)",
    "\x7d",
    "",
    "// AddToSchemes may be used to add all resources defined in the project to a Scheme",
    "var AddToSchemes runtime.SchemeBuilder",
    "",
    "// AddToScheme adds all Resources to the Scheme",
    "func AddToScheme(s *runtime.Scheme) error \x7b",
    "\treturn AddToSchemes.AddToScheme(s)",
    "\x7d"]

def registerFile (root : HostPath) (packages : ApiPackages) : HostPath × String :=
  ((root.join "apis").join "zz_register.go", sourceText (registerLines packages))

end ProviderGen.Emit
