import ProviderGen.Emit.Source
import ProviderGen.Resource

/-!
The controller of a resource.
-/

namespace ProviderGen.Emit

def controllerLines (group : String) (resource : Resource) (watchPackage : String)
    (featuresPackage? : Option String) : List String :=
  fileStart (packageName resource.kind) ++ [
    "",
    "import (",
    "\tctrl \"sigs.k8s.io/controller-runtime\"",
    "",
    "\tv1 " ++ constant watchPackage] ++
  (match featuresPackage? with
    | some features => ["\t_ " ++ constant features]
    | none => []) ++ [
    ")",
    "",
    "// Setup adds a controller that reconciles " ++ resource.kind ++ " managed resources.",
    "func Setup(mgr ctrl.Manager) error \x7b",
    "\tname := \"managed/" ++ Text.lowercase resource.kind ++ "." ++ group ++ "\"",
    "\treturn ctrl.NewControllerManagedBy(mgr).",
    "\t\tNamed(name).",
    "\t\tFor(&v1." ++ resource.kind ++ "\x7b\x7d).",
    "\t\tComplete(nil)",
    "\x7d"]

def controllerFile (root : HostPath) (group : String) (resource : Resource)
    (watchPackage : String) (featuresPackage? : Option String) : HostPath × String :=
  ((controllerDirectory root group resource.kind).join "zz_controller.go",
    sourceText (controllerLines group resource watchPackage featuresPackage?))

end ProviderGen.Emit
