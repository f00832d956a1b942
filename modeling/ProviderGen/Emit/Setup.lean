import ProviderGen.ControllerMap
import ProviderGen.Emit.Source
import ProviderGen.Text.Replace

/-!
The setup of the controllers under each key, and the main programs rendered from a template.
-/

namespace ProviderGen.Emit

def setupFunction (key : String) : String :=
  if key = monolithKey then "Setup" else "Setup_" ++ packageName key

def setupLines (key : String) (packages : List String) : List String :=
  let imports := withAliases [] packages
  let function := setupFunction key
  fileStart "controller" ++ [
    "",
    "import (",
    "\tctrl \"sigs.k8s.io/controller-runtime\""] ++
  importLines imports ++ [
    ")",
    "",
    "// " ++ function ++ " creates all controllers with the supplied logger and adds them to",
    "// the supplied manager.",
    "func " ++ function ++ "(mgr ctrl.Manager) error \x7b",
    "\tfor _, setup := range []func(ctrl.Manager) error\x7b"] ++
  (imports.map fun (name, _) => "\t\t" ++ name ++ ".Setup,") ++ [
    "\t\x7d \x7b",
    "\t\tif err := setup(mgr); err != nil \x7b",
    "\t\t\treturn err",
    "\t\t\x7d",
    "\t\x7d",
    "\treturn nil",
    "\x7d"]

def setupFiles (root : HostPath) (controllers : ControllerMap) : List (HostPath × String) :=
  let directory := (root.join "internal").join "controller"
  controllers.packages.entries.map fun (key, packages) =>
    (directory.join ("zz_" ++ packageName key ++ "_setup.go"),
      sourceText (setupLines key packages))

def groupPlaceholder : String := "\x7b\x7b .Group \x7d\x7d"
def modulePlaceholder : String := "\x7b\x7b .ModulePath \x7d\x7d"

/-- The key is filled in before the module path. -/
def renderMain (template key modulePath : String) : String :=
  Text.replaceAll modulePlaceholder modulePath (Text.replaceAll groupPlaceholder key template)

def mainFiles (root : HostPath) (modulePath template : String) (keys : List String) :
    List (HostPath × String) :=
  keys.map fun key =>
    ((((root.join "cmd").join "provider").join (packageName key)).join "zz_main.go",
      renderMain template key modulePath)

end ProviderGen.Emit
