import ProviderGen.HubSpoke
import ProviderGen.Emit.Source

/-!
Conversion functions: hubs are marked, and spokes convert to and from their hub.
-/

namespace ProviderGen.Emit

def hubLines (package : String) (resources : List Resource) : List String :=
  fileStart package ++ resources.flatMap fun resource => [
    "",
    "// Hub marks this type as a conversion hub.",
    "func (tr *" ++ resource.kind ++ ") Hub() \x7b\x7d"]

def spokeFunctions (resource : Resource) : List String :=
  let kind := resource.kind
  [ "",
    "// ConvertTo converts this " ++ kind ++ " to the hub type (" ++ resource.hubVersion ++ ").",
    "func (tr *" ++ kind ++ ") ConvertTo(dstRaw conversion.Hub) error \x7b",
    "\treturn roundTrip(dstRaw, tr)",
    "\x7d",
    "",
    "// ConvertFrom converts from the hub type to the " ++ kind ++ " type.",
    "func (tr *" ++ kind ++ ") ConvertFrom(srcRaw conversion.Hub) error \x7b",
    "\treturn roundTrip(tr, srcRaw)",
    "\x7d"]

def spokeLines (package : String) (resources : List Resource) : List String :=
  fileStart package ++ [
    "",
    "import (",
    "\t\"encoding/json\"",
    "",
    "\t\"sigs.k8s.io/controller-runtime/pkg/conversion\"",
    ")"] ++
  resources.flatMap spokeFunctions ++ [
    "",
    "func roundTrip(dst, src any) error \x7b",
    "\tb, err := json.Marshal(src)",
    "\tif err != nil \x7b",
    "\t\treturn err",
    "\t\x7d",
    "\treturn json.Unmarshal(b, dst)",
    "\x7d"]

def conversionFileName : NodeKind → String
  | .hub => "zz_generated.conversion_hubs.go"
  | .spoke => "zz_generated.conversion_spokes.go"

def conversionLines (version : String) (kind : NodeKind) (resources : List Resource) :
    List String :=
  match kind with
  | .hub => hubLines (packageName version) resources
  | .spoke => spokeLines (packageName version) resources

def conversionFile (root : HostPath) (group version : String) (kind : NodeKind)
    (resources : List Resource) : HostPath × String :=
  ((apiDirectory root group version).join (conversionFileName kind),
    sourceText (conversionLines version kind resources))

end ProviderGen.Emit
