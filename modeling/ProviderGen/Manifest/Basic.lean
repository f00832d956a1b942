import ProviderGen.Resource
import ProviderGen.Yaml.Scalar

/-!
Example manifests of resources and where they are written.
-/

namespace ProviderGen

structure Manifest where
  apiVersion : String
  kind : String
  name : String
  exampleId : String
deriving DecidableEq, Repr, Inhabited

namespace Manifest

def ofResource (group version : String) (resource : Resource) : Manifest :=
  let kind := Text.lowercase resource.kind
  { apiVersion := group ++ "/" ++ version
    kind := resource.kind
    name := "example-" ++ kind
    exampleId := Text.lowercase (groupLabel group) ++ "/" ++ version ++ "/" ++ kind }

def fileName (resource : String) : String :=
  String.ofList (resource.toList.map fun c => if c = '_' then '-' else c) ++ ".yaml"

def path (root : HostPath) (group version resource : String) : HostPath :=
  (((root.join "examples-generated").join (Text.lowercase (groupLabel group))).join version).join
    (fileName resource)

def text (manifest : Manifest) : String :=
  "apiVersion: " ++ Yaml.scalar 2 manifest.apiVersion ++
  "kind: " ++ Yaml.scalar 2 manifest.kind ++
  "metadata:\n" ++
  "  name: " ++ Yaml.scalar 4 manifest.name ++
  "  annotations:\n" ++
  "    meta.upbound.io/example-id: " ++ Yaml.scalar 6 manifest.exampleId ++
  "spec:\n" ++
  "  forProvider: \x7b\x7d\n"

end Manifest

end ProviderGen
