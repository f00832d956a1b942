import ProviderGen.Generation.Run
import ProviderGen.Json.Printer

/-!
The plan of a configuration as a JSON document. Members that hold nothing of interest are left
out: an empty informational group and overrides that are not set.
-/

namespace ProviderGen

open Json

def Json.optional (name : String) : Option String → List (String × Json)
  | some text => [(name, .string text)]
  | none => []

def Resource.json (resource : Resource) : Json :=
  .object <|
    [("name", .string resource.name)] ++
    (if resource.group = "" then [] else [("group", .string resource.group)]) ++
    [("short_group", .string resource.shortGroup),
      ("version", .string resource.version),
      ("kind", .string resource.kind)] ++
    optional "controller_reconcile_version" resource.reconcileVersion? ++
    optional "hub_version" resource.hubVersion? ++
    optional "terraform_resource_type" resource.resourceType?

def OrderedMap.json {α : Type} (value : α → Json) (m : OrderedMap String α) : Json :=
  .object (m.entries.map fun (key, a) => (key, value a))

def ResourceTable.json (table : ResourceTable) : Json :=
  table.groups.json (OrderedMap.json (OrderedMap.json Resource.json))

def NodeVersions.json (nodes : NodeVersions) : Json :=
  OrderedMap.json (fun versions => .array (versions.map .string)) nodes

def GroupConversions.json (conversions : GroupConversions) : Json :=
  .object [
    ("group", .string conversions.group),
    ("hubs", NodeVersions.json conversions.hubs),
    ("spokes", NodeVersions.json conversions.spokes)]

def Plan.json (plan : Plan) : Json :=
  .object [
    ("resources", .number plan.resources),
    ("table", plan.table.json),
    ("conversions", .array (plan.conversions.map GroupConversions.json))]

end ProviderGen
