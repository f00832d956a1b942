import ProviderGen.ResourceTable

/-!
Which versions of a kind convert to which. Within a group, one version of every kind is the hub
and the others are spokes, which convert to and from the hub.
-/

namespace ProviderGen

inductive NodeKind where
  | hub
  | spoke
deriving DecidableEq, Repr

def NodeKind.label : NodeKind → String
  | .hub => "hub"
  | .spoke => "spoke"

def NodeKind.covers (kind : NodeKind) (resource : Resource) (fileVersion : String) : Bool :=
  match kind with
  | .hub => resource.hubVersion == fileVersion
  | .spoke => resource.hubVersion != fileVersion

/-- Versions by node key, each once and in the order in which they were met. -/
abbrev NodeVersions := OrderedMap String (List String)

def NodeVersions.record (nodes : NodeVersions) (key version : String) : NodeVersions :=
  nodes.alter key fun versions =>
    let known := versions.getD []
    if version ∈ known then known else known ++ [version]

def GroupVersions.placed (versions : GroupVersions) : List (String × Resource) :=
  versions.entries.flatMap fun (version, bucket) =>
    bucket.values.map fun resource => (version, resource)

/-- The versions in which a resource of each node key meets the condition. -/
def GroupVersions.classify (versions : GroupVersions) (holds : Resource → String → Bool) :
    NodeVersions :=
  versions.placed.foldl (fun nodes (version, resource) =>
    if holds resource version then nodes.record resource.nodeKey version else nodes) .empty

def GroupVersions.nodes (versions : GroupVersions) (kind : NodeKind) :
    List (String × List Resource) :=
  versions.entries.filterMap fun (version, bucket) =>
    let nodes := bucket.values.filter (kind.covers · version)
    if nodes.isEmpty then none else some (version, nodes)

structure GroupConversions where
  group : String
  hubs : NodeVersions
  spokes : NodeVersions
  /-- Every node key of the group, ascending. -/
  observed : OrderedMap String Unit
deriving DecidableEq, Repr

structure HubFault where
  group : String
  kind : String
  hubs : List String
deriving DecidableEq, Repr

namespace GroupConversions

def ofVersions (group : String) (versions : GroupVersions) : GroupConversions where
  group
  hubs := versions.classify NodeKind.hub.covers
  spokes := versions.classify NodeKind.spoke.covers
  observed := versions.resources.foldl (fun keys resource => keys.insert resource.nodeKey ()) .empty

def kindOfKey (key : String) : String :=
  match key.toList.dropWhile (· != '.') with
  | [] => key
  | _ :: kind => String.ofList kind

variable (conversions : GroupConversions)

def hubsOf (key : String) : List String := (conversions.hubs.find? key).getD []

def hubFault? : Option HubFault :=
  (conversions.observed.keys.find? fun key => (conversions.hubsOf key).length != 1).map fun key =>
    ⟨conversions.group, kindOfKey key, conversions.hubsOf key⟩

end GroupConversions

end ProviderGen
