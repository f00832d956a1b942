import ProviderGen.HubSpoke

/-!
The API version packages that a run registers. The list keeps repeats: a package can be generated
and be implied by several conversion nodes as well.
-/

namespace ProviderGen

abbrev ApiPackages := List String

namespace ApiPackages

def firstOccurrences (seen : List String) : List String → List String
  | [] => []
  | package :: rest =>
    if package ∈ seen then firstOccurrences seen rest
    else package :: firstOccurrences (package :: seen) rest

def unique (packages : ApiPackages) : List String := firstOccurrences [] packages

def ofBase (layout : Layout) (base : List String) : ApiPackages := base.map layout.package

/-- The packages implied by one group's nodes: every resource of the run is looked up among the
group's spokes, then among its hubs. -/
def ofConversions (layout : Layout) (conversions : GroupConversions) (table : ResourceTable) :
    ApiPackages :=
  let base := layout.apiGroupBase conversions.group
  table.resources.flatMap fun resource =>
    [conversions.spokes, conversions.hubs].flatMap fun nodes =>
      ((nodes.find? resource.nodeKey).getD []).map fun version => PackagePath.join base [version]

end ApiPackages

end ProviderGen
