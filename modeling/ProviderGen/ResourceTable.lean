import ProviderGen.OrderedMap.Basic
import ProviderGen.Config.Basic

/-!
The resources of a configuration by API group, version and name. Walking a table meets groups,
then versions, then names in ascending order.
-/

namespace ProviderGen

abbrev Bucket := OrderedMap String Resource

abbrev GroupVersions := OrderedMap String Bucket

def GroupVersions.resources (versions : GroupVersions) : List Resource :=
  versions.values.flatMap OrderedMap.values

structure ResourceTable where
  groups : OrderedMap String GroupVersions
deriving DecidableEq, Repr, Inhabited

namespace ResourceTable

def empty : ResourceTable := ⟨.empty⟩

variable (table : ResourceTable)

def insert (group : String) (resource : Resource) : ResourceTable :=
  ⟨table.groups.alter group fun versions =>
    (versions.getD .empty).alter resource.version fun bucket =>
      (bucket.getD .empty).insert resource.name resource⟩

def group? (group : String) : Option GroupVersions := table.groups.find? group

def bucket? (group version : String) : Option Bucket :=
  (table.group? group).bind (·.find? version)

def find? (group version name : String) : Option Resource :=
  (table.bucket? group version).bind (·.find? name)

def resourceNames (group version : String) : List String :=
  match table.bucket? group version with
  | some bucket => bucket.keys
  | none => []

def resources : List Resource := table.groups.values.flatMap GroupVersions.resources

def groupCount : Nat := table.groups.size

def versionCount : Nat := (table.groups.values.flatMap OrderedMap.keys).length

def resourceCount : Nat := table.resources.length

def isEmpty : Bool := table.groups.isEmpty

/-- Groups resources under a root group. Of two resources with one group, version and name the
later stands. -/
def ofResources (resources : List Resource) (rootGroup : String) : ResourceTable :=
  resources.foldl (fun table resource => table.insert (resource.apiGroup rootGroup) resource) empty

end ResourceTable

def Config.table (config : Config) : ResourceTable :=
  .ofResources config.resources config.rootGroup

end ProviderGen
