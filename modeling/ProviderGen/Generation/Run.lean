import ProviderGen.Generation.Process

/-!
The plan of a configuration, and the run that generates it. Both validate the configuration,
group its resources and check the hubs of every group; the run also makes the calls, group by
group and version by version, and then those that need all groups.
-/

namespace ProviderGen

structure Plan where
  resources : Nat
  table : ResourceTable
  conversions : List GroupConversions
deriving DecidableEq, Repr

structure Summary where
  resources : Nat
  groups : Nat
  versions : Nat
  apiPackages : ApiPackages
  controllers : ControllerMap
deriving DecidableEq, Repr

def GroupConversions.check (group : String) (versions : GroupVersions) :
    Except RunFailure GroupConversions :=
  let conversions := GroupConversions.ofVersions group versions
  match conversions.hubFault? with
  | some fault => .error (.hubs fault)
  | none => .ok conversions

def Config.plan (config : Config) : Except RunFailure Plan :=
  match config.validate with
  | .error cause => .error (.config cause)
  | .ok () =>
    match config.table.groups.entries.mapM fun (group, versions) =>
        GroupConversions.check group versions with
    | .error failure => .error failure
    | .ok conversions => .ok ⟨config.table.resourceCount, config.table, conversions⟩

def formattedDirectories : List String := ["apis", "internal"]

structure Progress where
  count : Nat
  generated : ApiPackages
  controllers : ControllerMap
  conversions : List GroupConversions

namespace Generation

variable (config : Config)

/-- The package a controller watches: the one just generated if it is of the watched version. -/
def watchPackage (group version package : String) (resource : Resource) : String :=
  if resource.watchVersion = version then package
  else config.layout.apiPackage group resource.watchVersion

def resourceStep (group version package : String) (progress : Progress) (resource : Resource) :
    Process Progress := do
  let controller ← Process.ask (.controller group resource
    (watchPackage config group version package resource) config.featuresPackagePath?)
  let _ ← Process.ask (.manifest group version resource)
  return { progress with controllers := progress.controllers.insert (groupLabel group) controller }

def versionStep (group : String) (progress : Progress) (entry : String × Bucket) :
    Process Progress := do
  let (version, bucket) := entry
  let package ← Process.ask (.types group version bucket.values)
  let progress ← bucket.values.foldlM (resourceStep config group version package) progress
  return { progress with
    count := progress.count + bucket.values.length
    generated := progress.generated ++ [package] }

def conversionStep (group : String) (kind : NodeKind) (nodes : String × List Resource) :
    Process Unit := do
  let _ ← Process.ask (.conversion group nodes.1 kind nodes.2)

/-- A group's versions, then the check of its hubs, then its hubs and its spokes. -/
def groupStep (progress : Progress) (entry : String × GroupVersions) : Process Progress := do
  let (group, versions) := entry
  let progress ← versions.entries.foldlM (versionStep config group) progress
  match GroupConversions.check group versions with
  | .error failure => Process.fail failure
  | .ok conversions =>
    (versions.nodes .hub).forM (conversionStep group .hub)
    (versions.nodes .spoke).forM (conversionStep group .spoke)
    return { progress with conversions := progress.conversions ++ [conversions] }

def start : Progress where
  count := 0
  generated := .ofBase config.layout config.base.apiVersions
  controllers := .ofBase config.layout config.base
  conversions := []

/-- All packages that are registered: the base packages and the generated ones, then what the
conversions of each group imply. -/
def registered (progress : Progress) : ApiPackages :=
  progress.generated ++ progress.conversions.flatMap fun conversions =>
    ApiPackages.ofConversions config.layout conversions config.table

def finish (output : HostPath) (progress : Progress) : Process Summary := do
  let _ ← Process.ask .store
  let _ ← Process.ask (.register (registered config progress))
  let _ ← Process.ask (.setup progress.controllers config.mainTemplate?)
  formattedDirectories.forM fun directory => do
    let _ ← Process.ask (.format (output.join directory))
  return {
    resources := progress.count
    groups := config.table.groupCount
    versions := config.table.versionCount
    apiPackages := registered config progress
    controllers := progress.controllers }

end Generation

def Config.generation (config : Config) (output : HostPath) : Process Summary :=
  match config.validate with
  | .error cause => Process.fail (.config cause)
  | .ok () => do
    let progress ← config.table.groups.entries.foldlM (Generation.groupStep config)
      (Generation.start config)
    Generation.finish config output progress

end ProviderGen
