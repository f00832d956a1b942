import ProviderGen.Resource
import ProviderGen.Text.Blank
import ProviderGen.Text.Quoted

/-!
The configuration of a provider and the rules it has to meet before anything is generated.
-/

namespace ProviderGen

structure ControllerEntry where
  package : String
  key : String
deriving DecidableEq, Repr, Inhabited

structure BasePackages where
  apiVersions : List String := []
  /-- Controllers without a key of their own; they go under the provider's config key. -/
  controllers : List String := []
  controllerMap : List ControllerEntry := []
deriving DecidableEq, Repr, Inhabited

structure Config where
  rootGroup : String
  shortName : String
  modulePath : String
  featuresPackage? : Option String := none
  mainTemplate? : Option HostPath := none
  base : BasePackages := {}
  resources : List Resource := []
deriving DecidableEq, Repr, Inhabited

inductive ConfigFault where
  | blankRootGroup
  | blankModulePath
  | emptyName (kind : String)
  | missingVersionOrKind (name : String)
deriving DecidableEq, Repr

def ConfigFault.message : ConfigFault → String
  | .blankRootGroup => "root_group must not be empty"
  | .blankModulePath => "module_path must not be empty"
  | .emptyName kind => "resource of kind " ++ Text.quoted kind ++ " has an empty name"
  | .missingVersionOrKind name => "resource " ++ name ++ " must declare both version and kind"

def Resource.fault? (resource : Resource) : Option ConfigFault :=
  if resource.name = "" then some (.emptyName resource.kind)
  else if resource.version = "" || resource.kind = "" then
    some (.missingVersionOrKind resource.name)
  else none

namespace Config

variable (config : Config)

/-- The first rule that the configuration breaks; resources are looked at in order. -/
def fault? : Option ConfigFault :=
  if Text.isBlank config.rootGroup then some .blankRootGroup
  else if Text.isBlank config.modulePath then some .blankModulePath
  else config.resources.findSome? Resource.fault?

def layout : Layout := ⟨config.modulePath⟩

def featuresPackagePath? : Option String :=
  match config.featuresPackage? with
  | some relative => if relative = "" then none else some (config.layout.package relative)
  | none => none

end Config

end ProviderGen
