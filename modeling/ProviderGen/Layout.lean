import ProviderGen.HostPath
import ProviderGen.PackagePath
import ProviderGen.Text.Lowercase

/-!
Where generated packages live. API groups are named after the root group; each group owns one
place among the import paths of the module and one among the directories of the output.
-/

namespace ProviderGen

open Text

def groupName (shortGroup rootGroup : String) : String :=
  if shortGroup = "" then rootGroup else lowercase shortGroup ++ "." ++ rootGroup

/-- The first label of a group, as `ec2` of `ec2.aws.example`. -/
def groupLabel (group : String) : String := String.ofList (group.toList.takeWhile (· != '.'))

structure Layout where
  modulePath : String
deriving DecidableEq, Repr, Inhabited

namespace Layout

variable (layout : Layout)

def package (relative : String) : String := PackagePath.join layout.modulePath [relative]

def apiGroupBase (group : String) : String :=
  PackagePath.join layout.modulePath ["apis", lowercase (groupLabel group)]

def apiPackage (group version : String) : String :=
  PackagePath.join (layout.apiGroupBase group) [version]

def controllerPackage (group kind : String) : String :=
  PackagePath.join layout.modulePath
    ["internal", "controller", lowercase (groupLabel group), lowercase kind]

end Layout

def apiDirectory (root : HostPath) (group version : String) : HostPath :=
  ((root.join "apis").join (lowercase (groupLabel group))).join version

def controllerDirectory (root : HostPath) (group kind : String) : HostPath :=
  (((root.join "internal").join "controller").join (lowercase (groupLabel group))).join
    (lowercase kind)

end ProviderGen
