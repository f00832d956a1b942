import ProviderGen.ApiPackages
import ProviderGen.Config.Failure
import ProviderGen.ControllerMap

/-!
The calls that a generation run makes, and how the failure of a call is reported: the run names
the unit of work that failed and keeps the cause.
-/

namespace ProviderGen

inductive GenerateFailure where
  | io (cause : IoFailure)
  | yaml (reason : String)
  | formatting
  | template (reason : String)
  | missingPackage (reason : String)
  | other (reason : String)
deriving DecidableEq, Repr

namespace GenerateFailure

def formattingReason : String := "an error occurred when formatting an argument"

def message : GenerateFailure → String
  | .io cause => "IO error: " ++ cause.message
  | .yaml reason => "YAML error: " ++ reason
  | .formatting => "Format error: " ++ formattingReason
  | .template reason => "Template error: " ++ reason
  | .missingPackage reason => "Missing package: " ++ reason
  | .other reason => reason

def causes : GenerateFailure → List String
  | .io cause => [cause.message]
  | .yaml reason => [reason]
  | .formatting => [formattingReason]
  | .template _ | .missingPackage _ | .other _ => []

def unreadableTemplate (path : HostPath) (cause : IoFailure) : GenerateFailure :=
  .template ("cannot read main template " ++ path.text ++ ": " ++ cause.message)

def noWatchPackage (resource : String) : GenerateFailure :=
  .missingPackage ("no API package to watch for resource " ++ resource)

end GenerateFailure

inductive FormatFailure where
  | notStarted (program : String) (directory : HostPath) (cause : IoFailure)
  | failed (program : String) (directory : HostPath) (output : String)
deriving DecidableEq, Repr

namespace FormatFailure

def message : FormatFailure → String
  | .notStarted program directory cause =>
    "cannot run " ++ program ++ " in " ++ directory.text ++ ": " ++ cause.message
  | .failed program directory output => program ++ " failed in " ++ directory.text ++ ": " ++ output

def causes : FormatFailure → List String
  | .notStarted _ _ cause => [cause.message]
  | .failed _ _ _ => []

end FormatFailure

inductive CallFailure where
  | generate (failure : GenerateFailure)
  | format (failure : FormatFailure)
deriving DecidableEq, Repr

def CallFailure.message : CallFailure → String
  | .generate failure => failure.message
  | .format failure => failure.message

def CallFailure.causes : CallFailure → List String
  | .generate failure => failure.causes
  | .format failure => failure.causes

inductive Call where
  /-- The types of one version of a group; answers with their package. -/
  | types (group version : String) (resources : List Resource)
  /-- The controller of one resource; answers with its package. -/
  | controller (group : String) (resource : Resource) (watchPackage : String)
      (featuresPackage? : Option String)
  /-- The example manifest of one resource, kept until all are stored. -/
  | manifest (group version : String) (resource : Resource)
  /-- The conversion functions of one kind of node in one version. -/
  | conversion (group version : String) (kind : NodeKind) (resources : List Resource)
  | store
  | register (packages : ApiPackages)
  | setup (controllers : ControllerMap) (mainTemplate? : Option HostPath)
  | format (directory : HostPath)
deriving DecidableEq, Repr

/-- The part of a run that a failure is blamed on. -/
inductive WorkUnit where
  | types (group version : String)
  | controller (resource : String)
  | manifest (resource : String)
  | conversion (group version : String) (kind : NodeKind)
  | store
  | registration
  | setup
  | format (directory : HostPath)
deriving DecidableEq, Repr

def Call.workUnit : Call → WorkUnit
  | .types group version _ => .types group version
  | .controller _ resource _ _ => .controller resource.name
  | .manifest _ _ resource => .manifest resource.name
  | .conversion group version kind _ => .conversion group version kind
  | .store => .store
  | .register _ => .registration
  | .setup _ _ => .setup
  | .format directory => .format directory

def WorkUnit.message : WorkUnit → String
  | .types group version =>
    "cannot generate types for group " ++ Text.quoted group ++ " version " ++ Text.quoted version
  | .controller resource => "cannot generate controller for resource " ++ resource
  | .manifest resource => "cannot generate example manifest for resource " ++ resource
  | .conversion group version kind =>
    "cannot generate the conversion " ++ kind.label ++ " functions for group " ++
      Text.quoted group ++ " version " ++ Text.quoted version
  | .store => "cannot store examples"
  | .registration => "cannot generate register file"
  | .setup => "cannot generate setup file"
  | .format directory => "cannot format generated sources in " ++ directory.text

inductive RunFailure where
  | config (cause : ConfigFailure)
  | hubs (fault : HubFault)
  | work (unit : WorkUnit) (cause : CallFailure)
deriving DecidableEq, Repr

namespace RunFailure

def message : RunFailure → String
  | .config _ => "invalid configuration"
  | .hubs fault =>
    "kind " ++ Text.quoted fault.kind ++ " in group " ++ Text.quoted fault.group ++
      " must have exactly one hub version, found " ++ Text.quotedList fault.hubs
  | .work unit _ => unit.message

def causes : RunFailure → List String
  | .config cause => cause.message :: cause.causes
  | .hubs _ => []
  | .work _ cause => cause.message :: cause.causes

end RunFailure

end ProviderGen
