import ProviderGen.Layout

/-!
Managed resources as a configuration declares them.
-/

namespace ProviderGen

structure Resource where
  name : String
  /-- Informational; the group a resource belongs to follows from its short group. -/
  group : String := ""
  /-- Empty for resources of the root group. -/
  shortGroup : String := ""
  version : String
  kind : String
  /-- The version whose types the controller watches, if it is another one. -/
  reconcileVersion? : Option String := none
  /-- The version that the versions of this kind convert to and from. -/
  hubVersion? : Option String := none
  /-- The resource type that the generated accessors report, if it is not the name. -/
  resourceType? : Option String := none
deriving DecidableEq, Repr, Inhabited

/-- An optional override counts only if it is set and not empty. -/
def overriding (override : Option String) (fallback : String) : String :=
  match override with
  | some text => if text = "" then fallback else text
  | none => fallback

namespace Resource

variable (resource : Resource)

def hubVersion : String := overriding resource.hubVersion? resource.version

def watchVersion : String := overriding resource.reconcileVersion? resource.version

def nodeKey : String := resource.shortGroup ++ "." ++ resource.kind

def apiGroup (rootGroup : String) : String := groupName resource.shortGroup rootGroup

def resourceType : String := resource.resourceType?.getD resource.name

end Resource

end ProviderGen
