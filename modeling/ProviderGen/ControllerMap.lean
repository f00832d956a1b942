import ProviderGen.Config.Basic
import ProviderGen.OrderedMap.Basic

/-!
Controller packages by the key they are set up under. A key is a group's label or one of two
reserved keys; what is added under any key is added under the monolith key too, which so covers
the whole provider.
-/

namespace ProviderGen

def configKey : String := "config"

def monolithKey : String := "monolith"

/-- Packages under each key in the order in which they were first added. -/
structure ControllerMap where
  packages : OrderedMap String (List String)
deriving DecidableEq, Repr, Inhabited

namespace ControllerMap

def empty : ControllerMap := ⟨.empty⟩

variable (controllers : ControllerMap)

def find? (key : String) : Option (List String) := controllers.packages.find? key

def monolith : List String := (controllers.find? monolithKey).getD []

def keys : List String := controllers.packages.keys

def size : Nat := controllers.packages.size

def isEmpty : Bool := controllers.packages.isEmpty

def addNew (package : String) (packages : List String) : List String :=
  if package ∈ packages then packages else packages ++ [package]

def insertUnder (key package : String) : ControllerMap :=
  ⟨controllers.packages.alter key fun packages => addNew package (packages.getD [])⟩

def insert (key package : String) : ControllerMap :=
  let inserted := controllers.insertUnder key package
  if key = monolithKey then inserted else inserted.insertUnder monolithKey package

def insertEntries (layout : Layout) (entries : List ControllerEntry) : ControllerMap :=
  entries.foldl (fun map entry => map.insert entry.key (layout.package entry.package)) controllers

def insertKeyless (layout : Layout) (packages : List String) : ControllerMap :=
  packages.foldl (fun map package => map.insert configKey (layout.package package)) controllers

/-- The base controllers of a configuration. Those with a key come first and keep their place. -/
def ofBase (layout : Layout) (base : BasePackages) : ControllerMap :=
  (empty.insertEntries layout base.controllerMap).insertKeyless layout base.controllers

end ControllerMap

end ProviderGen
