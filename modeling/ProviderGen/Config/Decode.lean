import ProviderGen.Config.Failure
import ProviderGen.Toml.Document

/-!
The configuration that a document describes. Every record may be given as a table or as an array
of its fields in order. The entries of a table are checked in the order of the document, so the
first value of a wrong type is reported; a missing field is reported only if there is none.
Entries under unknown keys do not count.
-/

namespace ProviderGen

open Toml (Value)

abbrev Decoder (α : Type) := Value → Except ShapeFault α

namespace Decoder

variable {α : Type}

def wrongType (expected : String) (value : Value) : Except ShapeFault α :=
  .error (.wrongType value.description expected)

def text (expected : String) : Decoder String
  | .text content => .ok content
  | value => wrongType expected value

def string : Decoder String := text "a string"

def path : Decoder HostPath := fun value => (text "path string" value).map HostPath.mk

def list (item : Decoder α) : Decoder (List α)
  | .array items => items.mapM item
  | value => wrongType "a sequence" value

def field? (entries : List (String × Value)) (key : String) (decode : Decoder α) :
    Except ShapeFault (Option α) :=
  match entries.find? (·.1 == key) with
  | none => .ok none
  | some (_, value) => (decode value).map some

def required (entries : List (String × Value)) (key : String) (decode : Decoder α) :
    Except ShapeFault α :=
  match field? entries key decode with
  | .error fault => .error fault
  | .ok none => .error (.missingField key)
  | .ok (some value) => .ok value

def item? (items : List Value) (place : Nat) (decode : Decoder α) :
    Except ShapeFault (Option α) :=
  match items[place]? with
  | none => .ok none
  | some value => (decode value).map some

def requiredItem (expected : String) (items : List Value) (place : Nat) (decode : Decoder α) :
    Except ShapeFault α :=
  match item? items place decode with
  | .error fault => .error fault
  | .ok none => .error (.wrongLength place expected)
  | .ok (some value) => .ok value

def checkEntries (check : String → Value → Except ShapeFault Unit) :
    List (String × Value) → Except ShapeFault Unit
  | [] => .ok ()
  | (key, value) :: rest =>
    match check key value with
    | .error fault => .error fault
    | .ok () => checkEntries check rest

def accepts (decode : Decoder α) (value : Value) : Except ShapeFault Unit :=
  (decode value).map fun _ => ()

/-- A record from a table or from an array. A date stands for a table without known keys. Messages
call a record a struct. -/
def record (name : String) (ofTable : List (String × Value) → Except ShapeFault α)
    (ofArray : List Value → Except ShapeFault α) : Decoder α
  | .table entries => ofTable entries
  | .dateTime => ofTable []
  | .array items => ofArray items
  | value => wrongType ("struct " ++ name) value

end Decoder

open Decoder

namespace ControllerEntry

def ofTable (entries : List (String × Value)) : Except ShapeFault ControllerEntry := do
  checkEntries (fun key value =>
    if key = "package" || key = "key" then accepts string value else .ok ()) entries
  let package ← required entries "package" string
  let key ← required entries "key" string
  return { package, key }

def ofArray (items : List Value) : Except ShapeFault ControllerEntry := do
  let expected := "struct ControllerMapEntry with 2 elements"
  let package ← requiredItem expected items 0 string
  let key ← requiredItem expected items 1 string
  return { package, key }

def decode : Decoder ControllerEntry := record "ControllerMapEntry" ofTable ofArray

end ControllerEntry

namespace BasePackages

def ofTable (entries : List (String × Value)) : Except ShapeFault BasePackages := do
  checkEntries (fun key value =>
    if key = "api_version" || key = "controller" then accepts (list string) value
    else if key = "controller_map" then accepts (list ControllerEntry.decode) value
    else .ok ()) entries
  let apiVersions ← field? entries "api_version" (list string)
  let controllers ← field? entries "controller" (list string)
  let controllerMap ← field? entries "controller_map" (list ControllerEntry.decode)
  return {
    apiVersions := apiVersions.getD []
    controllers := controllers.getD []
    controllerMap := controllerMap.getD [] }

def ofArray (items : List Value) : Except ShapeFault BasePackages := do
  let apiVersions ← item? items 0 (list string)
  let controllers ← item? items 1 (list string)
  let controllerMap ← item? items 2 (list ControllerEntry.decode)
  return {
    apiVersions := apiVersions.getD []
    controllers := controllers.getD []
    controllerMap := controllerMap.getD [] }

def decode : Decoder BasePackages := record "BasePackages" ofTable ofArray

end BasePackages

namespace Resource

def fieldNames : List String :=
  ["name", "group", "short_group", "version", "kind", "controller_reconcile_version",
    "hub_version", "terraform_resource_type"]

def ofTable (entries : List (String × Value)) : Except ShapeFault Resource := do
  checkEntries (fun key value =>
    if key ∈ fieldNames then accepts string value else .ok ()) entries
  let name ← required entries "name" string
  let group ← field? entries "group" string
  let shortGroup ← field? entries "short_group" string
  let version ← required entries "version" string
  let kind ← required entries "kind" string
  let reconcileVersion? ← field? entries "controller_reconcile_version" string
  let hubVersion? ← field? entries "hub_version" string
  let resourceType? ← field? entries "terraform_resource_type" string
  return {
    name, group := group.getD "", shortGroup := shortGroup.getD "", version, kind,
    reconcileVersion?, hubVersion?, resourceType? }

def ofArray (items : List Value) : Except ShapeFault Resource := do
  let expected := "struct ResourceDefinition with 8 elements"
  let name ← requiredItem expected items 0 string
  let group ← item? items 1 string
  let shortGroup ← item? items 2 string
  let version ← requiredItem expected items 3 string
  let kind ← requiredItem expected items 4 string
  let reconcileVersion? ← item? items 5 string
  let hubVersion? ← item? items 6 string
  let resourceType? ← item? items 7 string
  return {
    name, group := group.getD "", shortGroup := shortGroup.getD "", version, kind,
    reconcileVersion?, hubVersion?, resourceType? }

def decode : Decoder Resource := record "ResourceDefinition" ofTable ofArray

end Resource

namespace Config

def checkEntry (key : String) (value : Value) : Except ShapeFault Unit :=
  if key = "root_group" || key = "short_name" || key = "module_path" ||
      key = "features_package" then accepts string value
  else if key = "main_template" then accepts path value
  else if key = "base_packages" then accepts BasePackages.decode value
  else if key = "resources" then accepts (list Resource.decode) value
  else .ok ()

def ofDocument (entries : List (String × Value)) : Except ShapeFault Config := do
  checkEntries checkEntry entries
  let rootGroup ← required entries "root_group" string
  let shortName ← required entries "short_name" string
  let modulePath ← required entries "module_path" string
  let featuresPackage? ← field? entries "features_package" string
  let mainTemplate? ← field? entries "main_template" path
  let base ← field? entries "base_packages" BasePackages.decode
  let resources ← field? entries "resources" (list Resource.decode)
  return {
    rootGroup, shortName, modulePath, featuresPackage?, mainTemplate?
    base := base.getD {}
    resources := resources.getD [] }

/-- The configuration of a document, if it breaks no rule. -/
def ofEntries (entries : List (String × Value)) : Except ConfigFailure Config :=
  match ofDocument entries with
  | .error fault => .error (.misshapen fault)
  | .ok config =>
    match config.validate with
    | .error failure => .error failure
    | .ok () => .ok config

def ofText (text : String) : Except ConfigFailure Config :=
  match Toml.read? text with
  | none => .error (.misshapen .malformed)
  | some entries => ofEntries entries

def besideFile (path : HostPath) (config : Config) : Config :=
  match config.mainTemplate?, path.parent? with
  | some template, some directory =>
    if template.isAbsolute then config
    else { config with mainTemplate? := some (directory.join template.text) }
  | _, _ => config

def ofFile (path : HostPath) (content : Except IoFailure String) : Except ConfigFailure Config :=
  match content with
  | .error cause => .error (.unreadable path cause)
  | .ok text => (ofText text).map (besideFile path)

end Config

end ProviderGen
