import ProviderGen.Toml.Value

/-!
A document under construction. Tables come about in three ways, and the way decides what may be
added to them later: a table with a header or in braces is complete where it stands, one that a
header only passes through may still get a header, and one that a dotted key passes through may
only be extended by dotted keys beside it.
-/

namespace ProviderGen.Toml

inductive Form where
  | declared
  | implied
  | dotted
deriving DecidableEq, Repr

inductive Node where
  | leaf (value : Value)
  | table (form : Form) (entries : List (String × Node))
  /-- Tables under one repeated header, newest first. -/
  | series (tables : List (List (String × Node)))

abbrev Entries := List (String × Node)

mutual

def Node.value : Node → Value
  | .leaf value => value
  | .table _ entries => .table (entryValues entries)
  | .series tables => .array (seriesValues tables).reverse

def entryValues : List (String × Node) → List (String × Value)
  | [] => []
  | (key, node) :: rest => (key, node.value) :: entryValues rest

def seriesValues : List (List (String × Node)) → List Value
  | [] => []
  | entries :: older => .table (entryValues entries) :: seriesValues older

end

namespace Entries

def node? (entries : Entries) (key : String) : Option Node :=
  (List.find? (·.1 == key) entries).map (·.2)

def add (entries : Entries) (key : String) (node : Node) : Entries := entries ++ [(key, node)]

def set (entries : Entries) (key : String) (node : Node) : Entries :=
  entries.map fun entry => if entry.1 == key then (key, node) else entry

def drop (entries : Entries) (key : String) : Entries := entries.filter (·.1 != key)

/-- Changes the table at a path; tables that are missing on the way come about in the given form.
A path leads through the newest table of a series and never through a value, and a path of dotted
keys does not lead into a declared table. -/
def modify (newForm : Form) (change : Form → Entries → Option Entries) :
    Form → List String → Entries → Option Entries
  | form, [], entries => change form entries
  | _, key :: path, entries =>
    match entries.node? key with
    | none => do
      let inner ← modify newForm change newForm path []
      return entries.add key (.table newForm inner)
    | some (.leaf _) => none
    | some (.series []) => none
    | some (.series (newest :: older)) => do
      let inner ← modify newForm change .declared path newest
      return entries.set key (.series (inner :: older))
    | some (.table form inner) =>
      if newForm = .dotted && form = .declared then none
      else do
        let inner ← modify newForm change form path inner
        return entries.set key (.table form inner)

/-- Adds an entry under a dotted key. A key of one part goes into the table at hand; one of
several parts must end in a table that dotted keys have made. -/
def define (entries : Entries) (path : List String) (key : String) (value : Value) :
    Option Entries :=
  modify .dotted (fun form inner =>
    if decide (form = .dotted) == path.isEmpty then none
    else if (inner.node? key).isSome then none
    else some (inner.add key (.leaf value))) .declared path entries

end Entries

/-- The document so far: finished tables, and the table that entries are added to, which is not
yet in its place. -/
structure Draft where
  root : Entries := []
  current : Entries := []
  /-- Where the current table belongs; empty for the root table. -/
  path : List String := []
  /-- The current table belongs to a series. -/
  inSeries : Bool := false

namespace Draft

def define (draft : Draft) (path : List String) (key : String) (value : Value) : Option Draft := do
  let current ← draft.current.define path key value
  return { draft with current }

def finish (draft : Draft) : Option Entries :=
  match draft.path.getLast? with
  | none => some draft.current
  | some key =>
    Entries.modify .implied (fun _ inner =>
      if draft.inSeries then
        match inner.node? key with
        | some (.series tables) => some (inner.set key (.series (draft.current :: tables)))
        | _ => none
      else
        match inner.node? key with
        | none => some (inner.add key (.table .declared draft.current))
        | some (.table .implied _) => some (inner.set key (.table .declared draft.current))
        | some _ => none) .declared draft.path.dropLast draft.root

/-- The entries of an implied table that gets its own header, if there is one under the key. -/
def adopted (root : Entries) : List String → Option Entries
  | [] => none
  | [key] =>
    match root.node? key with
    | some (.table .implied entries) => some entries
    | _ => none
  | key :: path =>
    match root.node? key with
    | some (.table _ entries) => adopted entries path
    | some (.series (newest :: _)) => adopted newest path
    | _ => none

/-- Starts a table with a header. A table that was only passed through moves to the header. -/
def startTable (draft : Draft) (path : List String) : Option Draft := do
  let root ← draft.finish
  let key ← path.getLast?
  let moved := adopted root path
  let root ← Entries.modify .implied (fun _ inner =>
    match inner.node? key with
    | none => some inner
    | some (.table .implied _) => some (inner.drop key)
    | some _ => none) .declared path.dropLast root
  return { root, current := moved.getD [], path, inSeries := false }

def startSeries (draft : Draft) (path : List String) : Option Draft := do
  let root ← draft.finish
  let key ← path.getLast?
  let root ← Entries.modify .implied (fun _ inner =>
    match inner.node? key with
    | none => some (inner.add key (.series []))
    | some (.series _) => some inner
    | some _ => none) .declared path.dropLast root
  return { root, current := [], path, inSeries := true }

end Draft

end ProviderGen.Toml
