import ProviderGen.Files.Name
import ProviderGen.Text.Split

/-!
Paths of the host's file system. A path is kept as it was spelled; its components give it an
order in which repeated slashes and dots inside the path do not count. The paths that the program is
given and makes are texts; below them the host may hold entries whose paths are none.
-/

namespace ProviderGen

open Std

structure HostPath where
  text : String
deriving DecidableEq, Repr, Inhabited

inductive HostPath.Component where
  | root
  | here
  | up
  | name (name : EntryName)
deriving DecidableEq, Repr

structure RawPath where
  bytes : List UInt8
deriving DecidableEq, Repr

namespace HostPath

/-- The root comes first, then the two dotted components, then names. -/
def Component.rank : Component → Nat
  | .root => 0
  | .here => 1
  | .up => 2
  | .name _ => 3

def Component.label : Component → EntryName
  | .name own => own
  | _ => ⟨[]⟩

instance : Ord Component := ⟨compareLex (compareOn Component.rank) (compareOn Component.label)⟩

instance : TransOrd Component :=
  inferInstanceAs (TransCmp (compareLex (compareOn Component.rank) (compareOn Component.label)))

instance : LawfulEqOrd Component where
  eq_of_compare {a b} same := by
    obtain ⟨ranks, labels⟩ := compareLex_eq_eq.mp same
    have ranks : a.rank = b.rank := LawfulEqCmp.eq_of_compare ranks
    have labels : a.label = b.label := LawfulEqCmp.eq_of_compare labels
    cases a <;> cases b <;> simp_all [Component.rank, Component.label]

def isAbsolute (path : HostPath) : Bool := Text.startsWith '/' path.text

def segments (path : HostPath) : List String := Text.split '/' path.text

/-- An absolute part replaces the path; any other part follows after one slash. -/
def join (path : HostPath) (part : String) : HostPath :=
  if Text.startsWith '/' part then ⟨part⟩
  else if path.text = "" || path.text.toList.getLast? == some '/' then ⟨path.text ++ part⟩
  else ⟨path.text ++ "/" ++ part⟩

def Component.ofSegment? (segment : EntryName) : Option Component :=
  if segment = "" || segment = "." then none
  else if segment = ".." then some .up
  else some (.name segment)

/-- A dot counts only where a relative path starts with it. -/
def Component.ofSegments (absolute : Bool) : List EntryName → List Component
  | [] => []
  | first :: rest =>
    (if absolute then [.root]
      else if first = "." then [.here]
      else (ofSegment? first).toList) ++ rest.filterMap ofSegment?

def components (path : HostPath) : List Component :=
  Component.ofSegments path.isAbsolute (path.segments.map .ofText)

/-- Drops the segments at the end that are no components. Segments are listed backwards, and the
one that starts the path stays. -/
def trimBackwards : List String → List String
  | [] => []
  | [first] => [first]
  | segment :: rest => if segment = "" || segment = "." then trimBackwards rest else segment :: rest

def ofSegments (segments : List String) : HostPath :=
  if segments = [""] then ⟨"/"⟩ else ⟨Text.joined '/' segments⟩

def ancestorsBackwards : List String → List HostPath
  | [] => []
  | [first] => if first = "" then [] else [⟨""⟩]
  | segment :: rest =>
    if segment = "" || segment = "." then ancestorsBackwards rest
    else ofSegments (trimBackwards rest).reverse :: ancestorsBackwards rest

/-- Parent, parent's parent and so on: up to the root of an absolute path, and up to the empty
path above a relative one. -/
def ancestors (path : HostPath) : List HostPath := ancestorsBackwards path.segments.reverse

def parent? (path : HostPath) : Option HostPath := path.ancestors.head?

def raw (path : HostPath) : RawPath := ⟨Text.bytes path.text⟩

end HostPath

namespace RawPath

def slash : UInt8 := 0x2F

def isAbsolute (path : RawPath) : Bool := path.bytes.head? == some slash

def segments (path : RawPath) : List EntryName := (path.bytes.splitOn slash).map .mk

def components (path : RawPath) : List HostPath.Component :=
  HostPath.Component.ofSegments path.isAbsolute path.segments

def join (path : RawPath) (name : EntryName) : RawPath :=
  if path.bytes = [] || path.bytes.getLast? == some slash then ⟨path.bytes ++ name.bytes⟩
  else ⟨path.bytes ++ slash :: name.bytes⟩

def shown (path : RawPath) : String := Text.decodeLossy ⟨path.bytes.toArray⟩

end RawPath

end ProviderGen
