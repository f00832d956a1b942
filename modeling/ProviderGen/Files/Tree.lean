import ProviderGen.Files.Failure
import ProviderGen.HostPath
import ProviderGen.OrderedMap.Basic

/-!
A file tree as a value. Every file and directory has a location, the names that lead to it from
the root; a path is resolved to a location by walking through directories that exist. Locations
are ordered name by name, which is the order of a walk that visits each directory's entries by
name. A tree also holds what the host has in store: how it ends the next writes, and what it does
not let a walk read.
-/

namespace ProviderGen

abbrev Location := List EntryName

inductive FileTree.Entry where
  | directory
  | file (content : ByteArray)

def FileTree.Entry.decideEq : (a b : Entry) → Decidable (a = b)
  | .directory, .directory => isTrue rfl
  | .directory, .file _ => isFalse fun same => nomatch same
  | .file _, .directory => isFalse fun same => nomatch same
  | .file a, .file b =>
    match ByteArray.decEq a b with
    | isTrue same => isTrue (congrArg Entry.file same)
    | isFalse differ => isFalse fun same => differ (Entry.file.inj same)

instance : DecidableEq FileTree.Entry := FileTree.Entry.decideEq

/-- How the host fails a write of a file. -/
inductive FileTree.Fault where
  | refused (cause : IoFailure)
  /-- The file is opened, which empties or creates it, and then only the first bytes of the content
  are written. -/
  | torn (kept : Nat) (cause : IoFailure)
deriving DecidableEq, Repr

structure FileTree where
  /-- Where relative paths start. -/
  workingDirectory : Location
  entries : OrderedMap Location FileTree.Entry
  /-- How the next writes end, if a fault ends them; later writes are not disturbed. -/
  faults : List (Option FileTree.Fault) := []
  /-- Where a walk fails: to read a file, or to open a directory. -/
  unread : OrderedMap Location IoFailure := .empty
deriving DecidableEq

namespace FileTree

def nameLimit : Nat := 255
def pathLimit : Nat := 4095

def entryAt (tree : FileTree) (place : Location) : Option Entry :=
  if place = [] then some .directory else tree.entries.find? place

/-- A step can only be taken from a directory, and every step but the last needs the entry it
leads to. Empty segments and dots stay, two dots go up. -/
def walk (tree : FileTree) (place : Location) : List EntryName → Except IoFailure Location
  | [] => .ok place
  | segment :: rest =>
    match tree.entryAt place with
    | none => .error .notFound
    | some (.file _) => .error .notDirectory
    | some .directory =>
      if segment = "" || segment = "." then tree.walk place rest
      else if segment = ".." then tree.walk place.dropLast rest
      else if segment.bytes.length > nameLimit then .error .nameTooLong
      else tree.walk (place ++ [segment]) rest

def start (tree : FileTree) (absolute : Bool) : Location :=
  if absolute then [] else tree.workingDirectory

def checkPath (path : RawPath) : Except IoFailure Unit :=
  if path.bytes.contains 0 then .error .nulByte
  else if path.bytes = [] then .error .notFound
  else if path.bytes.length > pathLimit then .error .nameTooLong
  else .ok ()

def locateRaw (tree : FileTree) (path : RawPath) : Except IoFailure Location :=
  match checkPath path with
  | .error failure => .error failure
  | .ok () => tree.walk (tree.start path.isAbsolute) path.segments

def locate (tree : FileTree) (path : HostPath) : Except IoFailure Location :=
  tree.locateRaw path.raw

def lookup (tree : FileTree) (path : HostPath) : Except IoFailure (Location × Entry) :=
  match tree.locate path with
  | .error failure => .error failure
  | .ok place =>
    match tree.entryAt place with
    | none => .error .notFound
    | some entry => .ok (place, entry)

def isDirectory (tree : FileTree) (path : HostPath) : Bool :=
  match tree.lookup path with
  | .ok (_, .directory) => true
  | _ => false

def readBytes (tree : FileTree) (path : HostPath) : Except IoFailure ByteArray :=
  match tree.lookup path with
  | .error failure => .error failure
  | .ok (_, .directory) => .error .isDirectory
  | .ok (_, .file content) => .ok content

def readText (tree : FileTree) (path : HostPath) : Except IoFailure String :=
  match tree.readBytes path with
  | .error failure => .error failure
  | .ok content =>
    match String.fromUTF8? content with
    | none => .error .notUtf8
    | some text => .ok text

def put (tree : FileTree) (place : Location) (entry : Entry) : FileTree :=
  { tree with entries := tree.entries.insert place entry }

/-- Makes one directory. Its parent has to be a directory, and a dotted last segment names
something that exists already. -/
def makeDirectory (tree : FileTree) (path : HostPath) : Except IoFailure FileTree :=
  match checkPath path.raw with
  | .error failure => .error failure
  | .ok () =>
    match path.raw.segments.reverse.dropWhile (· == .ofText "") with
    | [] => .error .alreadyExists
    | last :: above =>
      match tree.walk (tree.start path.isAbsolute) above.reverse with
      | .error failure => .error failure
      | .ok parent =>
        match tree.entryAt parent with
        | none => .error .notFound
        | some (.file _) => .error .notDirectory
        | some .directory =>
          if last = "." || last = ".." then .error .alreadyExists
          else if last.bytes.length > nameLimit then .error .nameTooLong
          else match tree.entryAt (parent ++ [last]) with
            | some _ => .error .alreadyExists
            | none => .ok (tree.put (parent ++ [last]) .directory)

/-- Makes the first of the listed directories, and those after it as far as they are missing.
The empty path at the end of a relative path needs nothing. -/
def makeDirectories (tree : FileTree) : List HostPath → Except IoFailure Unit × FileTree
  | [] => (.ok (), tree)
  | path :: above =>
    if path.text = "" then (.ok (), tree)
    else match tree.makeDirectory path with
      | .ok made => (.ok (), made)
      | .error .notFound =>
        match tree.makeDirectories above with
        | (.error failure, reached) => (.error failure, reached)
        | (.ok (), reached) =>
          match reached.makeDirectory path with
          | .ok made => (.ok (), made)
          | .error failure =>
            if reached.isDirectory path then (.ok (), reached) else (.error failure, reached)
      | .error failure =>
        if tree.isDirectory path then (.ok (), tree) else (.error failure, tree)

def createDirectories (tree : FileTree) (path : HostPath) : Except IoFailure Unit × FileTree :=
  tree.makeDirectories (path :: path.ancestors)

def replaceFile (tree : FileTree) (path : HostPath) (content : ByteArray) :
    Except IoFailure FileTree :=
  match tree.locate path with
  | .error failure => .error failure
  | .ok place =>
    match tree.entryAt place with
    | some .directory => .error .isDirectory
    | _ => .ok (tree.put place (.file content))

/-- Writes a content to a file that can be opened, unless the next fault prevents it. -/
def writeFile (tree : FileTree) (path : HostPath) (content : ByteArray) :
    Except IoFailure Unit × FileTree :=
  let later := { tree with faults := tree.faults.tail }
  match tree.faults with
  | some (.refused cause) :: _ => (.error cause, later)
  | some (.torn kept cause) :: _ =>
    match later.replaceFile path (content.extract 0 kept) with
    | .error failure => (.error failure, later)
    | .ok written => (.error cause, written)
  | _ =>
    match later.replaceFile path content with
    | .error failure => (.error failure, later)
    | .ok written => (.ok (), written)

def writeText (tree : FileTree) (path : HostPath) (text : String) :
    Except IoFailure Unit × FileTree :=
  let (above, prepared) := match path.parent? with
    | some parent => tree.createDirectories parent
    | none => (.ok (), tree)
  match above with
  | .error failure => (.error failure, prepared)
  | .ok () => prepared.writeFile path text.toUTF8

def filesBelow (tree : FileTree) (place : Location) : List (Location × ByteArray) :=
  tree.entries.entries.filterMap fun
    | (found, .file content) => if place.isPrefixOf found then some (found, content) else none
    | (_, .directory) => none

def spelled (root : RawPath) (place found : Location) : RawPath :=
  (found.drop place.length).foldl RawPath.join root

def openDirectory (tree : FileTree) (path : RawPath) (place : Location) : Except IoFailure Unit :=
  match checkPath path with
  | .error failure => .error failure
  | .ok () =>
    match tree.unread.find? place with
    | some failure => .error failure
    | none => .ok ()

def reaches (tree : FileTree) (path : RawPath) (place : Location) : List EntryName → Bool
  | [] => true
  | name :: rest =>
    (tree.openDirectory path place).isOk && tree.reaches (path.join name) (place ++ [name]) rest

/-- What a walk at a place yields, by ascending names: what it meets in directories that it can
open, and a failure where it cannot read a file or open a directory. -/
def walkEntries (tree : FileTree) (root : RawPath) (place : Location) :
    List (Except IoFailure (Location × Entry)) :=
  tree.entries.entries.flatMap fun (found, entry) =>
    if place.isPrefixOf found && tree.reaches root place (found.drop place.length) then
      match entry with
      | .directory =>
        .ok (found, entry) :: match tree.openDirectory (spelled root place found) found with
          | .error failure => [.error failure]
          | .ok () => []
      | .file _ =>
        match tree.unread.find? found with
        | some failure => [.error failure]
        | none => [.ok (found, entry)]
    else []

end FileTree

end ProviderGen
