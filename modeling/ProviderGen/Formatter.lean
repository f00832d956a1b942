import ProviderGen.Files.Tree
import ProviderGen.Generation.Call
import ProviderGen.Text.Lowercase
import ProviderGen.Text.Utf8

/-!
Formatting generated sources with a program of the host. The program is started once per
directory, in that directory, and is given every generated file below it.
-/

namespace ProviderGen

/-- The start of a program: its name, its arguments, of which the last are paths, and the directory
it works in. -/
structure Launch where
  program : String
  options : List String
  files : List RawPath
  directory : HostPath
deriving DecidableEq, Repr

def Launch.arguments (launch : Launch) : List String :=
  launch.options ++ launch.files.map RawPath.shown

inductive LaunchResult where
  | notStarted (cause : IoFailure)
  | exited (success : Bool) (output errors : ByteArray)

abbrev Launcher := Launch → FileTree → LaunchResult × FileTree

namespace Formatter

def isGenerated (name : String) : Bool :=
  let lower := (Text.lowercase name).toList
  "zz_".toList.isPrefixOf lower && ".go".toList.isSuffixOf lower

/-- The generated files at or below a place that a walk meets. What it fails to read or to open is
passed over, and so are files whose names are no texts. -/
def found (tree : FileTree) (root : RawPath) (place : Location) : List Location :=
  ((tree.walkEntries root place).filterMap Except.toOption).filterMap fun
    | (found, .file _) =>
      if (found.getLast?.bind EntryName.text?).any isGenerated then some found else none
    | (_, .directory) => none

def generatedFiles (tree : FileTree) (directory : HostPath) (place : Location) : List RawPath :=
  (found tree directory.raw place).map (FileTree.spelled directory.raw place)

def launch (program : String) (directory : HostPath) (files : List RawPath) : Launch where
  program
  options := ["-w"]
  files
  directory

/-- Formats the generated files below a directory. A directory that is missing or holds none needs
no program, and a program cannot be started in what is no directory. -/
def format (program : String) (start : Launcher) (directory : HostPath) (tree : FileTree) :
    Except FormatFailure Unit × FileTree :=
  match tree.lookup directory with
  | .error _ => (.ok (), tree)
  | .ok (place, entry) =>
    match generatedFiles tree directory place with
    | [] => (.ok (), tree)
    | file :: files =>
      if entry ≠ .directory then (.error (.notStarted program directory .notDirectory), tree)
      else match start (launch program directory (file :: files)) tree with
        | (.notStarted cause, reached) => (.error (.notStarted program directory cause), reached)
        | (.exited true _ _, reached) => (.ok (), reached)
        | (.exited false output errors, reached) =>
          (.error (.failed program directory
            (Text.decodeLossy output ++ Text.decodeLossy errors)), reached)

end Formatter

end ProviderGen
