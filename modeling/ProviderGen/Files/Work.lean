import ProviderGen.Files.Tree
import ProviderGen.Generation.Call

/-!
What one call does to files, as a value: texts are written in order, and what is read decides how
the work goes on. The first write that fails ends the work.
-/

namespace ProviderGen

inductive FileWork where
  | done (answer : Except GenerateFailure String)
  | write (path : HostPath) (text : String) (next : FileWork)
  | read (path : HostPath) (next : Except IoFailure String → FileWork)

structure Host (m : Type → Type) where
  readText : HostPath → m (Except IoFailure String)
  createDirectories : HostPath → m (Except IoFailure Unit)
  writeText : HostPath → String → m (Except IoFailure Unit)
  format : HostPath → m (Except FormatFailure Unit)

namespace FileWork

def writeAll (files : List (HostPath × String)) (next : FileWork) : FileWork :=
  files.foldr (fun file rest => .write file.1 file.2 rest) next

def run : FileWork → FileTree → Except GenerateFailure String × FileTree
  | .done answer, tree => (answer, tree)
  | .write path text next, tree =>
    match tree.writeText path text with
    | (.ok (), written) => next.run written
    | (.error cause, reached) => (.error (.io cause), reached)
  | .read path next, tree => (next (tree.readText path)).run tree

def perform {m : Type → Type} [Monad m] (host : Host m) :
    FileWork → m (Except GenerateFailure String)
  | .done answer => pure answer
  | .write path text next => do
    match ← host.writeText path text with
    | .ok () => next.perform host
    | .error cause => pure (.error (.io cause))
  | .read path next => do
    let text ← host.readText path
    (next text).perform host

end FileWork

end ProviderGen
