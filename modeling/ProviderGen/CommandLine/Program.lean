import ProviderGen.CommandLine.Arguments
import ProviderGen.CommandLine.Report
import ProviderGen.Config.Decode
import ProviderGen.Emit.Target
import ProviderGen.Formatter
import ProviderGen.Json.Plan

/-!
The commands of the program, in terms of the file operations of a host.
-/

namespace ProviderGen.CommandLine

variable {m : Type → Type} [Monad m]

def FailureChain.during (doing : String) (failure : String) (causes : List String) :
    FailureChain :=
  ⟨doing, failure :: causes⟩

def loadConfig (host : Host m) (path : HostPath) : m (Except FailureChain Config) := do
  match Config.ofFile path (← host.readText path) with
  | .ok config => return .ok config
  | .error failure =>
    return .error (.during ("Failed to load config " ++ path.text) failure.message failure.causes)

def generate (host : Host m) (path output : HostPath) : m (Except FailureChain Summary) := do
  match ← loadConfig host path with
  | .error chain => return .error chain
  | .ok config =>
    match ← host.createDirectories output with
    | .error cause =>
      return .error (.during ("Failed to create output directory " ++ output.text) cause.message [])
    | .ok () =>
      let target : Emit.Target := ⟨output, config.layout⟩
      let (result, _) ← ((config.generation output).perform (target.perform host)).run .empty
      match result with
      | .ok summary => return .ok summary
      | .error failure =>
        return .error (.during ("Failed to generate provider into " ++ output.text)
          failure.message failure.causes)

def plan (host : Host m) (path : HostPath) : m (Except FailureChain Plan) := do
  match ← loadConfig host path with
  | .error chain => return .error chain
  | .ok config =>
    match config.plan with
    | .ok plan => return .ok plan
    | .error failure =>
      return .error (.during "Failed to plan provider generation" failure.message failure.causes)

structure Outcome where
  exitCode : UInt32
  output : String
  report? : Option String
deriving DecidableEq, Repr

def withoutFormatting (host : Host m) : Host m := { host with format := fun _ => pure (.ok ()) }

/-- Runs what the arguments ask for. Help succeeds and misuse does not, both without a report. -/
def run (host : Host m) (request : Request) : m Outcome := do
  match request with
  | .help => return ⟨0, "", none⟩
  | .misuse => return ⟨2, "", none⟩
  | .run (.plan path) =>
    match ← plan host path with
    | .ok plan => return ⟨0, plan.json.text ++ "\n", none⟩
    | .error chain => return ⟨1, "", some chain.report⟩
  | .run (.generate path output skipFormat) =>
    match ← generate (if skipFormat then withoutFormatting host else host) path output with
    | .ok _ => return ⟨0, "", none⟩
    | .error chain => return ⟨1, "", some chain.report⟩

end ProviderGen.CommandLine

namespace ProviderGen

instance : Coe Location (List String) := ⟨List.map EntryName.shown⟩

def FileTree.host (formatter : Emit.Target.Formatter) : Host (StateM FileTree) where
  readText path tree := (tree.readText path, tree)
  createDirectories path tree := tree.createDirectories path
  writeText path text tree := tree.writeText path text
  format directory tree := formatter directory tree

end ProviderGen
