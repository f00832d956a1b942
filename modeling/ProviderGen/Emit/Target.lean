import ProviderGen.Emit.Controller
import ProviderGen.Emit.HubSpoke
import ProviderGen.Emit.Registration
import ProviderGen.Emit.Setup
import ProviderGen.Emit.ApiTypes
import ProviderGen.Files.Work
import ProviderGen.Generation.Run
import ProviderGen.Manifest.Pending

/-!
How the calls of a run are met by writing a provider's sources: what each call does to the files
below the output root, and how a run is answered from a file tree.
-/

namespace ProviderGen.Emit

structure Target where
  root : HostPath
  layout : Layout
deriving DecidableEq, Repr

namespace Target

variable (target : Target)

def setupWork (controllers : ControllerMap) (mainTemplate? : Option HostPath) : FileWork :=
  FileWork.writeAll (setupFiles target.root controllers) <|
    match mainTemplate? with
    | none => .done (.ok "")
    | some path => .read path fun
      | .error cause => .done (.error (.unreadableTemplate path cause))
      | .ok template =>
        FileWork.writeAll
          (mainFiles target.root target.layout.modulePath template controllers.keys)
          (.done (.ok ""))

/-- What a call does to the files, and the manifests that wait afterwards. Storing takes all
waiting manifests, whether or not they can be written. Formatting writes nothing here. -/
def work (pending : PendingManifests) : Call → FileWork × PendingManifests
  | .types group version resources =>
    (FileWork.writeAll (typeFiles target.root group version resources)
      (.done (.ok (target.layout.apiPackage group version))), pending)
  | .controller group resource watchPackage featuresPackage? =>
    if watchPackage = "" then (.done (.error (.noWatchPackage resource.name)), pending)
    else (FileWork.writeAll
      [controllerFile target.root group resource watchPackage featuresPackage?]
      (.done (.ok (target.layout.controllerPackage group resource.kind))), pending)
  | .manifest group version resource =>
    (.done (.ok ""), pending.add (Manifest.path target.root group version resource.name)
      (.ofResource group version resource))
  | .conversion group version kind resources =>
    (FileWork.writeAll [conversionFile target.root group version kind resources]
      (.done (.ok "")), pending)
  | .store => (FileWork.writeAll pending.files (.done (.ok "")), .empty)
  | .register packages =>
    (FileWork.writeAll [registerFile target.root packages] (.done (.ok "")), pending)
  | .setup controllers mainTemplate? => (target.setupWork controllers mainTemplate?, pending)
  | .format _ => (.done (.ok ""), pending)

structure Workspace where
  tree : FileTree
  pending : PendingManifests

abbrev Formatter := HostPath → FileTree → Except FormatFailure Unit × FileTree

def unformatted : Formatter := fun _ tree => (.ok (), tree)

def answer (formatter : Formatter) (call : Call) (workspace : Workspace) : Answer × Workspace :=
  match call with
  | .format directory =>
    match formatter directory workspace.tree with
    | (.ok (), tree) => (.ok "", { workspace with tree })
    | (.error failure, tree) => (.error (.format failure), { workspace with tree })
  | call =>
    let (work, pending) := target.work workspace.pending call
    match work.run workspace.tree with
    | (.ok package, tree) => (.ok package, ⟨tree, pending⟩)
    | (.error failure, tree) => (.error (.generate failure), ⟨tree, pending⟩)

def perform {m : Type → Type} [Monad m] (host : Host m) (call : Call) :
    StateT PendingManifests m Answer := do
  match call with
  | .format directory =>
    match ← host.format directory with
    | .ok () => return .ok ""
    | .error failure => return .error (.format failure)
  | call =>
    let (work, pending) := target.work (← get) call
    set pending
    match ← (work.perform host : m (Except GenerateFailure String)) with
    | .ok package => return .ok package
    | .error failure => return .error (.generate failure)

end Target

end ProviderGen.Emit

namespace ProviderGen

def Config.runInto (config : Config) (output : HostPath) (formatter : Emit.Target.Formatter)
    (tree : FileTree) : Except RunFailure Summary × FileTree :=
  let target : Emit.Target := ⟨output, config.layout⟩
  let outcome := (config.generation output).run (target.answer formatter) ⟨tree, .empty⟩
  (outcome.1, outcome.2.tree)

/-- Generates a provider. The faults that the host has in store are for this run; those that it did
not come to are gone with it. -/
def Config.generateInto (config : Config) (output : HostPath) (formatter : Emit.Target.Formatter)
    (tree : FileTree) : Except RunFailure Summary × FileTree :=
  let run := config.runInto output formatter tree
  (run.1, { run.2 with faults := [] })

end ProviderGen
