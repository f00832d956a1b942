import ProviderGen.Proofs.FileContents
import ProviderGen.Proofs.SourceText
import ProviderGen.Proofs.WorkEffect

/-!
What becomes of the keys of a controller map. Setup files, setup functions and main programs are
named after the package name of their key, which folds cases and drops characters. So every key has
its own exactly if package names tell the keys apart; of the keys with one package name the last
stands.
-/

namespace ProviderGen

open Location (IsName)

namespace Emit

variable {root : HostPath} {controllers : ControllerMap}

def setupPath (root : HostPath) (key : String) : HostPath :=
  ((root.join "internal").join "controller").join ("zz_" ++ packageName key ++ "_setup.go")

def setupText (key : String) (packages : List String) : String :=
  sourceText (setupLines key packages)

def mainPath (root : HostPath) (key : String) : HostPath :=
  (((root.join "cmd").join "provider").join (packageName key)).join "zz_main.go"

theorem setupFiles_eq (root : HostPath) (controllers : ControllerMap) :
    setupFiles root controllers = controllers.packages.entries.map fun entry =>
      (setupPath root entry.1, setupText entry.1 entry.2) := rfl

theorem mainFiles_eq (root : HostPath) (modulePath template : String) (keys : List String) :
    mainFiles root modulePath template keys = keys.map fun key =>
      (mainPath root key, renderMain template key modulePath) := rfl

/-! ### What a setup file tells -/

def runtimeImport : String := "\tctrl \"sigs.k8s.io/controller-runtime\""

def importBlock (lines : List String) : List String :=
  ((lines.dropWhile (· ≠ "import (")).drop 1).takeWhile (· ≠ ")")

def functions (lines : List String) : List String := opened "func " lines

/-- A file that imports the packages of a key in order and nothing else but the runtime, and defines
the setup function of the key and no other. -/
structure SetsUp (text key : String) (packages : List String) : Prop where
  imports : ∃ imports : List (String × String), imports.map (·.2) = packages ∧
    importBlock (Text.split '\n' text) = runtimeImport :: importLines imports
  function : functions (Text.split '\n' text) =
    ["func " ++ setupFunction key ++ "(mgr ctrl.Manager) error \x7b"]

theorem importBlock_eq {opening block closing : List String}
    (before : ∀ line ∈ opening, line ≠ "import (") (inside : ∀ line ∈ block, line ≠ ")") :
    importBlock (opening ++ "import (" :: (block ++ ")" :: closing)) = block :=
  block_eq before inside

theorem not_opens_of_mem_importLines {imports : List (String × String)} {line opening : String}
    (member : line ∈ importLines imports) (some : opening ≠ "") (diverge : Diverge "\t" opening) :
    ¬Opens opening line := by
  obtain rfl | ⟨entry, _, rfl⟩ := of_mem_importLines member
  · intro empty
    exact some (String.toList_eq_nil_iff.mp (List.prefix_nil.mp empty))
  · exact diverge.not_opens _

theorem importBlock_setupLines (key : String) (packages later : List String) :
    importBlock (setupLines key packages ++ later) =
      runtimeImport :: importLines (withAliases [] packages) := by
  have before : ∀ line ∈ fileStart "controller" ++ [""], line ≠ "import (" := by decide
  have inside : ∀ line ∈ runtimeImport :: importLines (withAliases [] packages), line ≠ ")" := by
    intro line member same
    subst same
    cases List.mem_cons.mp member with
    | inl runtime => exact absurd runtime (by decide)
    | inr imported =>
      exact not_opens_of_mem_importLines imported (by decide) (by decide) List.prefix_rfl
  unfold setupLines
  simp only [List.append_assoc]
  exact importBlock_eq before inside

theorem functions_setupLines (key : String) (packages : List String) :
    functions (setupLines key packages) =
      ["func " ++ setupFunction key ++ "(mgr ctrl.Manager) error \x7b"] := by
  have imports : opened "func " (importLines (withAliases [] packages)) = [] :=
    opened_eq_nil fun _ member => not_opens_of_mem_importLines member (by decide) (by decide)
  have calls : opened "func " ((withAliases [] packages).map fun entry =>
      "\t\t" ++ entry.1 ++ ".Setup,") = [] := by
    apply opened_eq_nil
    intro line member
    obtain ⟨entry, _, rfl⟩ := List.mem_map.mp member
    rw [String.append_assoc]
    exact Diverge.not_opens (by decide) _
  have own : Opens "func " ("func " ++ (setupFunction key ++ "(mgr ctrl.Manager) error \x7b")) :=
    opens_append _ _
  unfold functions setupLines fileStart generatedHeader
  simp only [opened_append, imports, calls]
  simp +decide only [opened, List.filter_cons, List.filter_nil, String.append_assoc,
    Diverge.not_opens, own, if_false, if_true, List.nil_append, List.append_nil]

theorem feed_not_mem_setupFunction (key : String) : '\n' ∉ (setupFunction key).toList := by
  unfold setupFunction
  split
  · decide
  · exact not_mem_append.mpr ⟨by decide, (isPlain_packageName key).not_mem (by decide)⟩

theorem unbroken_importLines (taken packages : List String) :
    ∀ line ∈ importLines (withAliases taken packages), '\n' ∉ line.toList := by
  intro line member
  obtain rfl | ⟨entry, listed, rfl⟩ := of_mem_importLines member
  · decide
  · simp +decide only [not_mem_append, feed_not_mem_of_mem_withAliases listed,
      feed_not_mem_constant, not_false_eq_true, and_self]

theorem unbroken_calls (taken packages : List String) {call : String}
    (unbroken : '\n' ∉ call.toList) :
    ∀ line ∈ (withAliases taken packages).map fun entry => "\t\t" ++ entry.1 ++ call,
      '\n' ∉ line.toList := by
  intro line member
  obtain ⟨entry, listed, rfl⟩ := List.mem_map.mp member
  simp +decide only [not_mem_append, feed_not_mem_of_mem_withAliases listed, unbroken,
    not_false_eq_true, and_self]

theorem unbroken_setupLines (key : String) (packages : List String) :
    ∀ line ∈ setupLines key packages, '\n' ∉ line.toList := by
  unfold setupLines fileStart
  simp +decide only [List.forall_mem_append, List.forall_mem_cons, not_mem_append,
    feed_not_mem_setupFunction, not_false_eq_true, and_true, true_and]
  exact ⟨unbroken_importLines [] packages, unbroken_calls [] packages (by decide)⟩

theorem split_setupText (key : String) (packages : List String) :
    Text.split '\n' (setupText key packages) = setupLines key packages ++ [""] :=
  split_sourceText (unbroken_setupLines key packages)

theorem setsUp_setupText (key : String) (packages : List String) :
    SetsUp (setupText key packages) key packages := by
  constructor
  · rw [split_setupText]
    exact ⟨_, map_withAliases [] packages, importBlock_setupLines key packages [""]⟩
  · have none : functions [""] = [] := by decide
    unfold functions at none ⊢
    rw [split_setupText, opened_append, none, List.append_nil]
    exact functions_setupLines key packages

/-! ### Places -/

theorem destination_setupPath (tree : FileTree) (root : HostPath) (key : String) :
    tree.destination (setupPath root key) = tree.destination root ++
      ["internal", "controller", "zz_" ++ packageName key ++ "_setup.go"] := by
  have internal : IsName "internal" := by decide
  have controller : IsName "controller" := by decide
  unfold setupPath
  rw [tree.destination_join_name (isName_setupFile key), tree.destination_join_name controller,
    tree.destination_join_name internal]
  simp

theorem destination_mainPath (tree : FileTree) (root : HostPath) (key : String) :
    tree.destination (mainPath root key) = tree.destination root ++
      ["cmd", "provider", packageName key, "zz_main.go"] := by
  have cmd : IsName "cmd" := by decide
  have provider : IsName "provider" := by decide
  have main : IsName "zz_main.go" := by decide
  unfold mainPath
  rw [tree.destination_join_name main, tree.destination_join_name (isPlain_packageName key).isName,
    tree.destination_join_name provider, tree.destination_join_name cmd]
  simp

theorem destination_setupPath_eq_iff {tree : FileTree} {key other : String} :
    tree.destination (setupPath root key) = tree.destination (setupPath root other) ↔
      packageName key = packageName other := by
  rw [destination_setupPath, destination_setupPath]
  simp

theorem destination_mainPath_eq_iff {tree : FileTree} {key other : String} :
    tree.destination (mainPath root key) = tree.destination (mainPath root other) ↔
      packageName key = packageName other := by
  rw [destination_mainPath, destination_mainPath]
  simp

theorem destination_mainPath_ne (tree : FileTree) (root : HostPath) (key other : String) :
    tree.destination (mainPath root key) ≠ tree.destination (setupPath root other) := by
  rw [destination_mainPath, destination_setupPath]
  simp

theorem packageName_eq_of_setupFunction_eq {key other : String}
    (same : setupFunction key = setupFunction other) : packageName key = packageName other := by
  have longer (name : String) : "Setup" ≠ "Setup_" ++ name := by
    intro plain
    have lengths := congrArg String.length plain
    rw [String.length_append] at lengths
    have start : "Setup".length = 5 := rfl
    have opening : "Setup_".length = 6 := rfl
    omega
  unfold setupFunction at same
  split at same <;> split at same
  case isTrue.isTrue first second => rw [first, second]
  case isTrue.isFalse => exact absurd same (longer _)
  case isFalse.isTrue => exact absurd same.symm (longer _)
  case isFalse.isFalse => exact (String.append_right_inj _).mp same

/-! ### Keys -/

/-- What is to be had of every key: a setup file of its own that imports the packages of the key, a
setup function of its own and, if there is a template, a main program of its own that is rendered
for the key. -/
structure KeysKept (target : Target) (controllers : ControllerMap)
    (mainTemplate? : Option HostPath) (template : String) (tree : FileTree) : Prop where
  setup : ∀ entry ∈ controllers.packages.entries, ∃ text,
    tree.readText (setupPath target.root entry.1) = .ok text ∧ SetsUp text entry.1 entry.2
  ownSetup : (controllers.keys.map fun key => tree.destination (setupPath target.root key)).Nodup
  ownFunction : (controllers.keys.map setupFunction).Nodup
  main : mainTemplate? ≠ none → ∀ key ∈ controllers.keys,
    tree.readText (mainPath target.root key) =
      .ok (renderMain template key target.layout.modulePath)
  ownMain : (controllers.keys.map fun key => tree.destination (mainPath target.root key)).Nodup

namespace Target

variable {target : Target} {pending : PendingManifests} {mainTemplate? : Option HostPath}
  {tree after : FileTree} {template answer : String}

theorem updated_of_setup
    (success : (target.work pending (.setup controllers mainTemplate?)).1.run tree =
      (.ok answer, after)) :
    ∃ template,
      (∀ path, mainTemplate? = some path → ∃ reached,
        tree.Updated (setupFiles target.root controllers) reached ∧
          reached.readText path = .ok template) ∧
      tree.Updated (target.files template pending (.setup controllers mainTemplate?)) after := by
  obtain ⟨reached, setups, onwards⟩ := FileWork.updated_of_writeAll success
  cases mainTemplate? with
  | none =>
    cases onwards
    refine ⟨"", nofun, ?_⟩
    unfold files
    dsimp only
    rw [List.append_nil]
    exact setups
  | some path =>
    -- the template is read from the tree in which all setup files are
    rw [FileWork.run] at onwards
    cases text : reached.readText path with
    | error cause =>
      rw [text] at onwards
      cases onwards
    | ok template =>
      rw [text] at onwards
      refine ⟨template, ?_, setups.trans (FileWork.updated_of_writeAll_done onwards)⟩
      intro other same
      cases same
      exact ⟨reached, setups, text⟩

section

variable (updated : tree.Updated
  (target.files template pending (.setup controllers mainTemplate?)) after)

include updated

theorem readText_setup {entry : String × List String}
    (listed : entry ∈ controllers.packages.entries) :
    ∃ last, LastWith (fun other => packageName other.1) controllers.packages.entries
        (packageName entry.1) last ∧
      after.readText (setupPath target.root entry.1) = .ok (setupText last.1 last.2) := by
  unfold files at updated
  dsimp only at updated
  rw [setupFiles_eq, ← List.nil_append (List.map _ _)] at updated
  obtain ⟨last, lastWith, read⟩ := updated.readText_item listed (by
    intro file later
    cases mainTemplate? with
    | none => cases later
    | some path =>
      obtain ⟨key, _, rfl⟩ := List.mem_map.mp later
      exact destination_mainPath_ne tree target.root key entry.1)
  exact ⟨last, lastWith.congr fun _ => destination_setupPath_eq_iff, read⟩

theorem readText_main (some : mainTemplate? ≠ none) {key : String}
    (listed : key ∈ controllers.keys) :
    ∃ last, LastWith packageName controllers.keys (packageName key) last ∧
      after.readText (mainPath target.root key) =
        .ok (renderMain template last target.layout.modulePath) := by
  cases mainTemplate? with
  | none => exact absurd rfl some
  | some path =>
    unfold files at updated
    dsimp only at updated
    rw [mainFiles_eq, ← List.append_nil (_ ++ _)] at updated
    obtain ⟨last, lastWith, read⟩ := updated.readText_item listed nofun
    exact ⟨last, lastWith.congr fun _ => destination_mainPath_eq_iff, read⟩

end

/-- Where the controllers of any map are set up, the setup file of a key is that of the last key
with its package name and imports the packages of that key in order, and the main program is
rendered for that key. Each key, the monolith key among them, has its own setup file, setup function
and main program exactly if package names tell the keys apart. -/
theorem setup_kept_iff
    (success : (target.work pending (.setup controllers mainTemplate?)).1.run tree =
      (.ok answer, after)) :
    ∃ template,
      (∀ path, mainTemplate? = some path → ∃ reached,
        tree.Updated (setupFiles target.root controllers) reached ∧
          reached.readText path = .ok template) ∧
      (∀ entry ∈ controllers.packages.entries, ∃ last,
        LastWith (fun other => packageName other.1) controllers.packages.entries
          (packageName entry.1) last ∧
        after.readText (setupPath target.root entry.1) = .ok (setupText last.1 last.2) ∧
        SetsUp (setupText last.1 last.2) last.1 last.2) ∧
      (mainTemplate? ≠ none → ∀ key ∈ controllers.keys, ∃ last,
        LastWith packageName controllers.keys (packageName key) last ∧
        after.readText (mainPath target.root key) =
          .ok (renderMain template last target.layout.modulePath)) ∧
      (KeysKept target controllers mainTemplate? template after ↔
        (controllers.keys.map packageName).Nodup) := by
  obtain ⟨template, rendered, updated⟩ := updated_of_setup success
  refine ⟨template, rendered, ?setups, fun some _ listed => readText_main updated some listed,
    fun kept => ?distinct, fun distinct => ?kept⟩
  case setups =>
    intro entry listed
    obtain ⟨last, lastWith, read⟩ := readText_setup updated listed
    exact ⟨last, lastWith, read, setsUp_setupText last.1 last.2⟩
  case distinct =>
    exact nodup_map_of_told (fun _ _ => destination_setupPath_eq_iff.mpr) kept.ownSetup
  case kept =>
    have entries : (controllers.packages.entries.map fun other => packageName other.1).Nodup := by
      have keys : controllers.keys.map packageName =
          controllers.packages.entries.map fun other => packageName other.1 := List.map_map
      rwa [← keys]
    constructor
    case setup =>
      intro entry listed
      obtain ⟨last, lastWith, read⟩ := readText_setup updated listed
      have own := lastWith.eq_of_nodup entries listed
      subst own
      exact ⟨_, read, setsUp_setupText last.1 last.2⟩
    case main =>
      intro some key listed
      obtain ⟨last, lastWith, read⟩ := readText_main updated some listed
      have own := lastWith.eq_of_nodup distinct listed
      subst own
      exact read
    case ownSetup =>
      exact nodup_map_of_told (fun _ _ => destination_setupPath_eq_iff.mp) distinct
    case ownFunction =>
      exact nodup_map_of_told (fun _ _ => packageName_eq_of_setupFunction_eq) distinct
    case ownMain =>
      exact nodup_map_of_told (fun _ _ => destination_mainPath_eq_iff.mp) distinct

end Target

end Emit

/-! ### Pairs of keys -/

namespace ControllerMap

open Emit

def accountPackage : String := "example.org/provider/internal/controller/ec2/account"

def networkPackage : String := "example.org/provider/internal/controller/ec2/network"

def underKeys (key : String) : ControllerMap :=
  (empty.insert key accountPackage).insert "ec2" networkPackage

def setupDirectories : FileTree where
  workingDirectory := []
  entries := ⟨[
    (["main.tmpl"], .file "package main // \x7b\x7b .Group \x7d\x7d".toUTF8),
    (["out"], .directory), (["out", "cmd"], .directory), (["out", "cmd", "provider"], .directory),
    (["out", "cmd", "provider", "config"], .directory),
    (["out", "cmd", "provider", "ec2"], .directory),
    (["out", "cmd", "provider", "monolith"], .directory), (["out", "internal"], .directory),
    (["out", "internal", "controller"], .directory)], by decide⟩

def setupTarget : Target := ⟨⟨"out"⟩, ⟨"example.org/provider"⟩⟩

def setupOfKeys (key : String) (mainTemplate? : Option HostPath) :
    Except GenerateFailure String × FileTree :=
  (setupTarget.work .empty (.setup (underKeys key) mainTemplate?)).1.run setupDirectories

theorem underKeys_kept :
    (∃ answer after template, setupOfKeys "config" (some ⟨"main.tmpl"⟩) = (.ok answer, after) ∧
      KeysKept setupTarget (underKeys "config") (some ⟨"main.tmpl"⟩) template after) ∧
    ∃ answer after template, setupOfKeys "EC2" (some ⟨"main.tmpl"⟩) = (.ok answer, after) ∧
      ¬KeysKept setupTarget (underKeys "EC2") (some ⟨"main.tmpl"⟩) template after := by
  obtain ⟨answer, after, success⟩ := FileWork.exists_of_isOk
    (show (setupOfKeys "config" (some ⟨"main.tmpl"⟩)).1.isOk = true by decide +kernel)
  obtain ⟨lossyAnswer, lossyAfter, lossySuccess⟩ := FileWork.exists_of_isOk
    (show (setupOfKeys "EC2" (some ⟨"main.tmpl"⟩)).1.isOk = true by decide +kernel)
  obtain ⟨template, _, _, _, kept⟩ := Target.setup_kept_iff success
  obtain ⟨lossyTemplate, _, _, _, lossyKept⟩ := Target.setup_kept_iff lossySuccess
  refine ⟨⟨answer, after, template, success, kept.mpr (by decide)⟩,
    lossyAnswer, lossyAfter, lossyTemplate, lossySuccess, fun whole => ?_⟩
  exact absurd (lossyKept.mp whole) (by decide)

/-- Of two keys that differ in case, the first loses its setup to the second. -/
theorem underKeys_lost :
    (underKeys "EC2").find? "EC2" = some [accountPackage] ∧
    setupFunction "EC2" = setupFunction "ec2" ∧
    setupPath ⟨"out"⟩ "EC2" = ⟨"out/internal/controller/zz_ec2_setup.go"⟩ ∧
    ∃ answer after text, setupOfKeys "EC2" none = (.ok answer, after) ∧
      after.readText ⟨"out/internal/controller/zz_ec2_setup.go"⟩ = .ok text ∧
      SetsUp text "ec2" [networkPackage] ∧ ¬SetsUp text "EC2" [accountPackage] := by
  obtain ⟨answer, after, success⟩ := FileWork.exists_of_isOk
    (show (setupOfKeys "EC2" none).1.isOk = true by decide +kernel)
  obtain ⟨template, _, updated⟩ := Target.updated_of_setup success
  have entries : (underKeys "EC2").packages.entries = [("EC2", [accountPackage]),
      ("ec2", [networkPackage]), ("monolith", [accountPackage, networkPackage])] := by decide
  have listed : ("ec2", [networkPackage]) ∈ (underKeys "EC2").packages.entries := by
    rw [entries]
    exact List.mem_cons_of_mem _ List.mem_cons_self
  have path : setupPath setupTarget.root "ec2" =
      ⟨"out/internal/controller/zz_ec2_setup.go"⟩ := by decide
  obtain ⟨last, lastWith, read⟩ := Target.readText_setup updated listed
  have own : last = ("ec2", [networkPackage]) := by
    rw [entries] at lastWith
    exact lastWith.unique ⟨[("EC2", [accountPackage])], [("monolith", _)], rfl, rfl, by decide⟩
  rw [own, path] at read
  refine ⟨by decide, by decide, by decide, answer, after, _, success, read,
    setsUp_setupText "ec2" [networkPackage], fun lost => ?_⟩
  obtain ⟨imports, packages, block⟩ := lost.imports
  rw [split_setupText, importBlock_setupLines] at block
  obtain ⟨⟨name, package⟩, rfl, rfl⟩ := List.map_eq_singleton_iff.mp packages
  have line : "\tec2network " ++ constant networkPackage =
      "\t" ++ name ++ " " ++ constant accountPackage :=
    (List.cons.inj (List.cons.inj (List.cons.inj block).2).2).1
  have ending : (constant accountPackage).toList <:+
      ("\tec2network " ++ constant networkPackage).toList := by
    rw [line, String.toList_append]
    exact List.suffix_append _ _
  exact absurd ending (by decide)

end ControllerMap

end ProviderGen
