import Mathlib.Data.List.Nodup
import ProviderGen.Proofs.ControllerMap
import ProviderGen.Proofs.RegisteredPackages
import ProviderGen.Proofs.SetupFiles

/-!
How packages are imported and wired in generated sources. Each package of a file gets an alias of
its own, although the numbered alias of one can be the natural one of another. The imports and the
list in which they are used are printed apart, from the same aliases in one order.
-/

namespace ProviderGen

namespace Emit

/-! ### Aliases -/

theorem aliasCandidate_injective (base : String) : Function.Injective (aliasCandidate base) := by
  have numbered (n : Nat) : aliasCandidate base (n + 1) ≠ base := by
    intro same
    have letters := congrArg String.toList same
    rw [toList_aliasCandidate_succ, List.append_right_eq_self] at letters
    exact Nat.toDigits_ne_nil letters
  intro n m same
  cases n with
  | zero =>
    cases m with
    | zero => rfl
    | succ m => exact absurd same.symm (numbered m)
  | succ n =>
    cases m with
    | zero => exact absurd same (numbered n)
    | succ m =>
      have letters := congrArg String.toList same
      rw [toList_aliasCandidate_succ, toList_aliasCandidate_succ] at letters
      have numbers := congrArg (Nat.ofDigitChars 10 · 0) (List.append_cancel_left letters)
      rw [Nat.ofDigitChars_ten_toDigits, Nat.ofDigitChars_ten_toDigits] at numbers
      omega

theorem exists_free_candidate (taken : List String) (base : String) :
    ∃ n ∈ List.range (taken.length + 1), aliasCandidate base n ∉ taken := by
  by_contra none
  have within : (List.range (taken.length + 1)).map (aliasCandidate base) ⊆ taken := by
    intro name listed
    obtain ⟨n, member, rfl⟩ := List.mem_map.mp listed
    by_contra absent
    exact none ⟨n, member, absent⟩
  have distinct : ((List.range (taken.length + 1)).map (aliasCandidate base)).Nodup :=
    List.nodup_range.map (aliasCandidate_injective base)
  have short := distinct.length_le_of_subset within
  rw [List.length_map, List.length_range] at short
  omega

theorem importAlias_eq_candidate (taken : List String) (package : String) :
    ∃ n ≤ taken.length, importAlias taken package = aliasCandidate (aliasBase package) n ∧
      aliasCandidate (aliasBase package) n ∉ taken ∧
      ∀ m < n, aliasCandidate (aliasBase package) m ∈ taken := by
  obtain ⟨n, member, absent⟩ := exists_free_candidate taken (aliasBase package)
  have some : ((List.range (taken.length + 1)).find? fun n =>
      aliasCandidate (aliasBase package) n ∉ taken).isSome :=
    List.find?_isSome.mpr ⟨n, member, decide_eq_true absent⟩
  obtain ⟨chosen, found⟩ := Option.isSome_iff_exists.mp some
  have first := List.find?_range_eq_some.mp found
  have free : aliasCandidate (aliasBase package) chosen ∉ taken := by simpa using first.1
  have earlier : ∀ m < chosen, aliasCandidate (aliasBase package) m ∈ taken := by
    simpa using first.2.2
  refine ⟨chosen, ?small, ?chosen, free, earlier⟩
  case small =>
    have listed := List.mem_range.mp first.2.1
    omega
  case chosen =>
    unfold importAlias
    dsimp only
    cases search : searchAlias (aliasBase package) taken (taken.length + 1) 1 with
    | none => rw [Option.getD_none, found, Option.getD_some]
    | some name =>
      obtain ⟨count, candidate, stillFree, before⟩ := searchAlias_first (by decide) search
      rw [Nat.zero_add] at candidate stillFree
      simp only [Nat.zero_add] at before
      have same : count = chosen := by
        rcases Nat.lt_trichotomy count chosen with less | same | more
        · exact absurd (earlier count less) stillFree
        · exact same
        · exact absurd (before chosen more) free
      rw [Option.getD_some, candidate, same]

theorem importAlias_not_mem (taken : List String) (package : String) :
    importAlias taken package ∉ taken := by
  obtain ⟨n, _, candidate, free, _⟩ := importAlias_eq_candidate taken package
  rw [candidate]
  exact free

theorem not_mem_of_mem_withAliases {taken packages : List String} {entry : String × String}
    (member : entry ∈ withAliases taken packages) : entry.1 ∉ taken := by
  induction packages generalizing taken with
  | nil => cases member
  | cons package rest ih =>
    unfold withAliases at member
    cases List.mem_cons.mp member with
    | inl first =>
      subst first
      exact importAlias_not_mem taken package
    | inr later => exact fun repeated => ih later (List.mem_cons_of_mem _ repeated)

theorem nodup_withAliases (taken packages : List String) :
    ((withAliases taken packages).map (·.1)).Nodup := by
  induction packages generalizing taken with
  | nil => exact .nil
  | cons package rest ih =>
    unfold withAliases
    rw [List.map_cons]
    refine List.nodup_cons.mpr ⟨fun repeated => ?_, ih _⟩
    obtain ⟨entry, listed, same⟩ := List.mem_map.mp repeated
    exact not_mem_of_mem_withAliases listed (same ▸ List.mem_cons_self)

/-! ### The blocks of a file -/

/-- How the packages of a file are written down: after an import of the file's own and an empty
line, one import for each package with an alias, and elsewhere a list that calls on the aliases in
the same order. -/
structure Wires (text fixed opening closing call : String) (packages : List String)
    (imports : List (String × String)) : Prop where
  each : imports.map (·.2) = packages
  aliases : (imports.map (·.1)).Nodup
  imported : block "import (" ")" (Text.split '\n' text) = fixed ::
    ((if packages = [] then [] else [""]) ++
      imports.map fun entry => "\t" ++ entry.1 ++ " " ++ constant entry.2)
  wired : block opening closing (Text.split '\n' text) =
    imports.map fun entry => "\t\t" ++ entry.1 ++ call

theorem Wires.once {text fixed opening closing call : String} {packages : List String}
    {imports : List (String × String)}
    (wires : Wires text fixed opening closing call packages imports) (distinct : packages.Nodup) :
    ∀ package ∈ packages, ∃! name, (name, package) ∈ imports := by
  intro package member
  have each := wires.each
  subst each
  obtain ⟨⟨name, _⟩, listed, rfl⟩ := List.mem_map.mp member
  refine ⟨name, listed, fun other otherListed => ?_⟩
  have same := List.inj_on_of_nodup_map distinct otherListed listed rfl
  exact congrArg Prod.fst same

theorem ne_of_mem_importLines {imports : List (String × String)} {line other : String}
    (member : line ∈ importLines imports) (nonempty : other ≠ "")
    (unquoted : other.toList.getLast? ≠ some '"') : line ≠ other := by
  rintro rfl
  obtain rfl | ⟨entry, _, rfl⟩ := of_mem_importLines member
  · exact nonempty rfl
  · apply unquoted
    have quote : (constant entry.2).toList =
        ('"' :: entry.2.toList.flatMap Text.quotedChar) ++ ['"'] := by
      unfold constant Text.quoted
      rw [String.toList_ofList]
      rfl
    rw [String.toList_append, String.toList_append, String.toList_append, quote,
      ← List.append_assoc, ← List.append_assoc, ← List.append_assoc, List.getLast?_concat]

theorem importLines_withAliases (taken packages : List String) :
    importLines (withAliases taken packages) =
      (if packages = [] then [] else [""]) ++ (withAliases taken packages).map fun entry =>
        "\t" ++ entry.1 ++ " " ++ constant entry.2 := by
  cases packages <;> rfl

/-- A file wires packages if its lines are the imports under their aliases and the list that calls
on these, between other lines that open neither block. -/
theorem wires_of_lines (start middle : List String) {rest : List String}
    {text fixed opening closing call : String} {packages : List String}
    (cut : Text.split '\n' text = start ++ "import (" ::
      ((fixed :: importLines (withAliases [] packages)) ++ ")" :: (middle ++ opening ::
        ((withAliases [] packages).map (fun entry => "\t\t" ++ entry.1 ++ call) ++
          closing :: rest))))
    (first : ∀ line ∈ start, line ≠ "import (") (own : fixed ≠ ")")
    (before : ∀ line ∈ start ++ "import (" :: fixed :: ")" :: middle, line ≠ opening)
    (nonempty : opening ≠ "") (unquoted : opening.toList.getLast? ≠ some '"')
    (diverge : Diverge "\t\t" closing) :
    Wires text fixed opening closing call packages (withAliases [] packages) := by
  refine ⟨map_withAliases [] packages, nodup_withAliases [] packages, ?imported, ?wired⟩
  case imported =>
    rw [cut, ← importLines_withAliases]
    apply block_eq first
    intro line member
    rcases List.mem_cons.mp member with rfl | imported
    · exact own
    · exact ne_of_mem_importLines imported (by decide) (by decide)
  case wired =>
    have regrouped := cut
    rw [List.append_cons, ← List.append_assoc, List.append_cons, ← List.append_assoc] at regrouped
    rw [regrouped]
    apply block_eq
    · intro line member
      by_cases imported : line ∈ importLines (withAliases [] packages)
      · exact ne_of_mem_importLines imported nonempty unquoted
      · apply before
        simpa [imported] using member
    · intro line member
      obtain ⟨entry, _, rfl⟩ := List.mem_map.mp member
      rw [String.append_assoc]
      exact diverge.append_ne (entry.1 ++ call)

/-! ### Registrations and setups -/

def registerText (packages : ApiPackages) : String := sourceText (registerLines packages)

theorem unbroken_registerLines (packages : ApiPackages) :
    ∀ line ∈ registerLines packages, '\n' ∉ line.toList := by
  unfold registerLines
  have imports := unbroken_importLines [] packages.unique
  have calls : ∀ line ∈ (withAliases [] packages.unique).map fun entry =>
      "\t\t" ++ entry.1 ++ ".SchemeBuilder.AddToScheme,", '\n' ∉ line.toList :=
    unbroken_calls [] packages.unique (by decide)
  refine List.forall_mem_append.mpr ⟨List.forall_mem_append.mpr ⟨List.forall_mem_append.mpr
    ⟨List.forall_mem_append.mpr ⟨?_, imports⟩, ?_⟩, calls⟩, ?_⟩
  all_goals simp [generatedHeader]

def registerOpening : List String := [
  "",
  "func init() \x7b",
  "\t// Register the types with the Scheme so the components can map objects to " ++
    "GroupVersionKinds and back"]

theorem registerText_wires (packages : ApiPackages) :
    Wires (registerText packages) "\t\"k8s.io/apimachinery/pkg/runtime\""
      "\tAddToSchemes = append(AddToSchemes," "\t)" ".SchemeBuilder.AddToScheme," packages.unique
        (withAliases [] packages.unique) := by
  have cut : Text.split '\n' (registerText packages) = registerLines packages ++ [""] :=
    split_sourceText (unbroken_registerLines packages)
  unfold registerLines at cut
  simp only [List.append_assoc] at cut
  exact wires_of_lines
    [generatedHeader, "", "// Package apis contains Kubernetes API for the provider.",
      "package apis", ""]
    registerOpening cut (by decide) (by decide) (by decide) (by decide) (by decide) (by decide)

def setupOpening (key : String) : List String := [
  "",
  "// " ++ setupFunction key ++
    " creates all controllers with the supplied logger and adds them to",
  "// the supplied manager.",
  "func " ++ setupFunction key ++ "(mgr ctrl.Manager) error \x7b"]

theorem setupText_wires (key : String) (packages : List String) :
    Wires (setupText key packages) runtimeImport
      "\tfor _, setup := range []func(ctrl.Manager) error\x7b" "\t\x7d \x7b" ".Setup," packages
        (withAliases [] packages) := by
  have cut := split_setupText key packages
  unfold setupLines at cut
  simp only [List.append_assoc] at cut
  have before : ∀ line ∈ (fileStart "controller" ++ [""]) ++ "import (" :: runtimeImport ::
      ")" :: setupOpening key, line ≠ "\tfor _, setup := range []func(ctrl.Manager) error\x7b" := by
    unfold setupOpening
    refine List.forall_mem_append.mpr ⟨by decide, ?_⟩
    simp only [List.forall_mem_cons]
    refine ⟨by decide, by decide, by decide, by decide, ?comment, by decide, ?signature, nofun⟩
    case comment =>
      rw [String.append_assoc]
      exact Diverge.append_ne (by decide) _
    case signature =>
      rw [String.append_assoc]
      exact Diverge.append_ne (by decide) _
  exact wires_of_lines (fileStart "controller" ++ [""]) (setupOpening key) cut (by decide)
    (by decide) before (by decide) (by decide) (by decide)

/-- The registration of any API packages imports each of them once, in the order of their first
occurrences, and registers each of these imports once, in the same order; and so does the setup of
any controllers that are not repeated. -/
theorem imported_and_wired_once (root : HostPath) (apis : ApiPackages) (key : String)
    {controllers : List String} (distinct : controllers.Nodup) :
    (Wires (registerFile root apis).2 "\t\"k8s.io/apimachinery/pkg/runtime\""
        "\tAddToSchemes = append(AddToSchemes," "\t)" ".SchemeBuilder.AddToScheme," apis.unique
          (withAliases [] apis.unique) ∧
      apis.unique.Nodup ∧
      ∀ package ∈ apis, ∃! name, (name, package) ∈ withAliases [] apis.unique) ∧
    Wires (setupText key controllers) "\tctrl \"sigs.k8s.io/controller-runtime\""
      "\tfor _, setup := range []func(ctrl.Manager) error\x7b" "\t\x7d \x7b" ".Setup," controllers
        (withAliases [] controllers) ∧
    ∀ package ∈ controllers, ∃! name, (name, package) ∈ withAliases [] controllers := by
  have registers := registerText_wires apis
  have sets := setupText_wires key controllers
  have apart : apis.unique.Nodup := by
    rw [ApiPackages.unique_eq_eraseDups]
    exact ControllerMap.nodup_eraseDups apis
  refine ⟨⟨registers, apart, fun package member => registers.once apart package ?_⟩, sets,
    sets.once distinct⟩
  rw [ApiPackages.unique_eq_eraseDups]
  exact List.mem_eraseDups.mpr member

/-- Controllers of which two have one natural alias, and the third has as its own the one that the
second is numbered with. -/
def rivalControllers : List String := [
  "example.org/provider/internal/controller/ec2/network",
  "example.org/shared/internal/controller/ec2/network",
  "example.org/provider/internal/controller/ec2/network2"]

theorem rivalControllers_wired :
    rivalControllers.Nodup ∧
    block "\tfor _, setup := range []func(ctrl.Manager) error\x7b" "\t\x7d \x7b"
        (Text.split '\n' (setupText "ec2" rivalControllers)) =
      ["\t\tec2network.Setup,", "\t\tec2network2.Setup,", "\t\tec2network22.Setup,"] := by
  have distinct : rivalControllers.Nodup := by decide
  obtain ⟨_, sets, _⟩ := imported_and_wired_once ⟨"out"⟩ [] "ec2" distinct
  have aliases : (withAliases [] rivalControllers).map (·.1) =
      ["ec2network", "ec2network2", "ec2network22"] := by decide +kernel
  have lines := congrArg (List.map fun name => "\t\t" ++ name ++ ".Setup,") aliases
  rw [List.map_map] at lines
  exact ⟨distinct, sets.wired.trans lines⟩

end Emit

end ProviderGen
