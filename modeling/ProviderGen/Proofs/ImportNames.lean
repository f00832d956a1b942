import ProviderGen.Proofs.Imports

/-!
Under which names the imports of a file are known. The names of its packages differ from each
other, but the name of the import that is the file's own is not kept from them: the first package
whose last two segments spell it gets it as well. So names clash exactly if some package spells it.
-/

namespace ProviderGen.Emit

/-! ### Names of imports -/

/-- The name that an import line makes known: the one before the path if there is one, and otherwise
the last segment of the path. -/
def importName? (line : String) : Option String :=
  match line.toList with
  | '\t' :: '"' :: path => (Text.split '/' (String.ofList path.dropLast)).getLast?
  | '\t' :: words => some (String.ofList (words.takeWhile (· ≠ ' ')))
  | _ => none

def importNames (text : String) : List String :=
  (importBlock (Text.split '\n' text)).filterMap importName?

theorem importName?_aliased {name : String} (plain : IsPlain name) (package : String) :
    importName? ("\t" ++ name ++ " " ++ constant package) = some name := by
  obtain ⟨first, rest, spelled, _⟩ := plain.start
  have letters : ("\t" ++ name ++ " " ++ constant package).toList =
      '\t' :: first :: (rest ++ ' ' :: (constant package).toList) := by
    simp [spelled]
  have unquoted : first ≠ '"' := by
    rintro rfl
    exact plain.not_mem (by decide) (spelled ▸ List.mem_cons_self)
  have together : ∀ c ∈ first :: rest, decide (c ≠ ' ') = true := by
    intro c member
    apply decide_eq_true
    rintro rfl
    exact plain.not_mem (by decide) (spelled ▸ member)
  unfold importName?
  rw [letters]
  split
  case h_1 path start =>
    cases start
    exact absurd rfl unquoted
  case h_2 words _ start =>
    obtain rfl := (List.cons.inj start).2
    rw [← List.cons_append, List.takeWhile_append_of_pos together,
      List.takeWhile_cons_of_neg (by decide), List.append_nil, ← spelled, String.ofList_toList]
  case h_3 other => exact absurd rfl (other _)

theorem filterMap_importName?_importLines {imports : List (String × String)}
    (plain : ∀ entry ∈ imports, IsPlain entry.1) :
    (importLines imports).filterMap importName? = imports.map (·.1) := by
  have blank : (if imports.isEmpty then [] else [""]).filterMap importName? = [] := by
    split <;> rfl
  unfold importLines
  rw [List.filterMap_append, blank, List.nil_append, List.filterMap_map, ← List.filterMap_eq_map]
  exact List.filterMap_congr fun entry member => importName?_aliased (plain entry member) entry.2

/-! ### Natural aliases -/

def aliases (packages : List String) : List String := (withAliases [] packages).map (·.1)

/-- The last two segments of a package, run together. -/
def lastSegments (package : String) : String :=
  let segments := Text.split '/' package
  String.join (segments.drop (segments.length - 2))

theorem aliasBase_eq (package : String) : aliasBase package = packageName (lastSegments package) :=
  rfl

def Spells (word package : String) : Prop := keptLetters (lastSegments package) = word.toList

instance (word package : String) : Decidable (Spells word package) :=
  inferInstanceAs (Decidable (_ = _))

theorem IsVerbatim.aliasBase_eq_iff {word : String} (verbatim : IsVerbatim word)
    (package : String) : aliasBase package = word ↔ Spells word package := by
  rw [aliasBase_eq]
  exact verbatim.packageName_eq_iff

theorem importAlias_of_free {taken : List String} {package : String}
    (free : aliasBase package ∉ taken) : importAlias taken package = aliasBase package := by
  obtain ⟨n, _, candidate, _, earlier⟩ := importAlias_eq_candidate taken package
  cases n with
  | zero => rw [candidate, aliasCandidate_zero]
  | succ n =>
    have first := earlier 0 (Nat.succ_pos n)
    rw [aliasCandidate_zero] at first
    exact absurd first free

theorem IsVerbatim.aliasCandidate_eq_iff {word : String} (verbatim : IsVerbatim word)
    (base : String) (n : Nat) : aliasCandidate base n = word ↔ n = 0 ∧ base = word := by
  cases n with
  | zero => simp [aliasCandidate]
  | succ n =>
    refine iff_of_false (fun same => ?_) (by simp)
    subst same
    have digits : Nat.toDigits 10 (n + 2) ≠ [] := Nat.toDigits_ne_nil
    cases number : Nat.toDigits 10 (n + 2) with
    | nil => exact digits number
    | cons digit rest =>
      have member : digit ∈ Nat.toDigits 10 (n + 2) := number ▸ List.mem_cons_self
      have isDigit := Nat.isDigit_of_mem_toDigits (by decide) (by decide) member
      have spelled : digit ∈ (aliasCandidate base (n + 1)).toList := by
        rw [toList_aliasCandidate_succ]
        exact List.mem_append_right _ member
      rw [verbatim.digitless digit spelled] at isDigit
      cases isDigit

theorem find?_withAliases {word : String} (verbatim : IsVerbatim word) {taken : List String}
    (free : word ∉ taken) (packages : List String) :
    ((withAliases taken packages).find? (·.1 = word)).map (·.2) =
      packages.find? (Spells word) := by
  induction packages generalizing taken with
  | nil => rfl
  | cons package rest ih =>
    unfold withAliases
    by_cases spelled : Spells word package
    · have natural : aliasBase package = word := (verbatim.aliasBase_eq_iff package).mpr spelled
      have own : importAlias taken package = word := by
        rw [importAlias_of_free (natural ▸ free), natural]
      rw [List.find?_cons_of_pos (by simpa using own),
        List.find?_cons_of_pos (by simpa using spelled)]
      rfl
    · obtain ⟨n, _, candidate, _⟩ := importAlias_eq_candidate taken package
      have other : importAlias taken package ≠ word := by
        intro same
        rw [candidate, verbatim.aliasCandidate_eq_iff, verbatim.aliasBase_eq_iff] at same
        exact spelled same.2
      have stillFree : word ∉ importAlias taken package :: taken := by
        simp [Ne.symm other, free]
      rw [List.find?_cons_of_neg (by simpa using other),
        List.find?_cons_of_neg (by simpa using spelled)]
      exact ih stillFree

theorem mem_aliases_iff {word : String} (verbatim : IsVerbatim word) (packages : List String) :
    word ∈ aliases packages ↔ ∃ package ∈ packages, Spells word package := by
  have found := congrArg Option.isSome (find?_withAliases verbatim List.not_mem_nil packages)
  rw [Option.isSome_map, Bool.eq_iff_iff, List.find?_isSome, List.find?_isSome] at found
  simpa [aliases] using found

/-! ### The files with a fixed import -/

/-- How the imports of a file are named. First comes the one that is the file's own, and the
packages have names that differ from each other; but the first package that spells the name of the
file's own is imported under this name too. -/
structure NamesImports (text own : String) (packages : List String) : Prop where
  names : importNames text = own :: aliases packages
  apart : (aliases packages).Nodup
  each : (aliases packages).length = packages.length
  first : ((withAliases [] packages).find? (·.1 = own)).map (·.2) = packages.find? (Spells own)
  clash : (importNames text).Nodup ↔ ∀ package ∈ packages, ¬Spells own package

theorem namesImports_of_wires {text fixed own opening closing call : String}
    {packages : List String}
    (wires : Wires text fixed opening closing call packages (withAliases [] packages))
    (named : importName? fixed = some own) (verbatim : IsVerbatim own) :
    NamesImports text own packages := by
  have imported : importBlock (Text.split '\n' text) =
      fixed :: importLines (withAliases [] packages) := by
    rw [importLines_withAliases]
    exact wires.imported
  have plain : ∀ entry ∈ withAliases [] packages, IsPlain entry.1 :=
    fun _ => isPlain_of_mem_withAliases
  have names : importNames text = own :: aliases packages := by
    unfold importNames
    rw [imported, List.filterMap_cons, named, filterMap_importName?_importLines plain]
    rfl
  have apart := nodup_withAliases [] packages
  refine ⟨names, apart, ?each, find?_withAliases verbatim List.not_mem_nil packages, ?clash⟩
  case each =>
    have lengths := congrArg List.length (map_withAliases [] packages)
    rw [List.length_map] at lengths
    unfold aliases
    rw [List.length_map, lengths]
  case clash =>
    rw [names, List.nodup_cons, mem_aliases_iff verbatim]
    simp [aliases, apart]

/-- In a registration and in a setup file, the names of the packages' imports differ from each
other. They differ from the name of the file's own import as well exactly if no package spells it
with its last two segments; otherwise the first that does is imported under it. -/
theorem importNames_nodup_iff (root : HostPath) (apis : ApiPackages) (key : String)
    (controllers : List String) :
    (NamesImports (registerFile root apis).2 "runtime" apis.unique ∧
      ((importNames (registerFile root apis).2).Nodup ↔
        ∀ package ∈ apis, ¬Spells "runtime" package)) ∧
    NamesImports (setupText key controllers) "ctrl" controllers ∧
    ((importNames (setupText key controllers)).Nodup ↔
      ∀ package ∈ controllers, ¬Spells "ctrl" package) := by
  have registers : NamesImports (registerFile root apis).2 "runtime" apis.unique :=
    namesImports_of_wires (registerText_wires apis) (by decide) (by decide)
  have sets : NamesImports (setupText key controllers) "ctrl" controllers :=
    namesImports_of_wires (setupText_wires key controllers) (by decide) (by decide)
  refine ⟨⟨registers, ?_⟩, sets, sets.clash⟩
  have clash := registers.clash
  rw [ApiPackages.unique_eq_eraseDups] at clash
  simpa only [List.mem_eraseDups] using clash

theorem rivalControllers_named :
    (∀ package ∈ rivalControllers, ¬Spells "ctrl" package) ∧
    (importNames (setupText "ec2" rivalControllers)).Nodup ∧
    importNames (setupText "ec2" rivalControllers) =
      ["ctrl", "ec2network", "ec2network2", "ec2network22"] := by
  have unspelled : ∀ package ∈ rivalControllers, ¬Spells "ctrl" package := by decide +kernel
  obtain ⟨_, sets, clash⟩ := importNames_nodup_iff ⟨"out"⟩ [] "ec2" rivalControllers
  have names : aliases rivalControllers = ["ec2network", "ec2network2", "ec2network22"] := by
    decide +kernel
  exact ⟨unspelled, clash.mpr unspelled, sets.names.trans (by rw [names])⟩

/-- The packages of a version `time` of the group `run` and of a controller `RL` of the group `ct`
are imported under the names of the files' own imports. -/
theorem fixedNames_repeated :
    importNames (registerFile ⟨"out"⟩ ["example.org/provider/apis/run/time"]).2 =
      ["runtime", "runtime"] ∧
    importNames (setupText "ct" ["example.org/provider/internal/controller/ct/rl"]) =
      ["ctrl", "ctrl"] ∧
    ¬(importNames (registerFile ⟨"out"⟩ ["example.org/provider/apis/run/time"]).2).Nodup ∧
    ¬(importNames (setupText "ct" ["example.org/provider/internal/controller/ct/rl"])).Nodup := by
  have runtime : aliases (ApiPackages.unique ["example.org/provider/apis/run/time"]) =
      ["runtime"] := by decide +kernel
  have ctrl : aliases ["example.org/provider/internal/controller/ct/rl"] = ["ctrl"] := by
    decide +kernel
  have registers : importNames (registerFile ⟨"out"⟩ ["example.org/provider/apis/run/time"]).2 =
      ["runtime", "runtime"] := by
    rw [← runtime]
    exact (namesImports_of_wires (registerText_wires _) (by decide) (by decide)).names
  have sets : importNames (setupText "ct" ["example.org/provider/internal/controller/ct/rl"]) =
      ["ctrl", "ctrl"] := by
    rw [← ctrl]
    exact (namesImports_of_wires (setupText_wires "ct" _) (by decide) (by decide)).names
  refine ⟨registers, sets, ?_⟩
  rw [registers, sets]
  decide

end ProviderGen.Emit
