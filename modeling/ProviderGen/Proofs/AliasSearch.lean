import Mathlib.Data.Finset.Card
import Mathlib.Data.Nat.Find
import Mathlib.Order.Bounds.Defs
import ProviderGen.Proofs.ImportNames

/-!
How an alias is searched for. One candidate after the other is added to the taken names, until one
was not there before. Candidates differ from each other, so at most as many attempts fail as there
are names taken, and the search ends with the alias of the package. It does so as long as there are
suffixes left, and fewer taken names than there are suffixes always leave one.
-/

namespace ProviderGen.Emit

/-! ### Searches -/

/-- A search for an alias from a suffix on: how many attempts it takes, the name that it ends with
and the names that are taken then. A taken name leads on to the next suffix, unless counting up
overflows, and a free one is added to the taken names and ends the search. -/
inductive Search (base : String) (taken : Finset String) :
    (suffix : Int32) → (attempts : Nat) → (name : String) → (after : Finset String) → Prop
  | ends {suffix : Int32} (free : aliasAttempt base suffix ∉ taken) :
      Search base taken suffix 1 (aliasAttempt base suffix)
        (insert (aliasAttempt base suffix) taken)
  | goesOn {suffix : Int32} {attempts : Nat} {name : String} {after : Finset String}
      (occupied : aliasAttempt base suffix ∈ taken) (more : suffix ≠ Int32.maxValue)
      (later : Search base taken (suffix + 1) attempts name after) :
      Search base taken suffix (attempts + 1) name after

variable {base : String} {taken : Finset String}

theorem search_of_free {number : Nat} (count : Nat) (small : number + count < 2147483647)
    (earlier : ∀ m < count, aliasCandidate base (number + m) ∈ taken)
    (free : aliasCandidate base (number + count) ∉ taken) :
    Search base taken (Int32.ofNat (number + 1)) (count + 1)
      (aliasCandidate base (number + count))
      (insert (aliasCandidate base (number + count)) taken) := by
  induction count generalizing number with
  | zero =>
    rw [Nat.add_zero number] at free small ⊢
    rw [← aliasAttempt_ofNat base small] at free ⊢
    exact .ends free
  | succ count ih =>
    have shift (m : Nat) : number + (m + 1) = number + 1 + m := by omega
    have here : number < 2147483647 := by omega
    rw [shift count] at free ⊢
    apply Search.goesOn
    case occupied =>
      rw [aliasAttempt_ofNat base here]
      exact earlier 0 (Nat.succ_pos count)
    case more => exact (ofNat_ne_maxValue_iff here).mpr (by omega)
    case later =>
      rw [ofNat_add_one]
      apply ih (by omega) _ free
      intro m below
      rw [← shift]
      exact earlier (m + 1) (Nat.succ_lt_succ below)

theorem Search.unique {suffix : Int32} {attempts count : Nat} {name other : String}
    {after later : Finset String} (search : Search base taken suffix attempts name after)
    (again : Search base taken suffix count other later) :
    count = attempts ∧ other = name ∧ later = after := by
  induction search generalizing count other later with
  | ends free =>
    cases again with
    | ends => exact ⟨rfl, rfl, rfl⟩
    | goesOn occupied => exact absurd occupied free
  | goesOn occupied _ _ ih =>
    cases again with
    | ends free => exact absurd occupied free
    | goesOn _ _ rest =>
      obtain ⟨rfl, rfl, rfl⟩ := ih rest
      exact ⟨rfl, rfl, rfl⟩

theorem searchAlias_of_search {names : List String} {suffix : Int32} {attempts limit : Nat}
    {name : String} {after : Finset String} (enough : attempts ≤ limit)
    (search : Search base names.toFinset suffix attempts name after) :
    searchAlias base names limit suffix = some name := by
  induction search generalizing limit with
  | ends free =>
    obtain ⟨limit, rfl⟩ := Nat.exists_eq_add_of_le' enough
    exact if_pos (List.mem_toFinset.not.mp free)
  | goesOn occupied more _ ih =>
    obtain ⟨limit, rfl⟩ := Nat.exists_eq_add_of_le' (Nat.le_of_add_left_le enough)
    unfold searchAlias
    rw [if_neg (not_not.mpr (List.mem_toFinset.mp occupied)), if_neg more]
    exact ih (Nat.le_of_succ_le_succ enough)

theorem Search.exists_free {suffix : Int32} {attempts : Nat} {name : String}
    {after : Finset String} (search : Search base taken suffix attempts name after)
    {number : Nat} (small : number < 2147483647) (own : suffix = Int32.ofNat (number + 1)) :
    ∃ later < 2147483647, aliasCandidate base later ∉ taken := by
  induction search generalizing number with
  | ends free =>
    rw [own, aliasAttempt_ofNat base small] at free
    exact ⟨number, small, free⟩
  | goesOn _ more _ ih =>
    subst own
    exact ih ((ofNat_ne_maxValue_iff small).mp more) (ofNat_add_one _)

/-- A search from the first suffix on ends if the name of any suffix is free; otherwise it overflows
at the last one. -/
theorem search_ends_iff :
    (∃ attempts name after, Search base taken 1 attempts name after) ↔
      ∃ number < 2147483647, aliasCandidate base number ∉ taken := by
  have first : (1 : Int32) = Int32.ofNat (0 + 1) := by decide
  rw [first]
  constructor
  · rintro ⟨_, _, _, search⟩
    exact search.exists_free (by decide) rfl
  · rintro ⟨number, small, free⟩
    have some : ∃ number, aliasCandidate base number ∉ taken := ⟨number, free⟩
    obtain ⟨count, stillFree, least⟩ := Nat.findX some
    have earlier : ∀ m < count, aliasCandidate base (0 + m) ∈ taken := by
      simpa only [Nat.zero_add, not_not] using least
    rw [← Nat.zero_add count] at stillFree
    have bound : 0 + count < 2147483647 := by
      rw [Nat.zero_add]
      by_contra beyond
      exact least number (by omega) free
    exact ⟨_, _, _, search_of_free count bound earlier stillFree⟩

theorem count_le_card {count : Nat} (earlier : ∀ m < count, aliasCandidate base m ∈ taken) :
    count ≤ taken.card := by
  have within : Set.MapsTo (aliasCandidate base) (Finset.range count) taken := by
    intro m member
    exact earlier m (Finset.mem_range.mp member)
  have distinct := Finset.card_le_card_of_injOn _ within (aliasCandidate_injective base).injOn
  rwa [Finset.card_range] at distinct

/-! ### Aliases -/

theorem importAlias_eq_first (taken : List String) (package : String) :
    ∃ count ≤ taken.toFinset.card,
      importAlias taken package = aliasCandidate (aliasBase package) count ∧
      aliasCandidate (aliasBase package) count ∉ taken.toFinset ∧
      ∀ m < count, aliasCandidate (aliasBase package) m ∈ taken.toFinset := by
  obtain ⟨count, _, candidate, free, earlier⟩ := importAlias_eq_candidate taken package
  have occupied : ∀ m < count, aliasCandidate (aliasBase package) m ∈ taken.toFinset :=
    fun m below => List.mem_toFinset.mpr (earlier m below)
  have stillFree : aliasCandidate (aliasBase package) count ∉ taken.toFinset :=
    fun member => free (List.mem_toFinset.mp member)
  exact ⟨count, count_le_card occupied, candidate, stillFree, occupied⟩

theorem search_importAlias {taken : List String} (few : taken.toFinset.card < 2147483647)
    (package : String) :
    ∃ attempts ≤ taken.toFinset.card + 1,
      Search (aliasBase package) taken.toFinset 1 attempts (importAlias taken package)
        (importAlias taken package :: taken).toFinset := by
  obtain ⟨count, less, candidate, free, earlier⟩ := importAlias_eq_first taken package
  rw [candidate, List.toFinset_cons]
  have occupied : ∀ m < count, aliasCandidate (aliasBase package) (0 + m) ∈ taken.toFinset := by
    simpa only [Nat.zero_add] using earlier
  rw [← Nat.zero_add count] at free
  have search := search_of_free count (by omega) occupied free
  have first : Int32.ofNat (0 + 1) = 1 := by decide
  rw [Nat.zero_add count, first] at search
  exact ⟨count + 1, Nat.succ_le_succ less, search⟩

theorem importAlias_cases (taken : List String) (package : String) :
    (aliasBase package ∉ taken ∧ importAlias taken package = aliasBase package) ∨
    (aliasBase package ∈ taken ∧ ∃ n ≤ taken.toFinset.card + 1,
      IsLeast {n | 2 ≤ n ∧ aliasBase package ++ toString n ∉ taken} n ∧
      importAlias taken package = aliasBase package ++ toString n) := by
  obtain ⟨count, few, candidate, free, earlier⟩ := importAlias_eq_first taken package
  simp only [List.mem_toFinset] at free earlier
  cases count with
  | zero =>
    rw [aliasCandidate_zero] at candidate free
    exact .inl ⟨free, candidate⟩
  | succ count =>
    have numbered (m : Nat) : aliasCandidate (aliasBase package) (m + 1) =
        aliasBase package ++ toString (m + 2) := rfl
    rw [numbered] at candidate free
    have least : IsLeast {n | 2 ≤ n ∧ aliasBase package ++ toString n ∉ taken} (count + 2) := by
      refine ⟨⟨Nat.le_add_left 2 count, free⟩, ?_⟩
      rintro n ⟨large, other⟩
      by_contra less
      -- a smaller number belongs to an earlier candidate
      obtain ⟨m, rfl⟩ := Nat.exists_eq_add_of_le' large
      exact other (numbered m ▸ earlier (m + 1) (by omega))
    have natural := earlier 0 (Nat.succ_pos count)
    rw [aliasCandidate_zero] at natural
    exact .inr ⟨natural, count + 2, Nat.succ_le_succ few, least, candidate⟩

/-- For any package and any taken names, fewer than there are suffixes, the search for an alias from
the base name on ends, after one attempt more than there are taken names at the latest, and in one
way only: with the alias of the package, which was not taken before and is then taken in addition.
The alias is the base name, made from the last two segments of the package, if that is free, and
otherwise the base name with the least number from 2 on that makes it free. It is a word of small
letters, digits and underscores that does not start with a digit. Of any taken names, however many,
a search ends if there is a suffix for which the name is free. -/
theorem importAlias_ends_search (taken : List String) (package : String) :
    let base := packageName (lastSegments package)
    let name := importAlias taken package
    (taken.toFinset.card < 2147483647 →
      searchAlias base taken (taken.length + 1) 1 = some name ∧
      (∃ attempts ≤ taken.toFinset.card + 1, ∀ count other after,
        Search base taken.toFinset 1 count other after ↔
          count = attempts ∧ other = name ∧ after = (name :: taken).toFinset) ∧
      name ∉ taken ∧
      (∀ rest, withAliases taken (package :: rest) =
        (name, package) :: withAliases (name :: taken) rest) ∧
      ((base ∉ taken ∧ name = base) ∨
        (base ∈ taken ∧ ∃ n ≤ taken.toFinset.card + 1,
          IsLeast {n | 2 ≤ n ∧ base ++ toString n ∉ taken} n ∧ name = base ++ toString n)) ∧
      IsPlain name) ∧
    ((∃ attempts other after, Search base taken.toFinset 1 attempts other after) ↔
      base ∉ taken ∨ ∃ n, 2 ≤ n ∧ n ≤ 2147483647 ∧ base ++ toString n ∉ taken) := by
  refine ⟨fun few => ?least, ?ends⟩
  case least =>
    obtain ⟨attempts, less, search⟩ := search_importAlias few package
    have run : searchAlias (aliasBase package) taken (taken.length + 1) 1 =
        some (importAlias taken package) := by
      have short := taken.toFinset_card_le
      exact searchAlias_of_search (by omega) search
    refine ⟨run, ⟨attempts, less, fun count other after => ⟨search.unique, ?_⟩⟩,
      importAlias_not_mem taken package, fun _ => rfl, importAlias_cases taken package,
      isPlain_importAlias taken package⟩
    rintro ⟨rfl, rfl, rfl⟩
    exact search
  case ends =>
    rw [search_ends_iff]
    simp only [List.mem_toFinset]
    constructor
    · rintro ⟨number, small, free⟩
      cases number with
      | zero =>
        rw [aliasCandidate_zero] at free
        exact .inl free
      | succ number => exact .inr ⟨number + 2, by omega, by omega, free⟩
    · rintro (free | ⟨n, large, small, free⟩)
      · rw [← aliasCandidate_zero (packageName _)] at free
        exact ⟨0, by decide, free⟩
      · obtain ⟨number, rfl⟩ := Nat.exists_eq_add_of_le' large
        exact ⟨number + 1, by omega, free⟩

theorem importAlias_numbered :
    let taken := ["ec2v1beta1", "ec2v1beta12"]
    taken.toFinset.card < 2147483647 ∧
      ∃ attempts ≤ 3, Search "ec2v1beta1" taken.toFinset 1 attempts "ec2v1beta13"
        ("ec2v1beta13" :: taken).toFinset := by
  intro taken
  have two : taken.toFinset.card = 2 := by decide
  have few : taken.toFinset.card < 2147483647 := by omega
  have base : packageName (lastSegments "x/apis/ec2/v1beta1") = "ec2v1beta1" := by decide +kernel
  have name : importAlias taken "x/apis/ec2/v1beta1" = "ec2v1beta13" := by decide +kernel
  obtain ⟨_, ⟨attempts, less, ends⟩, _⟩ :=
    (importAlias_ends_search taken "x/apis/ec2/v1beta1").1 few
  rw [two] at less
  rw [base, name] at ends
  exact ⟨few, attempts, less, (ends attempts _ _).mpr ⟨rfl, rfl, rfl⟩⟩

end ProviderGen.Emit
