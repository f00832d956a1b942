import ProviderGen.Emit.Setup
import ProviderGen.Proofs.Occurrences

/-!
How main programs are rendered. A template is read as letters and places for the key and the module
path, which can be filled in at once. Rendering does so in two passes, of which the second also
reads what the first has filled in: a key can bring a place for the module path with it or complete
one together with the letters around it. So both agree exactly if filling in the key makes no place
for the module path.
-/

namespace ProviderGen.Emit

open Text (Clear Inert Unbordered occurrences replaceFrom)

/-! ### Templates in pieces -/

def keyMark : List Char := groupPlaceholder.toList
def pathMark : List Char := modulePlaceholder.toList

theorem keyMark_ne_nil : keyMark ≠ [] := by decide

theorem pathMark_ne_nil : pathMark ≠ [] := by decide

theorem unbordered_keyMark : Unbordered keyMark := by decide

theorem unbordered_pathMark : Unbordered pathMark := by decide

theorem clear_pathMark : Clear keyMark pathMark := by decide

theorem inert_keyMark : Inert pathMark keyMark := by decide

inductive Piece where
  | letter (c : Char)
  | key
  | modulePath
deriving DecidableEq, Repr

def Piece.filled (key modulePath : List Char) : Piece → List Char
  | .letter c => [c]
  | .key => key
  | .modulePath => modulePath

def fill (key modulePath : List Char) (pieces : List Piece) : List Char :=
  pieces.flatMap (Piece.filled key modulePath)

theorem fill_cons (key modulePath : List Char) (part : Piece) (rest : List Piece) :
    fill key modulePath (part :: rest) =
      part.filled key modulePath ++ fill key modulePath rest := List.flatMap_cons

theorem Piece.filled_of_ne {part : Piece} (other : part ≠ .modulePath)
    (key modulePath path : List Char) :
    part.filled key modulePath = part.filled key path := by
  cases part with
  | letter => rfl
  | key => rfl
  | modulePath => exact absurd rfl other

def piecesFrom : Nat → List Char → List Piece
  | _, [] => []
  | skip + 1, _ :: rest => piecesFrom skip rest
  | 0, c :: rest =>
    if keyMark <+: c :: rest then .key :: piecesFrom (keyMark.length - 1) rest
    else if pathMark <+: c :: rest then .modulePath :: piecesFrom (pathMark.length - 1) rest
    else .letter c :: piecesFrom 0 rest

def pieces (template : String) : List Piece := piecesFrom 0 template.toList

/-- The pieces of a text. A placeholder is a place, and a letter that begins none is itself. -/
inductive Reads : List Char → List Piece → Prop
  | nil : Reads [] []
  | key {rest : List Char} {later : List Piece} (reads : Reads rest later) :
      Reads (keyMark ++ rest) (.key :: later)
  | modulePath {rest : List Char} {later : List Piece} (reads : Reads rest later) :
      Reads (pathMark ++ rest) (.modulePath :: later)
  | letter {c : Char} {rest : List Char} {later : List Piece} (noKey : ¬keyMark <+: c :: rest)
      (noPath : ¬pathMark <+: c :: rest) (reads : Reads rest later) :
      Reads (c :: rest) (.letter c :: later)

theorem piecesFrom_length_append (skipped rest : List Char) :
    piecesFrom skipped.length (skipped ++ rest) = piecesFrom 0 rest := by
  induction skipped with
  | nil => rfl
  | cons c skipped ih => exact ih

theorem piecesFrom_keyMark_append (rest : List Char) :
    piecesFrom 0 (keyMark ++ rest) = .key :: piecesFrom 0 rest := by
  obtain ⟨c, letters, spelled⟩ := List.exists_cons_of_ne_nil keyMark_ne_nil
  have found : keyMark <+: c :: (letters ++ rest) := by
    rw [← List.cons_append, ← spelled]
    exact List.prefix_append keyMark rest
  rw [spelled, List.cons_append, piecesFrom, if_pos found, spelled, List.length_cons,
    Nat.add_sub_cancel, piecesFrom_length_append]

theorem piecesFrom_pathMark_append (rest : List Char) :
    piecesFrom 0 (pathMark ++ rest) = .modulePath :: piecesFrom 0 rest := by
  obtain ⟨c, letters, spelled⟩ := List.exists_cons_of_ne_nil pathMark_ne_nil
  have found : pathMark <+: c :: (letters ++ rest) := by
    rw [← List.cons_append, ← spelled]
    exact List.prefix_append pathMark rest
  have noKey : ¬keyMark <+: c :: (letters ++ rest) := by
    rw [← List.cons_append, ← spelled]
    exact clear_pathMark.not_prefix pathMark_ne_nil rest
  rw [spelled, List.cons_append, piecesFrom, if_neg noKey, if_pos found, spelled,
    List.length_cons, Nat.add_sub_cancel, piecesFrom_length_append]

theorem reads_piecesFrom (text : List Char) : Reads text (piecesFrom 0 text) := by
  induction length : text.length using Nat.strongRecOn generalizing text with
  | ind n ih =>
    subst length
    have shorter {mark : List Char} (some : mark ≠ []) (rest : List Char) :
        rest.length < (mark ++ rest).length := by
      have positive := List.length_pos_iff.mpr some
      rw [List.length_append]
      omega
    by_cases noKey : keyMark <+: text
    · obtain ⟨rest, rfl⟩ := noKey
      rw [piecesFrom_keyMark_append]
      exact .key (ih _ (shorter keyMark_ne_nil rest) rest rfl)
    · by_cases noPath : pathMark <+: text
      · obtain ⟨rest, rfl⟩ := noPath
        rw [piecesFrom_pathMark_append]
        exact .modulePath (ih _ (shorter pathMark_ne_nil rest) rest rfl)
      · cases text with
        | nil => exact .nil
        | cons c rest =>
          rw [piecesFrom, if_neg noKey, if_neg noPath]
          exact .letter noKey noPath (ih _ (Nat.lt_succ_self _) rest rfl)

/-! ### The first pass -/

section

variable {text : List Char} {parts : List Piece}

theorem Reads.fill_marks (reads : Reads text parts) : fill keyMark pathMark parts = text := by
  induction reads with
  | nil => rfl
  | key _ ih => rw [fill_cons, ih, Piece.filled]
  | modulePath _ ih => rw [fill_cons, ih, Piece.filled]
  | letter _ _ _ ih => rw [fill_cons, ih, Piece.filled, List.singleton_append]

theorem Reads.occurrences_keyMark (reads : Reads text parts) :
    occurrences keyMark text = parts.count .key := by
  induction reads with
  | nil => rfl
  | key _ ih =>
    rw [unbordered_keyMark.occurrences_pattern_append keyMark_ne_nil, ih, List.count_cons_self,
      Nat.add_comm]
  | modulePath _ ih =>
    rw [clear_pathMark.occurrences_append, ih, List.count_cons_of_ne (by decide)]
  | letter noKey _ _ ih =>
    rw [Text.occurrences_cons_of_not noKey, ih, List.count_cons_of_ne (by simp)]

theorem Reads.occurrences_pathMark (reads : Reads text parts) :
    occurrences pathMark text = parts.count .modulePath := by
  induction reads with
  | nil => rfl
  | key _ ih =>
    rw [inert_keyMark.clear.occurrences_append, ih, List.count_cons_of_ne (by decide)]
  | modulePath _ ih =>
    rw [unbordered_pathMark.occurrences_pattern_append pathMark_ne_nil, ih, List.count_cons_self,
      Nat.add_comm]
  | letter _ noPath _ ih =>
    rw [Text.occurrences_cons_of_not noPath, ih, List.count_cons_of_ne (by simp)]

theorem Reads.replaceFrom_keyMark (reads : Reads text parts) (key : List Char) :
    replaceFrom keyMark key 0 text = fill key pathMark parts := by
  induction reads with
  | nil => rfl
  | key _ ih => rw [Text.replaceFrom_pattern_append keyMark_ne_nil, ih, fill_cons, Piece.filled]
  | modulePath _ ih => rw [clear_pathMark.replaceFrom_append, ih, fill_cons, Piece.filled]
  | letter noKey _ _ ih =>
    rw [Text.replaceFrom_cons_of_not noKey, ih, fill_cons, Piece.filled, List.singleton_append]

end

/-! ### The second pass -/

section

variable {key path : List Char}

/-- Filling in the key leaves all places of the template. Where it makes no others, the second pass
fills in these places and nothing else. -/
theorem replaceFrom_pathMark (key path : List Char) (before : List Char) (parts : List Piece) :
    parts.count .modulePath ≤ occurrences pathMark (before ++ fill key pathMark parts) ∧
    (occurrences pathMark (before ++ fill key pathMark parts) = parts.count .modulePath →
      replaceFrom pathMark path 0 (before ++ fill key pathMark parts) =
        before ++ fill key path parts) := by
  induction parts generalizing before with
  | nil =>
    refine ⟨Nat.zero_le _, fun none => ?_⟩
    exact Text.replaceFrom_eq_self none
  | cons part rest ih =>
    rw [fill_cons, fill_cons]
    by_cases place : part = .modulePath
    · subst place
      obtain ⟨places, onlyPlaces⟩ := ih []
      rw [List.nil_append] at places onlyPlaces
      rw [Piece.filled, Piece.filled, List.count_cons_self,
        unbordered_pathMark.occurrences_append pathMark_ne_nil,
        unbordered_pathMark.replaceFrom_append pathMark_ne_nil]
      refine ⟨by omega, fun same => ?_⟩
      rw [Text.replaceFrom_eq_self (by omega), onlyPlaces (by omega), List.nil_append]
    · have earlier := ih (before ++ part.filled key pathMark)
      rw [List.append_assoc, List.append_assoc] at earlier
      rw [List.count_cons_of_ne place, part.filled_of_ne place key path pathMark]
      exact earlier

theorem length_fill (key path : List Char) (parts : List Piece) :
    (fill key path parts).length + parts.count .modulePath * pathMark.length =
      (fill key pathMark parts).length + parts.count .modulePath * path.length := by
  induction parts with
  | nil => rw [List.count_nil, Nat.zero_mul, Nat.zero_mul]; rfl
  | cons part rest ih =>
    rw [fill_cons, fill_cons, List.length_append, List.length_append]
    by_cases place : part = .modulePath
    · subst place
      rw [List.count_cons_self, Piece.filled, Piece.filled, Nat.add_mul, Nat.add_mul]
      omega
    · rw [List.count_cons_of_ne place, part.filled_of_ne place key path pathMark]
      omega

theorem count_of_replaceFrom_pathMark (other : path ≠ pathMark)
    (lengths : path.length = pathMark.length) (before : List Char) {parts : List Piece}
    (same : replaceFrom pathMark path 0 (before ++ fill key pathMark parts) =
      before ++ fill key path parts) :
    occurrences pathMark (before ++ fill key pathMark parts) = parts.count .modulePath := by
  induction parts generalizing before with
  | nil => exact Text.occurrences_eq_zero_of_replaceFrom_eq pathMark_ne_nil other lengths same
  | cons part rest ih =>
    rw [fill_cons, fill_cons] at same
    rw [fill_cons]
    by_cases place : part = .modulePath
    · subst place
      rw [Piece.filled, Piece.filled,
        unbordered_pathMark.replaceFrom_append pathMark_ne_nil] at same
      have kept := unbordered_pathMark.length_replaceFrom pathMark_ne_nil path before
      rw [lengths, Nat.add_right_cancel_iff] at kept
      obtain ⟨first, later⟩ := List.append_inj same kept
      have none := Text.occurrences_eq_zero_of_replaceFrom_eq pathMark_ne_nil other lengths first
      have remaining := ih [] (List.append_cancel_left later)
      rw [List.nil_append] at remaining
      rw [Piece.filled, List.count_cons_self,
        unbordered_pathMark.occurrences_append pathMark_ne_nil, none, remaining]
      omega
    · have earlier := ih (before ++ part.filled key pathMark)
      rw [List.append_assoc, List.append_assoc] at earlier
      rw [part.filled_of_ne place key path pathMark] at same
      rw [List.count_cons_of_ne place]
      exact earlier same

theorem replaceFrom_pathMark_eq_iff (parts : List Piece) :
    replaceFrom pathMark path 0 (fill key pathMark parts) = fill key path parts ↔
      path = pathMark ∨
        occurrences pathMark (fill key pathMark parts) = parts.count .modulePath := by
  constructor
  · intro same
    by_cases unchanged : path = pathMark
    · exact .inl unchanged
    right
    have before := length_fill key path parts
    have after := unbordered_pathMark.length_replaceFrom pathMark_ne_nil path
      (fill key pathMark parts)
    rw [same] at after
    by_cases lengths : path.length = pathMark.length
    · exact count_of_replaceFrom_pathMark unchanged lengths [] same
    · -- every further place would change the length once more
      have places := (replaceFrom_pathMark key path [] parts).1
      rw [List.nil_append] at places
      obtain ⟨further, count⟩ := Nat.exists_eq_add_of_le places
      rw [count, Nat.add_mul, Nat.add_mul] at after
      have alike : further * path.length = further * pathMark.length := by omega
      cases further with
      | zero => exact count
      | succ further =>
        exact absurd (Nat.eq_of_mul_eq_mul_left (Nat.succ_pos further) alike) lengths
  · rintro (rfl | none)
    · exact Text.replaceFrom_pattern_eq_self pathMark_ne_nil _
    · exact (replaceFrom_pathMark key path [] parts).2 none

end

/-! ### Keys -/

theorem occurrences_fill_of_inert {key : List Char} (inert : Inert pathMark key)
    (before : List Char) (parts : List Piece) :
    occurrences pathMark (before ++ fill key pathMark parts) =
      occurrences pathMark (before ++ fill keyMark pathMark parts) := by
  induction parts generalizing before with
  | nil => rfl
  | cons part rest ih =>
    rw [fill_cons, fill_cons]
    cases part with
    | letter c =>
      have earlier := ih (before ++ [c])
      rw [List.append_assoc, List.append_assoc] at earlier
      exact earlier
    | key =>
      have later := ih []
      rw [List.nil_append, List.nil_append] at later
      rw [Piece.filled, Piece.filled, inert.occurrences_append, inert_keyMark.occurrences_append,
        later]
    | modulePath =>
      have later := ih []
      rw [List.nil_append, List.nil_append] at later
      rw [Piece.filled, Piece.filled, unbordered_pathMark.occurrences_append pathMark_ne_nil,
        unbordered_pathMark.occurrences_append pathMark_ne_nil, later]

/-- If no template gets a place for the module path with the key, the key is inert. The templates
that tell are the placeholder of the key between parts of that of the module path. -/
theorem inert_of_fill {key : List Char}
    (kept : ∀ text, occurrences pathMark (fill key pathMark (piecesFrom 0 text)) =
      (piecesFrom 0 text).count .modulePath) : Inert pathMark key := by
  have keyless {part : List Char} (within : part <:+: pathMark) : occurrences keyMark part = 0 := by
    have absent : ¬keyMark <:+: pathMark := by decide
    exact (Text.occurrences_eq_zero_iff keyMark_ne_nil).mpr fun found =>
      absent (found.trans within)
  have placeless {part : List Char} (within : part <:+: pathMark) (proper : part ≠ pathMark) :
      occurrences pathMark part = 0 := by
    refine (Text.occurrences_eq_zero_iff pathMark_ne_nil).mpr fun found => proper ?_
    exact within.eq_of_length (Nat.le_antisymm within.length_le found.length_le)
  apply Text.Apart.inert _ (by decide)
  intro before after first proper last short
  rw [← Text.occurrences_eq_zero_iff pathMark_ne_nil]
  have reads := reads_piecesFrom (before ++ (keyMark ++ after))
  have same := kept (before ++ (keyMark ++ after))
  rw [← reads.replaceFrom_keyMark, unbordered_keyMark.replaceFrom_append keyMark_ne_nil,
    Text.replaceFrom_eq_self (keyless first), Text.replaceFrom_eq_self (keyless last),
    ← reads.occurrences_pathMark, inert_keyMark.occurrences_append, placeless first proper,
    placeless last short] at same
  exact same

/-! ### Main programs -/

def filled (key modulePath : String) (parts : List Piece) : String :=
  String.ofList (fill key.toList modulePath.toList parts)

theorem renderMain_eq_filled_iff_places (template key modulePath : String) :
    renderMain template key modulePath = filled key modulePath (pieces template) ↔
      modulePath = modulePlaceholder ∨
        occurrences pathMark (filled key modulePlaceholder (pieces template)).toList =
          (pieces template).count .modulePath := by
  have first := (reads_piecesFrom template.toList).replaceFrom_keyMark key.toList
  unfold renderMain Text.replaceAll filled
  rw [String.toList_ofList, String.toList_ofList, String.ofList_inj]
  unfold keyMark at first
  rw [first, ← String.toList_inj]
  exact replaceFrom_pathMark_eq_iff (pieces template)

/-- The pieces of a template make the template with the placeholders and tell where these are. A
main program is the template with the key and the module path filled in at once exactly if filling
in the key makes no place for the module path, or if the module path is its own placeholder. The
keys that never make one are those that no occurrence of the placeholder begins in, ends in or goes
over. -/
theorem renderMain_eq_filled_iff (template key modulePath : String) :
    (filled groupPlaceholder modulePlaceholder (pieces template) = template ∧
      occurrences groupPlaceholder.toList template.toList = (pieces template).count .key ∧
      occurrences modulePlaceholder.toList template.toList =
        (pieces template).count .modulePath) ∧
    (renderMain template key modulePath = filled key modulePath (pieces template) ↔
      modulePath = modulePlaceholder ∨
        occurrences modulePlaceholder.toList
            (filled key modulePlaceholder (pieces template)).toList =
          (pieces template).count .modulePath) ∧
    (Inert modulePlaceholder.toList key.toList ↔ ∀ other path,
      renderMain other key path = filled key path (pieces other)) := by
  have reads := reads_piecesFrom template.toList
  refine ⟨⟨?same, reads.occurrences_keyMark, reads.occurrences_pathMark⟩,
    renderMain_eq_filled_iff_places template key modulePath, fun inert other path => ?always,
    fun always => ?inert⟩
  case same =>
    have text := reads.fill_marks
    unfold filled
    exact (congrArg String.ofList text).trans String.ofList_toList
  case always =>
    apply (renderMain_eq_filled_iff_places other key path).mpr
    right
    have reads := reads_piecesFrom other.toList
    have places := occurrences_fill_of_inert inert [] (pieces other)
    unfold filled
    rw [String.toList_ofList]
    exact places.trans ((congrArg _ reads.fill_marks).trans reads.occurrences_pathMark)
  case inert =>
    apply inert_of_fill
    intro text
    -- any module path tells, except the placeholder
    have render := (renderMain_eq_filled_iff_places (String.ofList text) key "").mp (always _ _)
    unfold filled pieces at render
    rw [String.toList_ofList, String.toList_ofList] at render
    exact render.resolve_left (by decide)

example : Inert modulePlaceholder.toList "ec2-beta".toList := by decide

/-- The second pass reads a place in the key, and one that the key completes between the letters of
the template. -/
theorem key_read_again :
    (renderMain "// \x7b\x7b .Group \x7d\x7d\n" "\x7b\x7b .ModulePath \x7d\x7d"
        "example.org/provider" = "// example.org/provider\n" ∧
      filled "\x7b\x7b .ModulePath \x7d\x7d" "example.org/provider"
        (pieces "// \x7b\x7b .Group \x7d\x7d\n") =
          "// \x7b\x7b .ModulePath \x7d\x7d\n") ∧
    (renderMain "// \x7b\x7b .\x7b\x7b .Group \x7d\x7dPath \x7d\x7d\n" "Module"
        "example.org/provider" = "// example.org/provider\n" ∧
      filled "Module" "example.org/provider"
        (pieces "// \x7b\x7b .\x7b\x7b .Group \x7d\x7dPath \x7d\x7d\n") =
          "// \x7b\x7b .ModulePath \x7d\x7d\n") ∧
    ¬∀ template key modulePath : String,
      renderMain template key modulePath = filled key modulePath (pieces template) := by
  have outer : renderMain "// \x7b\x7b .Group \x7d\x7d\n" "\x7b\x7b .ModulePath \x7d\x7d"
      "example.org/provider" = "// example.org/provider\n" := by decide +kernel
  have kept : filled "\x7b\x7b .ModulePath \x7d\x7d" "example.org/provider"
      (pieces "// \x7b\x7b .Group \x7d\x7d\n") = "// \x7b\x7b .ModulePath \x7d\x7d\n" := by
    decide +kernel
  refine ⟨⟨outer, kept⟩, by decide +kernel, fun always => ?_⟩
  have same := outer.symm.trans ((always _ _ _).trans kept)
  exact absurd same (by decide)

end ProviderGen.Emit
