import AptlyGui.Aptly.Prefix
import Mathlib.Data.List.Chain
import Mathlib.Data.List.DropRight
import Mathlib.Data.List.TakeWhile

/-!
# Which prefixes are read as they are written

aptly tells the storage of a request from its prefix by the last colon, strips
slashes, and takes a lone underscore for a slash.  So a prefix that is empty, has
a slash at an end or a colon in it, or a slash before another separator is read
as a different one.
-/

namespace AptlyGui

/-- As aptly reports a prefix: not empty, and no slash at either end. -/
def Normal (chars : List Char) : Prop := normalPrefix chars = chars

instance : DecidablePred Normal := fun chars =>
  inferInstanceAs (Decidable (normalPrefix chars = chars))

/-- As aptly reads a run of separators: the only slash in it is its end. -/
def SlashLast (first second : Char) : Prop := first = '/' → second ≠ '/' ∧ second ≠ '_'

instance : DecidableRel SlashLast := fun first second =>
  inferInstanceAs (Decidable (first = '/' → second ≠ '/' ∧ second ≠ '_'))

/-- A prefix under which a request for it is carried out. -/
structure Legible (chars : List Char) : Prop where
  normal : Normal chars
  bare : ':' ∉ chars
  apart : chars.IsChain SlashLast

instance : DecidablePred Legible := fun chars =>
  decidable_of_iff (Normal chars ∧ ':' ∉ chars ∧ chars.IsChain SlashLast)
    ⟨fun ⟨normal, bare, apart⟩ => ⟨normal, bare, apart⟩,
      fun legible => ⟨legible.normal, legible.bare, legible.apart⟩⟩

theorem unescapeChars_single {rest : List Char} (other : rest.head? ≠ some '_') :
    unescapeChars ('_' :: rest) = '/' :: unescapeChars rest := by
  cases rest with
  | nil => rfl
  | cons next rest =>
      have different : next ≠ '_' := by simpa using other
      rw [unescapeChars]
      simpa using different

theorem unescapeChars_other {char : Char} (kept : char ≠ '_') (rest : List Char) :
    unescapeChars (char :: rest) = char :: unescapeChars rest := by
  rw [unescapeChars]
  · exact fun _ same => absurd same kept
  · exact kept

/-- A colon ends a run of separators. -/
theorem unescapeChars_append_colon (front back : List Char) :
    unescapeChars (front ++ ':' :: back) = unescapeChars front ++ ':' :: unescapeChars back := by
  fun_induction unescapeChars front with
  | case1 rest inductionHypothesis => simp [unescapeChars, inductionHypothesis]
  | case2 rest single inductionHypothesis =>
      have other : (rest ++ ':' :: back).head? ≠ some '_' := by
        cases rest with
        | nil => simp
        | cons next rest =>
            simp only [List.cons_append, List.head?_cons, ne_eq, Option.some.injEq]
            rintro rfl
            exact single rest rfl
      rw [List.cons_append, unescapeChars_single other, inductionHypothesis, List.cons_append]
  | case3 char rest _ kept inductionHypothesis =>
      have kept : char ≠ '_' := kept
      rw [List.cons_append, unescapeChars_other kept, inductionHypothesis, List.cons_append]
  | case4 => simp [unescapeChars]

/-- aptly reads a slash only where a run of separators ends. -/
theorem unescapeChars_slashLast {chars : List Char} (written : '/' ∉ chars) :
    (unescapeChars chars).IsChain SlashLast := by
  fun_induction unescapeChars chars with
  | case1 rest inductionHypothesis =>
      simp only [List.mem_cons, not_or] at written
      refine List.isChain_cons.mpr ⟨fun next _ slash => ?_, inductionHypothesis written.2.2⟩
      exact absurd slash (by decide)
  | case2 rest single inductionHypothesis =>
      simp only [List.mem_cons, not_or] at written
      refine List.isChain_cons.mpr ⟨fun next first _ => ?_, inductionHypothesis written.2⟩
      cases rest with
      | nil => simp [unescapeChars] at first
      | cons char rest =>
          have kept : char ≠ '_' := by
            rintro rfl
            exact single rest rfl
          rw [unescapeChars_other kept] at first
          obtain rfl : char = next := by simpa using first
          refine ⟨?_, kept⟩
          rintro rfl
          exact written.2 List.mem_cons_self
  | case3 char rest _ kept inductionHypothesis =>
      simp only [List.mem_cons, not_or] at written
      refine List.isChain_cons.mpr ⟨fun next _ slash => ?_, inductionHypothesis written.2⟩
      exact absurd slash.symm written.1
  | case4 => exact .nil

theorem slash_notMem_escapeChars (chars : List Char) : '/' ∉ escapeChars chars := by
  intro listed
  obtain ⟨char, -, among⟩ := List.mem_flatMap.mp listed
  split at among
  · simp at among
  · split at among
    · simp at among
    · rename_i slash
      exact slash (List.mem_singleton.mp among).symm

theorem unescapeChars_escapeChars {chars : List Char} (apart : chars.IsChain SlashLast) :
    unescapeChars (escapeChars chars) = chars := by
  induction chars with
  | nil => rfl
  | cons char rest inductionHypothesis =>
      obtain ⟨first, later⟩ := List.isChain_cons.mp apart
      rw [escapeChars_cons]
      by_cases doubled : char = '_'
      · subst doubled
        change unescapeChars ('_' :: '_' :: escapeChars rest) = _
        rw [unescapeChars, inductionHypothesis later]
      · by_cases single : char = '/'
        · subst single
          change unescapeChars ('_' :: escapeChars rest) = _
          rw [unescapeChars_single, inductionHypothesis later]
          cases rest with
          | nil => simp [escapeChars]
          | cons next rest =>
              obtain ⟨slash, underscore⟩ := first next rfl rfl
              simp [escapeChars_cons, slash, underscore]
        · simp only [doubled, single, if_false, List.singleton_append]
          rw [unescapeChars_other doubled, inductionHypothesis later]

/-! ### Slashes around a prefix -/

theorem head_dropWhile_slash {chars : List Char} :
    (chars.dropWhile (· = '/')).head? ≠ some '/' := by
  have first := List.head?_dropWhile_not (fun char => decide (char = '/')) chars
  intro slash
  rw [slash] at first
  simp at first

theorem dropWhile_slash_eq_self {chars : List Char} :
    chars.dropWhile (· = '/') = chars ↔ chars.head? ≠ some '/' := by
  cases chars with
  | nil => simp
  | cons char rest =>
      by_cases slash : char = '/'
      · simp only [slash, decide_true, List.dropWhile_cons_of_pos, List.head?_cons, ne_eq,
          not_true_eq_false, iff_false]
        intro same
        have shorter := (List.dropWhile_suffix (fun char => decide (char = '/')) (l := rest)).length_le
        rw [same, List.length_cons] at shorter
        omega
      · simp [slash]

theorem stripSlashes_ends (chars : List Char) :
    (stripSlashes chars).head? ≠ some '/' ∧ (stripSlashes chars).getLast? ≠ some '/' := by
  rw [stripSlashes, List.getLast?_reverse, List.head?_reverse]
  refine ⟨fun slash => ?_, head_dropWhile_slash⟩
  obtain ⟨dropped, split⟩ := List.dropWhile_suffix (fun char => decide (char = '/'))
    (l := (chars.dropWhile (· = '/')).reverse)
  have last := congrArg List.getLast? split
  rw [List.getLast?_append, slash, Option.some_or, List.getLast?_reverse] at last
  exact head_dropWhile_slash last.symm

theorem stripSlashes_eq_self_iff {chars : List Char} :
    stripSlashes chars = chars ↔ chars.head? ≠ some '/' ∧ chars.getLast? ≠ some '/' := by
  constructor
  · intro same
    have ends := stripSlashes_ends chars
    rw [same] at ends
    exact ends
  · rintro ⟨first, last⟩
    rw [stripSlashes, dropWhile_slash_eq_self.mpr first]
    rw [← List.head?_reverse] at last
    rw [dropWhile_slash_eq_self.mpr last, List.reverse_reverse]

theorem stripSlashes_stripSlashes (chars : List Char) :
    stripSlashes (stripSlashes chars) = stripSlashes chars :=
  stripSlashes_eq_self_iff.mpr (stripSlashes_ends chars)

theorem stripSlashes_isInfix (chars : List Char) : stripSlashes chars <:+: chars := by
  have behind : (stripSlashes chars).reverse <:+ (chars.dropWhile (· = '/')).reverse := by
    rw [stripSlashes, List.reverse_reverse]
    exact List.dropWhile_suffix _
  exact (List.reverse_suffix.mp behind).isInfix.trans (List.dropWhile_suffix _).isInfix

theorem normal_normalPrefix (chars : List Char) : Normal (normalPrefix chars) := by
  rw [Normal]
  by_cases root : stripSlashes chars = []
  · rw [normalPrefix, normalPrefix, if_pos root]
    rfl
  · rw [normalPrefix, normalPrefix, if_neg root, stripSlashes_stripSlashes, if_neg root]

theorem Normal.ends {chars : List Char} (normal : Normal chars) :
    chars ≠ [] ∧ chars.head? ≠ some '/' ∧ chars.getLast? ≠ some '/' := by
  rw [Normal, normalPrefix] at normal
  split at normal
  · subst normal
    decide
  · rename_i some
    rw [normal] at some
    exact ⟨some, stripSlashes_eq_self_iff.mp normal⟩

/-! ### The prefix of a request -/

/-- What a request addresses is legible, whatever it was asked for. -/
theorem legible_addressedBy (target : String) : Legible (addressedBy target).barePrefix.toList := by
  have written : '/' ∉ (encodePrefix target).toList := by
    rw [encodePrefix]
    split
    · decide
    · rw [String.toList_ofList]
      exact slash_notMem_escapeChars _
  have last := unescapeChars_slashLast written
  simp only [addressedBy, splitStorage, String.toList_ofList]
  generalize unescapeChars (encodePrefix target).toList = text at last
  have back : (text.reverse.takeWhile (· ≠ ':')).reverse <:+ text :=
    List.reverse_prefix.mp (by simpa using List.takeWhile_prefix (fun char => decide (char ≠ ':')))
  refine ⟨normal_normalPrefix _, ?_, ?_⟩
  · rw [normalPrefix]
    split
    · decide
    · intro listed
      have among := (stripSlashes_isInfix _).subset listed
      rw [List.mem_reverse] at among
      simpa using List.mem_takeWhile_imp among
  · rw [normalPrefix]
    split
    · decide
    · exact last.infix ((stripSlashes_isInfix _).trans back.isInfix)

theorem behind_append_colon {back : List Char} (bare : ':' ∉ back) (front : List Char) :
    (splitStorage (front ++ ':' :: back)).2 = back := by
  have kept : ∀ char ∈ back.reverse, (decide (char ≠ ':')) = true := by
    intro char listed
    simp only [ne_eq, decide_eq_true_eq]
    rintro rfl
    exact bare (List.mem_reverse.mp listed)
  simp only [splitStorage, List.reverse_append, List.reverse_cons, List.append_assoc,
    List.takeWhile_append_of_pos kept, List.singleton_append]
  rw [List.takeWhile_cons_of_neg (by simp), List.reverse_nil, List.nil_append, List.reverse_reverse]

theorem behind_eq_self {chars : List Char} (bare : ':' ∉ chars) : (splitStorage chars).2 = chars := by
  have kept : ∀ char ∈ chars.reverse, (decide (char ≠ ':')) = true := by
    intro char listed
    simp only [ne_eq, decide_eq_true_eq]
    rintro rfl
    exact bare (List.mem_reverse.mp listed)
  simp only [splitStorage, List.takeWhile_eq_self_iff.mpr kept, List.reverse_reverse]

theorem barePrefix_addressedBy (target : String) : (addressedBy target).barePrefix.toList =
    normalPrefix (splitStorage (unescapeChars (encodePrefix target).toList)).2 := by
  simp [addressedBy]

/-- A request without a storage is carried out where it says if the prefix is legible. -/
theorem addressedBy_legible {target : String} (legible : Legible target.toList) :
    (addressedBy target).barePrefix = target := by
  by_cases root : target ∈ ["", ".", "/"]
  · simp only [List.mem_cons, List.not_mem_nil, or_false] at root
    rcases root with rfl | rfl | rfl
    · exact absurd legible (by decide)
    · decide
    · exact absurd legible (by decide)
  · have stripped := stripSlashes_eq_self_iff.mpr legible.normal.ends.2
    refine String.toList_injective ?_
    rw [barePrefix_addressedBy, encodePrefix, if_neg root, String.toList_ofList, stripped,
      unescapeChars_escapeChars legible.apart, behind_eq_self legible.bare]
    exact legible.normal

/-- So is a request that names the storage before a colon. -/
theorem addressedBy_storage {target : String} {scheme chars : List Char} (legible : Legible chars)
    (spelled : target.toList = scheme ++ ':' :: chars) (named : scheme ≠ [])
    (first : scheme.head? ≠ some '/') : (addressedBy target).barePrefix.toList = chars := by
  have root : target ∉ ["", ".", "/"] := by
    intro root
    have colon : ':' ∈ target.toList := by simp [spelled]
    simp only [List.mem_cons, List.not_mem_nil, or_false] at root
    rcases root with rfl | rfl | rfl <;> simp at colon
  have stripped : stripSlashes target.toList = target.toList := by
    refine stripSlashes_eq_self_iff.mpr ?_
    obtain ⟨present, -, last⟩ := legible.normal.ends
    rw [spelled]
    constructor
    · rw [List.head?_append_of_ne_nil _ named]
      exact first
    · rw [List.getLast?_append_of_ne_nil _ (List.cons_ne_nil _ _), List.getLast?_cons_of_ne_nil present]
      exact last
  have escaped : escapeChars target.toList = escapeChars scheme ++ ':' :: escapeChars chars := by
    rw [spelled, escapeChars, List.flatMap_append]
    rfl
  rw [barePrefix_addressedBy, encodePrefix, if_neg root, String.toList_ofList, stripped, escaped,
    unescapeChars_append_colon, unescapeChars_escapeChars legible.apart,
    behind_append_colon legible.bare]
  exact legible.normal

end AptlyGui
