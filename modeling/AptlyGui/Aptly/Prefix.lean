import AptlyGui.Aptly.Model

/-!
# Where a publish request goes

`encode_prefix` of `aptly/client.py`, and how aptly reads such a path back: `__`
is `_`, any other `_` is `/`, the storage stands before the last colon, and the
rest is a prefix without slashes around it, of which the root is spelled `.`.
-/

namespace AptlyGui

/-- `text.strip("/")` -/
def stripSlashes (chars : List Char) : List Char :=
  ((chars.dropWhile (· = '/')).reverse.dropWhile (· = '/')).reverse

/-- `.replace("_", "__").replace("/", "_")` -/
def escapeChars (chars : List Char) : List Char :=
  chars.flatMap fun char => if char = '_' then ['_', '_'] else if char = '/' then ['_'] else [char]

/-- Encode a publish prefix for use in a URL path. -/
def encodePrefix (target : String) : String :=
  if target ∈ ["", ".", "/"] then ":."
  else String.ofList (escapeChars (stripSlashes target.toList))

/-- aptly's reading of a path, pair by pair from the left. -/
def unescapeChars : List Char → List Char
  | '_' :: '_' :: rest => '_' :: unescapeChars rest
  | '_' :: rest => '/' :: unescapeChars rest
  | char :: rest => char :: unescapeChars rest
  | [] => []

/-- Without slashes around it; an empty prefix is the root. -/
def normalPrefix (chars : List Char) : List Char :=
  if stripSlashes chars = [] then ['.'] else stripSlashes chars

/-- What stands before and after the last colon. -/
def splitStorage (chars : List Char) : List Char × List Char :=
  let behind := chars.reverse.takeWhile (· ≠ ':')
  let before := chars.reverse.dropWhile (· ≠ ':')
  ((before.drop 1).reverse, behind.reverse)

/-- A place to publish to, apart from the distribution. -/
structure Place where
  storage : String
  barePrefix : String
  deriving DecidableEq, Repr

/-- The place that a request for this target addresses. -/
def addressedBy (target : String) : Place :=
  let (storage, path) := splitStorage (unescapeChars (encodePrefix target).toList)
  ⟨String.ofList storage, String.ofList (normalPrefix path)⟩

def Publication.place (publication : Publication) : Place :=
  ⟨publication.storage, publication.barePrefix⟩

/-! ## Which prefixes share a path -/

/-- A text cut at its separators: the weight of what stands before the first other character,
and each other character with the weight of the separators right after it. -/
structure Skeleton where
  leading : Nat
  others : List (Char × Nat)
  deriving DecidableEq, Repr

/-- A character of weight 0 is no separator. -/
def skeleton (weight : Char → Nat) : List Char → Skeleton
  | [] => ⟨0, []⟩
  | char :: rest =>
      let tail := skeleton weight rest
      if weight char = 0 then ⟨0, (char, tail.leading) :: tail.others⟩
      else ⟨weight char + tail.leading, tail.others⟩

/-- How many underscores a character of the prefix is written as, unless it is kept. -/
def underscores (char : Char) : Nat :=
  if char = '_' then 2 else if char = '/' then 1 else 0

/-- The underscores of a written text count one each. -/
def written (char : Char) : Nat := if char = '_' then 1 else 0

def Skeleton.write (skeleton : Skeleton) : List Char :=
  List.replicate skeleton.leading '_' ++
    skeleton.others.flatMap fun (char, run) => char :: List.replicate run '_'

theorem escapeChars_cons (char : Char) (rest : List Char) :
    escapeChars (char :: rest) =
      (if char = '_' then ['_', '_'] else if char = '/' then ['_'] else [char]) ++
        escapeChars rest := rfl

theorem escapeChars_eq_write (chars : List Char) :
    escapeChars chars = (skeleton underscores chars).write := by
  induction chars with
  | nil => rfl
  | cons char rest inductionHypothesis =>
      rw [escapeChars_cons, inductionHypothesis]
      by_cases doubled : char = '_'
      · simp [skeleton, underscores, doubled, Skeleton.write, Nat.add_comm 2, List.replicate_succ]
      · by_cases single : char = '/'
        · simp [skeleton, underscores, single, Skeleton.write, Nat.add_comm 1, List.replicate_succ]
        · simp [skeleton, underscores, doubled, single, Skeleton.write]

theorem skeleton_escapeChars (chars : List Char) :
    skeleton written (escapeChars chars) = skeleton underscores chars := by
  induction chars with
  | nil => rfl
  | cons char rest inductionHypothesis =>
      rw [escapeChars_cons]
      by_cases doubled : char = '_'
      · simp [skeleton, written, underscores, doubled, inductionHypothesis, ← Nat.add_assoc]
      · by_cases single : char = '/'
        · simp [skeleton, written, underscores, single, inductionHypothesis]
        · simp [skeleton, written, underscores, doubled, single, inductionHypothesis]

/-- The order within a run of separators is lost, its weight is not. -/
theorem escapeChars_eq_iff (first second : List Char) :
    escapeChars first = escapeChars second ↔
      skeleton underscores first = skeleton underscores second := by
  constructor
  · intro same
    rw [← skeleton_escapeChars, same, skeleton_escapeChars]
  · intro same
    rw [escapeChars_eq_write, same, ← escapeChars_eq_write]

/-- A text written without underscores is written as it stands. -/
theorem escapeChars_eq_self {chars : List Char} (free : '_' ∉ escapeChars chars) :
    escapeChars chars = chars := by
  induction chars with
  | nil => rfl
  | cons char rest inductionHypothesis =>
      rw [escapeChars_cons] at free ⊢
      by_cases doubled : char = '_'
      · simp [doubled] at free
      · by_cases single : char = '/'
        · simp [single] at free
        · simp only [doubled, single, if_false, List.singleton_append, List.mem_cons,
            not_or] at free ⊢
          rw [inductionHypothesis free.2]

theorem escapeChars_eq_root_iff (chars : List Char) :
    escapeChars chars = [':', '.'] ↔ chars = [':', '.'] := by
  constructor
  · intro same
    have free : '_' ∉ escapeChars chars := by rw [same]; decide
    rw [← escapeChars_eq_self free, same]
  · rintro rfl
    rfl

/-- Two prefixes below the root are told apart exactly when their skeletons differ, where an
underscore weighs as much as two slashes, and neither is itself the root's spelling. -/
theorem encodePrefix_ne_iff {first second : String}
    (below : first ∉ ["", ".", "/"]) (below' : second ∉ ["", ".", "/"]) :
    (encodePrefix first ≠ encodePrefix second ∧
        encodePrefix first ≠ ":." ∧ encodePrefix second ≠ ":.") ↔
      (skeleton underscores (stripSlashes first.toList) ≠
          skeleton underscores (stripSlashes second.toList) ∧
        stripSlashes first.toList ≠ [':', '.'] ∧ stripSlashes second.toList ≠ [':', '.']) := by
  have root (chars : List Char) : String.ofList (escapeChars chars) = ":." ↔ chars = [':', '.'] := by
    rw [← escapeChars_eq_root_iff]
    constructor
    · intro same
      simpa using congrArg String.toList same
    · intro same
      rw [same]
  have shared (chars others : List Char) :
      String.ofList (escapeChars chars) = String.ofList (escapeChars others) ↔
        skeleton underscores chars = skeleton underscores others := by
    rw [← escapeChars_eq_iff, String.ofList_inj]
  simp only [encodePrefix, below, below', if_false, ne_eq, root, shared]

theorem encodePrefix_ne_iff_levels :
    encodePrefix "debian/test" ≠ encodePrefix "debian_test" ∧
      encodePrefix "debian/test" ≠ ":." ∧ encodePrefix "debian_test" ≠ ":." :=
  (encodePrefix_ne_iff (by decide) (by decide)).mpr (by decide)

/-- An underscore next to a slash: both orders are written as three underscores. -/
theorem not_encodePrefix_ne :
    ¬ ∀ first second : String, stripSlashes first.toList ≠ stripSlashes second.toList →
      first ∉ ["", ".", "/"] → second ∉ ["", ".", "/"] →
        encodePrefix first ≠ encodePrefix second ∧
          encodePrefix first ≠ ":." ∧ encodePrefix second ≠ ":." := by
  intro apart
  exact (apart "a_/b" "a/_b" (by decide) (by decide) (by decide)).1 (by decide)

end AptlyGui
