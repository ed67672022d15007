import Mathlib.Algebra.BigOperators.Group.List.Basic
import Mathlib.Algebra.GroupWithZero.Nat
import Mathlib.Algebra.Order.BigOperators.Group.List
import Mathlib.Data.List.TakeWhile

/-!
# Reading a request target

RFC 3986, as far as a path is concerned: it ends at the first `?` or `#`, its
segments are split at `/`, and then percent-decoded into bytes.  A character
that may not stand in a target is sent as its own triplets, so it is read as the
bytes of its UTF-8 encoding.  Whoever sends the target may have resolved the
segments `.` and `..` before.
-/

namespace Url

def utf8 (text : List Char) : List UInt8 := text.flatMap String.utf8EncodeChar

def hexDigit (char : Char) : Option Nat :=
  if '0' ≤ char ∧ char ≤ '9' then some (char.toNat - '0'.toNat)
  else if 'A' ≤ char ∧ char ≤ 'F' then some (char.toNat - 'A'.toNat + 10)
  else if 'a' ≤ char ∧ char ≤ 'f' then some (char.toNat - 'a'.toNat + 10)
  else none

/-- The byte of a triplet with these digits. -/
def hexByte (high low : Char) : Option UInt8 :=
  match hexDigit high, hexDigit low with
  | some first, some second => some (UInt8.ofNat (first * 16 + second))
  | _, _ => none

/-- A `%` without two digits after it stands for itself. -/
def percentDecode : List Char → List UInt8
  | '%' :: high :: low :: rest =>
      match hexByte high low with
      | some byte => byte :: percentDecode rest
      | none => String.utf8EncodeChar '%' ++ percentDecode (high :: low :: rest)
  | char :: rest => String.utf8EncodeChar char ++ percentDecode rest
  | [] => []

/-- Somewhere a `%` is followed by two digits. -/
def hasTriplet : List Char → Bool
  | '%' :: high :: low :: rest => (hexByte high low).isSome || hasTriplet (high :: low :: rest)
  | _ :: rest => hasTriplet rest
  | [] => false

def inPath (char : Char) : Bool := char ≠ '?' && char ≠ '#'

/-- The segments of an absolute path; nothing stands before the first slash. -/
def segmentsOf (target : List Char) : List (List Char) :=
  ((target.takeWhile inPath).splitOn '/').drop 1

def isDot (segment : List Char) : Bool := segment = ['.'] || segment = ['.', '.']

def resolveDots (output : List (List Char)) : List (List Char) → List (List Char)
  | [] => output
  | segment :: rest =>
      if segment = ['.'] then resolveDots output rest
      else if segment = ['.', '.'] then resolveDots output.dropLast rest
      else resolveDots (output ++ [segment]) rest

def readPath (resolving : Bool) (target : List Char) : List (List UInt8) :=
  (if resolving then resolveDots [] (segmentsOf target) else segmentsOf target).map percentDecode

/-- What follows the first `?`, up to a `#`. -/
def queryOf (target : List Char) : Option (List Char) :=
  match target.dropWhile inPath with
  | '?' :: rest => some (rest.takeWhile fun char => char ≠ '#')
  | _ => none

/-- A text that is read as it stands when it is put into a path. -/
structure Plain (resolving : Bool) (text : List Char) : Prop where
  single : '/' ∉ text
  inPath : ∀ char ∈ text, inPath char = true
  literal : hasTriplet text = false
  kept : resolving = true → isDot text = false

instance (resolving : Bool) (text : List Char) : Decidable (Plain resolving text) :=
  decidable_of_iff ('/' ∉ text ∧ text.all inPath = true ∧ hasTriplet text = false ∧
      (resolving = true → isDot text = false))
    ⟨fun ⟨single, inside, literal, kept⟩ => ⟨single, List.all_eq_true.mp inside, literal, kept⟩,
      fun ⟨single, inside, literal, kept⟩ => ⟨single, List.all_eq_true.mpr inside, literal, kept⟩⟩

/-! ## Decoding -/

@[simp]
theorem utf8_append (first second : List Char) : utf8 (first ++ second) = utf8 first ++ utf8 second :=
  List.flatMap_append

@[simp]
theorem utf8_cons (char : Char) (rest : List Char) :
    utf8 (char :: rest) = String.utf8EncodeChar char ++ utf8 rest := rfl

theorem utf8_injective : Function.Injective utf8 := by
  intro first second same
  have encoded : first.utf8Encode = second.utf8Encode := congrArg List.toByteArray same
  have decoded := congrArg ByteArray.utf8Decode? encoded
  simpa using decoded

theorem length_percentDecode_le (text : List Char) :
    (percentDecode text).length ≤ (utf8 text).length := by
  fun_induction percentDecode text with
  | case1 high low rest byte found inductionHypothesis =>
      have percent : 0 < (String.utf8EncodeChar '%').length := by decide
      simp only [utf8_cons, List.length_append, List.length_cons]
      omega
  | case2 high low rest none inductionHypothesis =>
      simp only [utf8_cons, List.length_append] at inductionHypothesis ⊢
      omega
  | case3 char rest other inductionHypothesis =>
      simp only [utf8_cons, List.length_append]
      omega
  | case4 => simp [utf8]

/-- Without a triplet there is nothing to decode. -/
theorem percentDecode_of_literal {text : List Char} (literal : hasTriplet text = false) :
    percentDecode text = utf8 text := by
  fun_induction percentDecode text with
  | case1 high low rest byte found inductionHypothesis => simp [hasTriplet, found] at literal
  | case2 high low rest none inductionHypothesis =>
      rw [hasTriplet, none] at literal
      rw [utf8_cons, inductionHypothesis literal]
  | case3 char rest other inductionHypothesis =>
      rw [hasTriplet] at literal
      · rw [utf8_cons, inductionHypothesis literal]
      · exact other
  | case4 => rfl

theorem length_percentDecode_lt {text : List Char} (triplet : hasTriplet text = true) :
    (percentDecode text).length < (utf8 text).length := by
  fun_induction percentDecode text with
  | case1 high low rest byte found inductionHypothesis =>
      have short := length_percentDecode_le rest
      have first := high.utf8Size_pos
      have percent : (String.utf8EncodeChar '%').length = 1 := by decide
      simp only [utf8_cons, List.length_append, List.length_cons, percent,
        String.length_utf8EncodeChar]
      omega
  | case2 high low rest none inductionHypothesis =>
      rw [hasTriplet, none] at triplet
      have later := inductionHypothesis triplet
      simp only [utf8_cons, List.length_append] at later ⊢
      omega
  | case3 char rest other inductionHypothesis =>
      rw [hasTriplet] at triplet
      · have later := inductionHypothesis triplet
        simp only [utf8_cons, List.length_append]
        omega
      · exact other
  | case4 => cases triplet

/-! ## Joining and reading -/

/-- How many bytes a list of segments takes, each with the slash before it. -/
def size (segments : List (List UInt8)) : Nat :=
  (segments.map fun segment => segment.length + 1).sum

theorem size_intercalate {parts : List (List Char)} (some : parts ≠ []) :
    size (parts.map utf8) = (utf8 (['/'].intercalate parts)).length + 1 := by
  induction parts with
  | nil => exact absurd rfl some
  | cons part rest inductionHypothesis =>
      have slash : (String.utf8EncodeChar '/').length = 1 := by decide
      cases rest with
      | nil => simp [size]
      | cons other rest =>
          have later := inductionHypothesis (by simp)
          rw [List.intercalate_cons_cons]
          simp only [size, List.map_cons, List.sum_cons, utf8_append, utf8_cons,
            List.length_append, slash] at later ⊢
          simp only [utf8, List.flatMap_nil, List.length_nil] at later ⊢
          omega

theorem size_percentDecode_le (segments : List (List Char)) :
    size (segments.map percentDecode) ≤ size (segments.map utf8) := by
  induction segments with
  | nil => exact Nat.le_refl _
  | cons segment rest inductionHypothesis =>
      have first := length_percentDecode_le segment
      simp only [size, List.map_cons, List.sum_cons] at inductionHypothesis ⊢
      omega

/-- Decoding that costs no byte has met no triplet. -/
theorem literal_of_size {segments : List (List Char)}
    (same : size (segments.map utf8) ≤ size (segments.map percentDecode)) :
    ∀ segment ∈ segments, hasTriplet segment = false := by
  induction segments with
  | nil => simp
  | cons segment rest inductionHypothesis =>
      have first := length_percentDecode_le segment
      have others := size_percentDecode_le rest
      simp only [size, List.map_cons, List.sum_cons] at same inductionHypothesis others
      intro other listed
      rcases List.mem_cons.mp listed with rfl | later
      · by_contra triplet
        have fewer := length_percentDecode_lt (Bool.eq_true_of_not_eq_false triplet)
        omega
      · exact inductionHypothesis (by omega) other later

/-! ## Dot segments -/

theorem resolveDots_of_kept {segments : List (List Char)} (output : List (List Char))
    (kept : ∀ segment ∈ segments, isDot segment = false) :
    resolveDots output segments = output ++ segments := by
  induction segments generalizing output with
  | nil => simp [resolveDots]
  | cons segment rest inductionHypothesis =>
      have first := kept segment (by simp)
      simp only [isDot, Bool.or_eq_false_iff, decide_eq_false_iff_not] at first
      rw [resolveDots, if_neg first.1, if_neg first.2,
        inductionHypothesis _ fun other later => kept other (List.mem_cons_of_mem _ later)]
      simp

theorem size_append (first second : List (List UInt8)) :
    size (first ++ second) = size first + size second := by
  simp [size]

theorem size_dropLast_le (segments : List (List Char)) :
    size (segments.dropLast.map utf8) ≤ size (segments.map utf8) := by
  by_cases empty : segments = []
  · rw [empty, List.dropLast_nil]
  · have whole := congrArg (fun list => size (list.map utf8))
      (List.dropLast_concat_getLast empty)
    simp only [List.map_append, size_append] at whole
    omega

theorem size_resolveDots_le (output segments : List (List Char)) :
    size ((resolveDots output segments).map utf8) ≤
      size (output.map utf8) + size (segments.map utf8) := by
  induction segments generalizing output with
  | nil => simp [resolveDots]
  | cons segment rest inductionHypothesis =>
      have dropped := size_dropLast_le output
      have cost : size ((segment :: rest).map utf8) = (utf8 segment).length + 1 +
          size (rest.map utf8) := by simp [size]
      rw [resolveDots, cost]
      split
      · have later := inductionHypothesis output
        omega
      · split
        · have later := inductionHypothesis output.dropLast
          omega
        · have later := inductionHypothesis (output ++ [segment])
          have added : size [utf8 segment] = (utf8 segment).length + 1 := by simp [size]
          rw [List.map_append, size_append, List.map_singleton, added] at later
          omega

/-- Resolving that costs no byte has met no dot segment. -/
theorem kept_of_size (output : List (List Char)) {segments : List (List Char)}
    (same : size (output.map utf8) + size (segments.map utf8) ≤
      size ((resolveDots output segments).map utf8)) :
    ∀ segment ∈ segments, isDot segment = false := by
  induction segments generalizing output with
  | nil => simp
  | cons segment rest inductionHypothesis =>
      have cost : size ((segment :: rest).map utf8) = (utf8 segment).length + 1 +
          size (rest.map utf8) := by simp [size]
      rw [resolveDots, cost] at same
      by_cases here : segment = ['.']
      · rw [if_pos here] at same
        have fewer := size_resolveDots_le output rest
        omega
      · by_cases above : segment = ['.', '.']
        · rw [if_neg here, if_pos above] at same
          have fewer := size_resolveDots_le output.dropLast rest
          have dropped := size_dropLast_le output
          omega
        · rw [if_neg here, if_neg above] at same
          have added : size [utf8 segment] = (utf8 segment).length + 1 := by simp [size]
          have later := inductionHypothesis (output ++ [segment]) (by
            rw [List.map_append, size_append, List.map_singleton, added]
            omega)
          intro other listed
          rcases List.mem_cons.mp listed with rfl | listed
          · simp [isDot, here, above]
          · exact later other listed

/-! ## Texts joined by slashes -/

theorem separator_notMem_splitOn {α : Type} [DecidableEq α] {separator : α} {items : List α} :
    ∀ part ∈ items.splitOn separator, separator ∉ part := by
  induction items with
  | nil => simp
  | cons item rest inductionHypothesis =>
      rw [List.splitOn_cons_eq_if_modifyHead]
      split
      · intro part listed
        rcases List.mem_cons.mp listed with rfl | later
        · simp
        · exact inductionHypothesis part later
      · rename_i other
        cases pieces : rest.splitOn separator with
        | nil => exact absurd pieces (List.splitOn_ne_nil separator rest)
        | cons first pieces' =>
            rw [pieces] at inductionHypothesis
            intro part listed
            rcases List.mem_cons.mp listed with rfl | later
            · simp only [List.mem_cons, not_or]
              refine ⟨fun same => other (by simp [same]), inductionHypothesis first (by simp)⟩
            · exact inductionHypothesis part (List.mem_cons_of_mem _ later)

theorem mem_intercalate_of_mem {α : Type} {separator : List α} {parts : List (List α)}
    {part : List α} {item : α} (listed : part ∈ parts) (held : item ∈ part) :
    item ∈ separator.intercalate parts := by
  induction parts with
  | nil => cases listed
  | cons first rest inductionHypothesis =>
      cases rest with
      | nil =>
          obtain rfl := List.mem_singleton.mp listed
          simpa using held
      | cons other rest =>
          rw [List.intercalate_cons_cons]
          rcases List.mem_cons.mp listed with rfl | later
          · simp [held]
          · simp [inductionHypothesis later]

theorem inPath_of_mem_intercalate {parts : List (List Char)}
    (inside : ∀ part ∈ parts, ∀ char ∈ part, inPath char = true) :
    ∀ char ∈ ['/'].intercalate parts, inPath char = true := by
  induction parts with
  | nil => simp
  | cons first rest inductionHypothesis =>
      have later := inductionHypothesis fun part listed => inside part (List.mem_cons_of_mem _ listed)
      cases rest with
      | nil => simpa using inside first (by simp)
      | cons other rest =>
          rw [List.intercalate_cons_cons]
          intro char held
          rcases List.mem_append.mp held with held | held
          · rcases List.mem_append.mp held with held | slash
            · exact inside first (by simp) char held
            · obtain rfl := List.mem_singleton.mp slash
              decide
          · exact later char held

theorem segmentsOf_slash (rest : List Char) :
    segmentsOf ('/' :: rest) = (rest.takeWhile inPath).splitOn '/' := by
  have first : ('/' :: rest).takeWhile inPath = [] ++ '/' :: rest.takeWhile inPath := rfl
  rw [segmentsOf, first, List.splitOn_append_cons_self_of_not_mem (by simp)]
  rfl

theorem segmentsOf_join {parts : List (List Char)} (some : parts ≠ [])
    (single : ∀ part ∈ parts, '/' ∉ part)
    (inside : ∀ part ∈ parts, ∀ char ∈ part, inPath char = true) :
    segmentsOf ('/' :: ['/'].intercalate parts) = parts := by
  rw [segmentsOf_slash, List.takeWhile_eq_self_iff.mpr (inPath_of_mem_intercalate inside),
    List.splitOn_intercalate '/' single some]

/-- What the path's end cuts off takes away bytes. -/
theorem size_segmentsOf_join_le {parts : List (List Char)} (some : parts ≠ []) :
    size ((segmentsOf ('/' :: ['/'].intercalate parts)).map utf8) ≤ size (parts.map utf8) := by
  have both := congrArg (fun text => (utf8 text).length)
    (List.takeWhile_append_dropWhile (p := inPath) (l := ['/'].intercalate parts))
  have whole := size_intercalate some
  have pieces := size_intercalate (List.splitOn_ne_nil '/'
    ((['/'].intercalate parts).takeWhile inPath))
  rw [List.intercalate_splitOn] at pieces
  rw [segmentsOf_slash]
  simp only [utf8_append, List.length_append] at both
  omega

/-- The segments of a target hold no slash and nothing that ends a path. -/
theorem plain_of_mem_segmentsOf {rest segment : List Char}
    (listed : segment ∈ segmentsOf ('/' :: rest)) :
    '/' ∉ segment ∧ ∀ char ∈ segment, inPath char = true := by
  rw [segmentsOf_slash] at listed
  constructor
  · exact separator_notMem_splitOn segment listed
  · intro char held
    have joined : char ∈ ['/'].intercalate _ := mem_intercalate_of_mem listed held
    rw [List.intercalate_splitOn] at joined
    exact List.mem_takeWhile_imp joined

/-- Texts joined by slashes are read as they are exactly when each of them is plain. -/
theorem readPath_join_iff {resolving : Bool} {parts : List (List Char)} (some : parts ≠ []) :
    readPath resolving ('/' :: ['/'].intercalate parts) = parts.map utf8 ↔
      ∀ part ∈ parts, Plain resolving part := by
  constructor
  · intro same
    -- Nothing that is cut off, resolved or decoded adds a byte, so none of it has happened.
    have cut := size_segmentsOf_join_le some
    have whole : size (parts.map utf8) ≤
        size ((segmentsOf ('/' :: ['/'].intercalate parts)).map utf8) := by
      rw [← same, readPath]
      refine (size_percentDecode_le _).trans ?_
      split
      · have fewer := size_resolveDots_le [] (segmentsOf ('/' :: ['/'].intercalate parts))
        simpa [size] using fewer
      · exact Nat.le_refl _
    have kept : resolving = true →
        ∀ segment ∈ segmentsOf ('/' :: ['/'].intercalate parts), isDot segment = false := by
      intro resolved
      rw [readPath, if_pos resolved] at same
      have decoded := size_percentDecode_le
        (resolveDots [] (segmentsOf ('/' :: ['/'].intercalate parts)))
      rw [same] at decoded
      refine kept_of_size [] ?_
      simp only [List.map_nil, size, List.sum_nil] at decoded cut ⊢
      omega
    have unresolved : readPath resolving ('/' :: ['/'].intercalate parts) =
        (segmentsOf ('/' :: ['/'].intercalate parts)).map percentDecode := by
      rw [readPath]
      split
      · rename_i resolved
        rw [resolveDots_of_kept [] (kept resolved), List.nil_append]
      · rfl
    rw [unresolved] at same
    have literal := literal_of_size (by rw [same]; exact cut)
    have decoded := List.map_congr_left fun segment listed =>
      percentDecode_of_literal (literal segment listed)
    have split := utf8_injective.list_map (decoded.symm.trans same)
    intro part listed
    rw [← split] at listed
    obtain ⟨single, inside⟩ := plain_of_mem_segmentsOf listed
    exact ⟨single, inside, literal part listed, fun resolved => kept resolved part listed⟩
  · intro plain
    have split := segmentsOf_join some (fun part listed => (plain part listed).single)
      fun part listed => (plain part listed).inPath
    have unresolved : readPath resolving ('/' :: ['/'].intercalate parts) =
        parts.map percentDecode := by
      rw [readPath, split]
      split
      · rename_i resolved
        rw [resolveDots_of_kept [] fun part listed => (plain part listed).kept resolved,
          List.nil_append]
      · rfl
    rw [unresolved]
    exact List.map_congr_left fun part listed => percentDecode_of_literal (plain part listed).literal

/-- A path of plain texts carries no query. -/
theorem queryOf_join {resolving : Bool} {parts : List (List Char)}
    (plain : ∀ part ∈ parts, Plain resolving part) :
    queryOf ('/' :: ['/'].intercalate parts) = none := by
  have inside := inPath_of_mem_intercalate fun part listed => (plain part listed).inPath
  have nothing : ('/' :: ['/'].intercalate parts).dropWhile inPath = [] := by
    rw [List.dropWhile_eq_nil_iff]
    intro char held
    rcases List.mem_cons.mp held with rfl | held
    · decide
    · exact inside char held
  rw [queryOf, nothing]

end Url
