import AptlyGui.Auth.Policy
import Mathlib.Data.List.TakeWhile

/-!
# The path that the guard judges

The router matches the path of the request, while `request.url.path` is the path
component of `<scheme>://<Host header><path>`.  The two agree for every request
exactly when the header ends where the authority of that URL does.
-/

namespace AptlyGui

variable {Hash : Type}

/-- Whether a character ends the authority of a URL. -/
def endsAuthority (char : Char) : Bool := char ∈ ['/', '?', '#']

/-- Whether a character ends the path of a URL. -/
def endsPath (char : Char) : Bool := char ∈ ['?', '#']

/-- `request.url.path`, from what follows `<scheme>://`: the path component as RFC 3986 splits a
URL.  What `urlsplit` does beyond that is left out: it raises `ValueError` on unbalanced brackets in
the authority, and deletes tabs and line ends. -/
def judgedPath (host path : String) : String :=
  String.ofList (((host ++ path).toList.dropWhile fun char => !endsAuthority char).takeWhile
    fun char => !endsPath char)

/-- What the guard makes of a request: its decision, and the answer of `_check_csrf`. -/
def guardVerdict (host method path : String) (hasUsers : Bool)
    (user : Option (User Hash)) (token : String) (submitted : Option String) : Decision × Bool :=
  (dispatch method (judgedPath host path) hasUsers user,
    passesCsrf method (judgedPath host path) token submitted)

/-- The two headers get the same verdict on every request, whoever sends it and whenever. -/
def SameVerdicts (Hash : Type) (host other : String) : Prop :=
  ∀ (method path : String) (hasUsers : Bool) (user : Option (User Hash)) (token : String)
    (submitted : Option String), guardVerdict host method path hasUsers user token submitted =
      guardVerdict other method path hasUsers user token submitted

/-- A header with nothing in it that ends an authority. -/
def PlainHost (host : String) : Prop := (host.toList.all fun char => !endsAuthority char) = true

instance (host : String) : Decidable (PlainHost host) :=
  inferInstanceAs (Decidable ((host.toList.all fun char => !endsAuthority char) = true))

theorem judgedPath_of_plain {host : String} (plain : PlainHost host) (path : String) :
    judgedPath host path = judgedPath "" path := by
  simp [judgedPath, List.dropWhile_append_of_pos (List.all_eq_true.mp plain)]

/-! ## Headers that reach into the path -/

/-- What the header leaves for the path of the URL. -/
def overflow (host : String) : List Char := host.toList.dropWhile fun char => !endsAuthority char

theorem overflow_eq_cons {host : String} (reaches : ¬ PlainHost host) :
    ∃ char rest, overflow host = char :: rest ∧ endsAuthority char = true := by
  cases left : overflow host with
  | nil =>
      exact absurd (List.all_eq_true.mpr (List.dropWhile_eq_nil_iff.mp left)) reaches
  | cons char rest =>
      refine ⟨char, rest, rfl, ?_⟩
      have first := List.head?_dropWhile_not (fun char => !endsAuthority char) host.toList
      rw [show host.toList.dropWhile (fun char => !endsAuthority char) = char :: rest from left]
        at first
      simpa using first

theorem toList_judgedPath {host : String} (reaches : ¬ PlainHost host) (path : String) :
    (judgedPath host path).toList =
      (overflow host ++ path.toList).takeWhile fun char => !endsPath char := by
  obtain ⟨char, rest, left, -⟩ := overflow_eq_cons reaches
  have dropped : (host ++ path).toList.dropWhile (fun char => !endsAuthority char) =
      overflow host ++ path.toList := by
    rw [String.toList_append, List.dropWhile_append]
    simp only [overflow] at left ⊢
    simp [left]
  rw [judgedPath, String.toList_ofList, dropped]

/-- The path of the request is lost to a header that ends the path of the URL. -/
theorem judgedPath_of_query {host : String} {char : Char} (listed : char ∈ overflow host)
    (ends : endsPath char = true) (path other : String) :
    judgedPath host path = judgedPath host other := by
  have reaches : ¬ PlainHost host := by
    intro plain
    have empty : overflow host = [] := List.dropWhile_eq_nil_iff.mpr (List.all_eq_true.mp plain)
    simp [empty] at listed
  have stops (after : List Char) : (overflow host ++ after).takeWhile (fun char => !endsPath char) =
      (overflow host).takeWhile fun char => !endsPath char := by
    rw [List.takeWhile_append, if_neg]
    intro whole
    have all := List.takeWhile_eq_self_iff.mp
      ((List.takeWhile_prefix _).eq_of_length whole) char listed
    simp [ends] at all
  refine String.toList_injective ?_
  rw [toList_judgedPath reaches, toList_judgedPath reaches, stops, stops]

/-- Any other header only puts its overflow before the path of the request. -/
theorem toList_judgedPath_of_path {host : String} (reaches : ¬ PlainHost host)
    (inside : (overflow host).any endsPath = false) {path : String}
    (clean : path.toList.any endsPath = false) :
    (judgedPath host path).toList = overflow host ++ path.toList := by
  rw [toList_judgedPath reaches, List.takeWhile_eq_self_iff]
  intro char listed
  rcases List.mem_append.mp listed with listed | listed
  · simp [List.any_eq_false.mp inside char listed]
  · simp [List.any_eq_false.mp clean char listed]

/-! ## A viewer who asks for administration -/

/-- A signed-in account that may look at everything but administration. -/
def onlooker (Hash : Type) : User Hash := { username := "" }

theorem not_run_of_admin {path : String} (admin : startsWithAny path adminPrefixes = true) :
    dispatch "GET" path true (some (onlooker Hash)) ≠ .run := by
  obtain ⟨notStatic, -, notSetup, notPublic⟩ := not_public_of_admin admin
  intro runs
  rcases run_cases runs with static | ⟨-, shown | ⟨account, known, may⟩⟩
  · simp [notStatic] at static
  · simp [notPublic] at shown
  · cases known
    rw [requiredRole, if_pos admin] at may
    cases may

theorem admin_of_forbidden {path : String}
    (refused : dispatch "GET" path true (some (onlooker Hash)) = .forbidden .admin) :
    startsWithAny path adminPrefixes = true := by
  by_contra ordinary
  have least : requiredRole "GET" path = .viewer := by
    rw [requiredRole, if_neg ordinary, if_pos (by simp)]
  have may : (onlooker Hash).can .viewer = true := by rfl
  unfold dispatch at refused
  split at refused
  · cases refused
  · rw [if_neg (by simp)] at refused
    split at refused
    · cases refused
    · split at refused
      · cases refused
      · simp [least, may] at refused

/-- A word with no inner slash begins the overflow if it begins what follows a slash. -/
theorem prefix_of_slash {word left after : List Char} (single : '/' ∉ word.tail)
    (nonempty : left ≠ []) (begins : word <+: left ++ '/' :: after) : word <+: left := by
  rcases List.prefix_or_prefix_of_prefix begins (List.prefix_append left _) with inside | ⟨tail, rfl⟩
  · exact inside
  · obtain ⟨first, rest, rfl⟩ := List.exists_cons_of_ne_nil nonempty
    have met := (List.prefix_append_right_inj _).mp begins
    cases tail with
    | nil => simp
    | cons char tail =>
        obtain ⟨rfl, -⟩ := List.cons_prefix_cons.mp met
        simp at single

/-! ## Which headers have no say -/

/-- A header has no say, compared with one that keeps to the authority, if and only if
it keeps to the authority itself. -/
theorem host_ignored_iff {host other : String} (plain : PlainHost other) :
    SameVerdicts Hash host other ↔ PlainHost host := by
  constructor
  · intro same
    by_contra reaches
    have decide_eq (path : String) : dispatch "GET" (judgedPath host path) true
        (some (onlooker Hash)) = dispatch "GET" (judgedPath "" path) true
          (some (onlooker Hash)) := by
      have verdict := same "GET" path true (some (onlooker Hash)) "" none
      rw [guardVerdict, guardVerdict, judgedPath_of_plain plain] at verdict
      exact (Prod.mk.inj verdict).1
    have refused : dispatch "GET" (judgedPath host "/users") true (some (onlooker Hash)) =
        .forbidden .admin := by
      rw [decide_eq]
      rfl
    have runs : dispatch "GET" (judgedPath host "/") true (some (onlooker Hash)) = .run := by
      rw [decide_eq]
      rfl
    cases inside : (overflow host).any endsPath with
    | true =>
        obtain ⟨char, listed, ends⟩ := List.any_eq_true.mp inside
        rw [judgedPath_of_query listed ends "/users" "/", runs] at refused
        cases refused
    | false =>
        -- An administrator's prefix that the path does not complete is in the header already.
        obtain ⟨word, listed, begins⟩ := List.any_eq_true.mp (admin_of_forbidden refused)
        rw [startsWith_iff, toList_judgedPath_of_path reaches inside (by decide)] at begins
        obtain ⟨char, rest, left, -⟩ := overflow_eq_cons reaches
        have single : '/' ∉ word.toList.tail :=
          (by decide : ∀ word ∈ adminPrefixes, '/' ∉ word.toList.tail) word listed
        have inHeader := prefix_of_slash single (by simp [left]) begins
        refine not_run_of_admin (List.any_eq_true.mpr ⟨word, listed, ?_⟩) runs
        rw [startsWith_iff, toList_judgedPath_of_path reaches inside (by decide)]
        exact inHeader.trans (List.prefix_append _ _)
  · intro sensible method path hasUsers user token submitted
    rw [guardVerdict, guardVerdict, judgedPath_of_plain sensible, judgedPath_of_plain plain]

theorem host_ignored_port :
    PlainHost "10.0.0.5:8080" ∧ (SameVerdicts Unit "gui.example.org" "10.0.0.5:8080" ↔
      PlainHost "gui.example.org") :=
  ⟨by decide, host_ignored_iff (by decide)⟩

/-- With this header the guard takes the page of accounts for a static file. -/
theorem not_host_ignored : ¬ ∀ host other : String, SameVerdicts Unit host other := by
  intro ignored
  have verdict := ignored "gui.example.org/static?" "gui.example.org" "GET" "/users" true none "" none
  exact absurd verdict (by decide)

end AptlyGui
