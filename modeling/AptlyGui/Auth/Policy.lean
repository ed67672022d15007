import AptlyGui.Web.Accounts

/-!
# Who may make a request

`auth/policy.py`, `auth/session.py` and `_dispatch`: a decision from the method,
the path and the account, by prefixes of the path and apart from the routes.
-/

namespace AptlyGui

variable {Hash : Type}

/-! ## The policy -/

/-- `PUBLIC_PREFIXES`: paths reachable without a session at all. -/
def publicPrefixes : List String := ["/static", "/login", "/logout", "/auth/", "/setup"]

/-- `PUBLIC_EXACT` -/
def publicExact : List String := ["/healthz"]

/-- `ADMIN_PREFIXES`: reserved for administrators whatever the method. -/
def adminPrefixes : List String := ["/settings", "/users"]

/-- `path.startswith(prefixes)` -/
def startsWithAny (path : String) (starts : List String) : Bool := starts.any (startsWith path)

def isPublic (path : String) : Bool :=
  decide (path ∈ publicExact) || startsWithAny path publicPrefixes

/-- Least privilege that may perform this request. -/
def requiredRole (method path : String) : UserRole :=
  if startsWithAny path adminPrefixes then .admin
  else if method ∈ ["GET", "HEAD", "OPTIONS"] then .viewer
  else if startsWithAny path ["/sets", "/snapshots"] then .operator
  else .admin

/-! ## The decision -/

/-- `quote(path, safe="/")` -/
def quote (path : String) : String :=
  String.join (path.toUTF8.data.toList.map fun byte =>
    let char := Char.ofNat byte.toNat
    if char.isAlphanum || char ∈ ['_', '.', '-', '~', '/'] then char.toString
    else
      let digits := "0123456789ABCDEF".toList
      String.ofList ['%', digits.getD (byte.toNat / 16) '0', digits.getD (byte.toNat % 16) '0'])

inductive Decision where
  | run
  | redirect (url : String)
  | forbidden (needed : UserRole)
  deriving DecidableEq, Repr

/-- `_dispatch` -/
def dispatch (method path : String) (hasUsers : Bool) (user : Option (User Hash)) : Decision :=
  if startsWith path "/static" || decide (path = "/healthz") then .run
  else if hasUsers = false then
    -- Before the first account exists every road leads to creating it.
    if path ≠ "/setup" then .redirect "/setup" else .run
  else if path = "/setup" then .redirect "/"
  else if isPublic path then .run
  else
    match user with
    | none => .redirect s!"/login?next={quote path}"
    | some user =>
        let needed := requiredRole method path
        if user.can needed then .run else .forbidden needed

/-! ## Sessions -/

/-- `read_session`, where `unsign` gives the payload of a cookie that is validly signed and not
too old. -/
def readSession (unsign : String → Option SessionData) (cookie : Option String) : SessionData :=
  match cookie.filter (· ≠ "") with
  | none => {}
  | some raw => (unsign raw).getD {}

/-- The token of the session, or the one that the guard issues. -/
def SessionData.token (session : SessionData) (issued : String) : String :=
  match session.csrf.filter (· ≠ "") with
  | some token => token
  | none => issued

/-- `_check_csrf` on the path the guard judges; it raises unless the tokens match. -/
def passesCsrf (method path token : String) (submitted : Option String) : Bool :=
  if method ∉ ["POST", "PUT", "PATCH", "DELETE"] then true
  else if startsWith path "/static" then true
  else
    match csrfMatches (some token) (submitted.getD "") with
    | .ok matched => matched
    | .error _ => false

/-! ## Prefixes of one path -/

/-- A path that begins with one word begins with no word that parts from it. -/
theorem not_startsWith {path start other : String} (begins : startsWith path start = true)
    (parts : (startsWith start other || startsWith other start) = false) :
    startsWith path other = false := by
  obtain ⟨longer, shorter⟩ := Bool.or_eq_false_iff.mp parts
  by_contra also
  rw [Bool.not_eq_false, startsWith_iff] at also
  rcases List.prefix_or_prefix_of_prefix (startsWith_iff.mp begins) also with inside | inside
  · simp [startsWith_iff.mpr inside] at shorter
  · simp [startsWith_iff.mpr inside] at longer

/-- Administration is not public under any name. -/
theorem not_public_of_admin {path : String} (admin : startsWithAny path adminPrefixes = true) :
    startsWith path "/static" = false ∧ path ≠ "/healthz" ∧ path ≠ "/setup" ∧
      isPublic path = false := by
  obtain ⟨start, listed, begins⟩ := List.any_eq_true.mp admin
  have apart (other : String) (parts : adminPrefixes.all (fun start =>
      !(startsWith start other || startsWith other start)) = true) :
      startsWith path other = false :=
    not_startsWith begins (by simpa using List.all_eq_true.mp parts start listed)
  have other (name : String) (parts : adminPrefixes.all (fun start =>
      !startsWith name start) = true) : path ≠ name := by
    rintro rfl
    simpa [begins] using List.all_eq_true.mp parts start listed
  have shown : startsWithAny path publicPrefixes = false := by
    simp only [startsWithAny, publicPrefixes, List.any_cons, List.any_nil, Bool.or_eq_false_iff]
    exact ⟨apart _ (by decide), apart _ (by decide), apart _ (by decide), apart _ (by decide),
      apart _ (by decide), trivial⟩
  refine ⟨apart _ (by decide), other _ (by decide), other _ (by decide), ?_⟩
  simp [isPublic, publicExact, shown, other "/healthz" (by decide)]

/-! ## What the decision lets through -/

variable {method path : String} {user : Option (User Hash)}

/-- What runs once an account is known is public, or its visitor has the role it needs. -/
theorem run_cases (runs : dispatch method path true user = .run) :
    startsWith path "/static" = true ∨ path ≠ "/setup" ∧ (isPublic path = true ∨
      ∃ account, user = some account ∧ account.can (requiredRole method path) = true) := by
  unfold dispatch at runs
  split at runs
  · rename_i static
    rcases Bool.or_eq_true_iff.mp static with static | exact
    · exact .inl static
    · obtain rfl := of_decide_eq_true exact
      exact .inr ⟨by decide, .inl (by decide)⟩
  · rw [if_neg (by simp)] at runs
    split at runs
    · cases runs
    · rename_i elsewhere
      split at runs
      · rename_i shown
        exact .inr ⟨elsewhere, .inl shown⟩
      · cases user with
        | none => cases runs
        | some account =>
            dsimp only at runs
            split at runs
            · rename_i may
              exact .inr ⟨elsewhere, .inr ⟨account, rfl, may⟩⟩
            · cases runs

/-- Before an account is known, only the setup page, static files and the health check run. -/
theorem run_cases_fresh (runs : dispatch method path false user = .run) :
    startsWith path "/static" = true ∨ path = "/healthz" ∨ path = "/setup" := by
  unfold dispatch at runs
  split at runs
  · rename_i static
    rcases Bool.or_eq_true_iff.mp static with static | exact
    · exact .inl static
    · exact .inr (.inl (of_decide_eq_true exact))
  · rw [if_pos rfl] at runs
    split at runs
    · cases runs
    · rename_i setup
      exact .inr (.inr (not_ne_iff.mp setup))

end AptlyGui
