import AptlyGui.Auth.Policy
import AptlyGui.Web.Pages

/-!
# Routes

The table of routes of `create_app`, the router, and the handler behind each
route.  Paths are matched as Starlette compiles them: literal text, and
parameters that run up to the next slash.
-/

namespace AptlyGui

open SiteProgram

variable {Hash : Type}

/-! ## Handlers that store something -/

/-- The handlers that enqueue jobs or change mirror sets. -/
inductive Work where
  | discardSubmit
  | discardSetSubmit
  | newSetSubmit
  | adoptSubmit
  | setDelete
  | mirrorDelete
  | setCreateMissing
  | setUpdate
  | setSwitch
  deriving DecidableEq, Repr

/-- The handlers that change accounts or settings. -/
inductive Administration where
  | setupSubmit
  | loginSubmit
  | oidcCallback
  | settingsSave
  | usersRole
  | usersActive
  deriving DecidableEq, Repr

/-- The fields of the create and adopt forms, with their defaults. -/
def setForm? (request : HttpRequest) : Option SetForm := do
  let name ← request.required "name"
  let archiveUrl ← request.required "archive_url"
  let suites ← request.required "suites"
  let components ← request.required "components"
  let architectures ← request.required "architectures"
  let publishPrefix ← request.required "publish_prefix"
  return {
    name
    archiveUrl
    suites
    components
    architectures
    publishPrefix
    keyrings := request.optional "keyrings" ""
    signingKey := request.optional "signing_key" ""
    filter := request.optional "filter" ""
    publishEndpoint := request.optional "publish_endpoint" ""
    publicUrl := request.optional "public_url" ""
    mirrorPattern := request.optional "mirror_pattern" Pattern.setSuiteComponent.text }

/-- What the handler is called with; `none` stands for parameters that FastAPI refuses. -/
def Work.request? (app : App Hash) (request : HttpRequest) (author : String)
    (parameters : List String) : Work → Option WebRequest
  | discardSubmit => (request.required "name").map (.discardSubmit author)
  | discardSetSubmit => (app.twoIds parameters).map fun ids => .discardSetSubmit author ids.1 ids.2
  | newSetSubmit => (setForm? request).map (.newSetSubmit author)
  | adoptSubmit => (setForm? request).map .adoptSubmit
  | setDelete => (app.oneId parameters).map fun setId =>
      .setDelete author setId (request.optional "mirrors" "keep")
  | mirrorDelete => (request.required "name").map (.mirrorDelete author)
  | setCreateMissing => (app.oneId parameters).map (.setCreateMissing author)
  | setUpdate => (app.oneId parameters).map (.setUpdate author)
  | setSwitch => do
      let setId ← app.oneId parameters
      let snapshotSetId ← (request.required "snapshot_set_id").bind app.id?
      return .setSwitch author setId snapshotSetId

def Administration.request? (app : App Hash) (fresh : Fresh) (request : HttpRequest)
    (stored : SessionData) (author : String) (parameters : List String) :
    Administration → Option AccountRequest
  | setupSubmit => do
      let username ← request.required "username"
      let password ← request.required "password"
      let passwordAgain ← request.required "password_again"
      return .setupSubmit fresh.salt username password passwordAgain
  | loginSubmit => do
      let username ← request.required "username"
      let password ← request.required "password"
      return .loginSubmit username password (request.optional "next" "/")
  | oidcCallback =>
      some (.oidcCallback stored (lastValue request.query "code") (lastValue request.query "state"))
  | settingsSave => (request.required "language").map .settingsSave
  | usersRole => do
      let userId ← app.oneId parameters
      let role ← request.required "role"
      return .usersRole author userId role
  | usersActive => (app.oneId parameters).map fun userId =>
      .usersActive author userId (request.optional "active" "0")

/-- What the account handlers know of the application. -/
def App.service (app : App Hash) (accounts : Accounts Hash) : AccountService Hash where
  accounts := accounts
  settings := app.settings
  oidc := app.oidc
  requests := []

/-! ## Endpoints -/

inductive Endpoint where
  | page (page : Page)
  | work (work : Work)
  | administration (administration : Administration)
  deriving DecidableEq, Repr

/-- A page that an account handler shows is rendered like any other. -/
def answer : AccountResponse → SiteProgram Hash SiteResponse
  | .plain (.page template) => page template
  | response => .done (.account response)

/-- The body of the handler.  `author` is `request.state.user.username`; the guard lets nobody
without an account through to a handler that asks for it. -/
def Endpoint.program (app : App Hash) (fresh : Fresh) (accounts : Accounts Hash)
    (request : HttpRequest) (stored : SessionData) (state : RequestState Hash)
    (parameters : List String) : Endpoint → Option (SiteProgram Hash SiteResponse)
  | page shown => shown.program app fresh request state parameters
  | work asked =>
      let author := (state.user.map User.username).getD ""
      (asked.request? app request author parameters).map fun given => do
        let response ← ofWorld given.handler
        return .account (.plain response)
  | administration asked =>
      let author := (state.user.map User.username).getD ""
      (asked.request? app fresh request stored author parameters).map fun given => do
        let response ← ofAccounts (given.program app.hasher (app.service accounts))
        answer response

/-! ## The router -/

/-- A part of the path of a route. -/
inductive Piece where
  | text (literal : String)
  | parameter
  deriving DecidableEq, Repr

/-- The values of the parameters, when the whole path matches. -/
def matchPieces : List Piece → List Char → Option (List String)
  | [], [] => some []
  | [], _ :: _ => none
  | .text literal :: rest, path =>
      if literal.toList.isPrefixOf path then matchPieces rest (path.drop literal.length) else none
  | .parameter :: rest, path =>
      let value := path.takeWhile (· ≠ '/')
      if value = [] then none
      else (matchPieces rest (path.dropWhile (· ≠ '/'))).map (String.ofList value :: ·)

structure Route where
  method : String
  pieces : List Piece
  endpoint : Endpoint
  deriving DecidableEq, Repr

/-- The routes of `create_app`, in the order in which they are tried. -/
def routes : List Route :=
  [ ⟨"GET", [.text "/"], .page .dashboard⟩,
    ⟨"GET", [.text "/mirrors"], .page .mirrors⟩,
    ⟨"GET", [.text "/snapshots"], .page .snapshots⟩,
    ⟨"GET", [.text "/snapshots/discard"], .page .discardConfirm⟩,
    ⟨"POST", [.text "/snapshots/discard"], .work .discardSubmit⟩,
    ⟨"GET", [.text "/sets/", .parameter, .text "/discard/", .parameter], .page .discardSetConfirm⟩,
    ⟨"POST", [.text "/sets/", .parameter, .text "/discard/", .parameter], .work .discardSetSubmit⟩,
    ⟨"GET", [.text "/publications"], .page .publications⟩,
    ⟨"GET", [.text "/sets"], .page .setsIndex⟩,
    ⟨"GET", [.text "/sets/new"], .page .newSetForm⟩,
    ⟨"POST", [.text "/sets/new"], .work .newSetSubmit⟩,
    ⟨"GET", [.text "/sets/adopt"], .page .adoptForm⟩,
    ⟨"POST", [.text "/sets/adopt"], .work .adoptSubmit⟩,
    ⟨"GET", [.text "/sets/", .parameter, .text "/delete"], .page .setDeleteConfirm⟩,
    ⟨"POST", [.text "/sets/", .parameter, .text "/delete"], .work .setDelete⟩,
    ⟨"GET", [.text "/mirrors/delete"], .page .mirrorDeleteConfirm⟩,
    ⟨"POST", [.text "/mirrors/delete"], .work .mirrorDelete⟩,
    ⟨"GET", [.text "/sets/", .parameter], .page .setDetail⟩,
    ⟨"POST", [.text "/sets/", .parameter, .text "/create"], .work .setCreateMissing⟩,
    ⟨"POST", [.text "/sets/", .parameter, .text "/update"], .work .setUpdate⟩,
    ⟨"POST", [.text "/sets/", .parameter, .text "/switch"], .work .setSwitch⟩,
    ⟨"GET", [.text "/jobs"], .page .jobsIndex⟩,
    ⟨"GET", [.text "/jobs/", .parameter], .page .jobDetail⟩,
    ⟨"GET", [.text "/partials/job/", .parameter], .page .jobPartial⟩,
    ⟨"GET", [.text "/setup"], .page .setupForm⟩,
    ⟨"POST", [.text "/setup"], .administration .setupSubmit⟩,
    ⟨"GET", [.text "/login"], .page .loginForm⟩,
    ⟨"POST", [.text "/login"], .administration .loginSubmit⟩,
    ⟨"GET", [.text "/logout"], .page .logout⟩,
    ⟨"GET", [.text "/auth/oidc/start"], .page .oidcStart⟩,
    ⟨"GET", [.text "/auth/oidc/callback"], .administration .oidcCallback⟩,
    ⟨"GET", [.text "/settings"], .page .settingsForm⟩,
    ⟨"POST", [.text "/settings"], .administration .settingsSave⟩,
    ⟨"GET", [.text "/users"], .page .usersIndex⟩,
    ⟨"POST", [.text "/users/", .parameter, .text "/role"], .administration .usersRole⟩,
    ⟨"POST", [.text "/users/", .parameter, .text "/active"], .administration .usersActive⟩,
    ⟨"GET", [.text "/partials/status"], .page .statusPartial⟩,
    ⟨"GET", [.text "/healthz"], .page .healthz⟩ ]

/-- The first route that takes the method and the path, and its parameters. -/
def route? (method path : String) : Option (Route × List String) :=
  routes.findSome? fun route =>
    if route.method = method then (matchPieces route.pieces path.toList).map (route, ·) else none

/-! ## What a match says about the path -/

/-- The literal text that every path of the route begins with. -/
def Route.start (route : Route) : String :=
  match route.pieces with
  | .text literal :: _ => literal
  | _ => ""

theorem prefix_of_matchPieces {literal : String} {rest : List Piece} {path : List Char}
    {parameters : List String} (matched : matchPieces (.text literal :: rest) path = some parameters) :
    literal.toList <+: path := by
  rw [matchPieces] at matched
  split at matched
  · rename_i begins
    exact List.isPrefixOf_iff_prefix.mp begins
  · cases matched

theorem eq_of_matchPieces {literal : String} {path : List Char} {parameters : List String}
    (matched : matchPieces [.text literal] path = some parameters) : path = literal.toList := by
  obtain ⟨rest, rfl⟩ := prefix_of_matchPieces matched
  have begins : literal.toList.isPrefixOf (literal.toList ++ rest) = true :=
    List.isPrefixOf_iff_prefix.mpr (List.prefix_append _ _)
  rw [matchPieces, if_pos begins, ← String.length_toList, List.drop_left] at matched
  cases rest with
  | nil => simp
  | cons char rest => cases matched

theorem mem_of_route? {method path : String} {route : Route} {parameters : List String}
    (routed : route? method path = some (route, parameters)) :
    route ∈ routes ∧ route.method = method ∧
      matchPieces route.pieces path.toList = some parameters := by
  obtain ⟨other, listed, taken⟩ := List.exists_of_findSome?_eq_some routed
  split at taken
  · rename_i same
    obtain ⟨values, matched, found⟩ := Option.map_eq_some_iff.mp taken
    cases found
    exact ⟨listed, same, matched⟩
  · cases taken

theorem startsWith_of_route? {method path : String} {route : Route} {parameters : List String}
    (routed : route? method path = some (route, parameters)) :
    startsWith path route.start = true := by
  obtain ⟨-, -, matched⟩ := mem_of_route? routed
  rw [startsWith_iff]
  unfold Route.start
  split
  · rename_i literal rest template
    rw [template] at matched
    exact prefix_of_matchPieces matched
  · simp

end AptlyGui
