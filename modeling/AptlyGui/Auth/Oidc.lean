import AptlyGui.Auth.Model
import AptlyGui.Library.Dict

/-!
# What the identity provider asserts

`auth/oidc.py`: who a userinfo object is about and which role it gives them.
-/

namespace AptlyGui

/-- What a request to an account handler may raise. -/
inductive AccountExn where
  | integrityError
  | oidcError (message : String)
  | valueError
  | typeError
  /-- `session.refresh` on a row that is gone -/
  | invalidRequest
  /-- `httpx` failed, or the provider's answer is not JSON -/
  | transport
  deriving DecidableEq, Repr

/-- A JSON value; a float is known by what `str()` makes of it. -/
inductive Json where
  | null
  | bool (flag : Bool)
  | int (value : Int)
  | float (shown : String)
  | str (text : String)
  | list (items : List Json)
  | object (fields : List (String × Json))

namespace Json

def truthy : Json → Bool
  | null => false
  | bool flag => flag
  | int value => decide (value ≠ 0)
  | float shown => decide (shown ≠ "0.0" ∧ shown ≠ "-0.0")
  | str text => decide (text ≠ "")
  | list items => !items.isEmpty
  | object fields => !fields.isEmpty

/-- `str(value)`, where `shown` prints lists and objects. -/
def text (shown : Json → String) : Json → String
  | null => "None"
  | bool flag => if flag then "True" else "False"
  | int value => toString value
  | float printed => printed
  | str value => value
  | container => shown container

end Json

abbrev Claims := Dict String Json

structure OidcConfig where
  issuer : String
  clientId : String
  usernameClaim : String := "preferred_username"
  groupsClaim : String := "groups"
  adminGroup : Option String := none
  operatorGroup : Option String := none
  defaultRole : String := "viewer"
  deriving DecidableEq, Repr

def OidcConfig.enabled (config : OidcConfig) : Bool :=
  decide (config.issuer ≠ "") && decide (config.clientId ≠ "")

/-- `shown` is Python's `str` for lists and objects, which `role_from` calls on groups. -/
structure OidcClient where
  config : OidcConfig
  shown : Json → String

namespace OidcClient

/-- The first of four claims that is a non-empty string. -/
def usernameFrom (client : OidcClient) (claims : Claims) : Except AccountExn String :=
  let asserted := [client.config.usernameClaim, "preferred_username", "email", "sub"].findSome?
    fun key =>
      match claims.get? key with
      | some (.str value) => if value ≠ "" then some value else none
      | _ => none
  match asserted with
  | some username => .ok username
  | none => .error (.oidcError "no usable username claim in userinfo")

/-- `{str(group) for group in groups}`; a number cannot be iterated over. -/
def members (client : OidcClient) (claims : Claims) : Except AccountExn (List String) :=
  match claims.get? client.config.groupsClaim with
  | none => .ok []
  | some groups =>
      if groups.truthy then
        match groups with
        | .str single => .ok [single]
        | .list items => .ok (items.map (Json.text client.shown))
        | .object fields => .ok (fields.map Prod.fst)
        | _ => .error .typeError
      else .ok []

/-- `if group and group in members` -/
def isMember (group : Option String) (members : List String) : Bool :=
  match group with
  | none => false
  | some name => decide (name ≠ "") && decide (name ∈ members)

def roleFrom (client : OidcClient) (claims : Claims) : Except AccountExn UserRole := do
  let members ← client.members claims
  if isMember client.config.adminGroup members then return .admin
  else if isMember client.config.operatorGroup members then return .operator
  else
    match UserRole.ofText? client.config.defaultRole with
    | some role => return role
    | none => .error .valueError

end OidcClient

end AptlyGui
