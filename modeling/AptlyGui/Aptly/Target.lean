import AptlyGui.Library.Url
import AptlyGui.Aptly.Prefix

/-!
# Which object a request names

The methods of `AptlyClient` that put a name into a URL.  The HTTP library joins
a call's parameters with the query that the URL itself carries.  Its versions do
this differently, so `joining` is any of them: a URL without a query leaves the
parameters alone.
-/

namespace AptlyGui

inductive Call where
  | getMirror (name : String)
  | updateMirror (spec : MirrorSpec)
  | deleteMirror (name : String) (force : Bool)
  | createSnapshotFromMirror (mirror name description : String)
  | deleteSnapshot (name : String) (force : Bool)
  | switchPublished (target distribution : String) (sources : Dict String String)
      (signing : Signing)
  | dropPublished (target distribution : String) (force : Bool)
  deriving DecidableEq

/-- What `_request` hands to the HTTP library, apart from the body. -/
structure ClientRequest where
  method : String
  path : String
  params : Option (List (String × String))
  deriving DecidableEq, Repr

abbrev Joining := Option (List Char) → Option (List (String × String)) → List (String × String)

namespace Call

/-- `{"_async": 1}`, with `"force": 1` where it is asked for. -/
def asyncParams (force : Bool) : List (String × String) :=
  ("_async", "1") :: if force then [("force", "1")] else []

def request : Call → ClientRequest
  | .getMirror name => ⟨"GET", s!"/api/mirrors/{name}", none⟩
  | .updateMirror spec => ⟨"PUT", s!"/api/mirrors/{spec.name}", some (asyncParams false)⟩
  | .deleteMirror name force => ⟨"DELETE", s!"/api/mirrors/{name}", some (asyncParams force)⟩
  | .createSnapshotFromMirror mirror _ _ => ⟨"POST", s!"/api/mirrors/{mirror}/snapshots", none⟩
  | .deleteSnapshot name force =>
      ⟨"DELETE", s!"/api/snapshots/{name}", if force then some [("force", "1")] else none⟩
  | .switchPublished target distribution _ _ =>
      ⟨"PUT", s!"/api/publish/{encodePrefix target}/{distribution}", some (asyncParams false)⟩
  | .dropPublished target distribution force =>
      ⟨"DELETE", s!"/api/publish/{encodePrefix target}/{distribution}", some (asyncParams force)⟩

/-- The caller asked for force. -/
def force : Call → Bool
  | .deleteMirror _ force | .deleteSnapshot _ force | .dropPublished _ _ force => force
  | _ => false

/-- The texts that are put into the URL. -/
def inserted : Call → List String
  | .getMirror name => [name]
  | .updateMirror spec => [spec.name]
  | .deleteMirror name _ => [name]
  | .createSnapshotFromMirror mirror _ _ => [mirror]
  | .deleteSnapshot name _ => [name]
  | .switchPublished target distribution _ _ => [encodePrefix target, distribution]
  | .dropPublished target distribution _ => [encodePrefix target, distribution]

/-- The segments that the request's path stands for. -/
def segments : Call → List String
  | .getMirror name => ["api", "mirrors", name]
  | .updateMirror spec => ["api", "mirrors", spec.name]
  | .deleteMirror name _ => ["api", "mirrors", name]
  | .createSnapshotFromMirror mirror _ _ => ["api", "mirrors", mirror, "snapshots"]
  | .deleteSnapshot name _ => ["api", "snapshots", name]
  | .switchPublished target distribution _ _ => ["api", "publish", encodePrefix target, distribution]
  | .dropPublished target distribution _ => ["api", "publish", encodePrefix target, distribution]

/-- The parameters that the request is sent with. -/
def carried (joining : Joining) (call : Call) : List (String × String) :=
  joining (Url.queryOf call.request.path.toList) call.request.params

/-- The request is read as one for the named object, and as a forced one only if asked. -/
structure Addresses (resolving : Bool) (joining : Joining) (call : Call) : Prop where
  path : Url.readPath resolving call.request.path.toList =
    (call.segments.map String.toList).map Url.utf8
  force : ("force", "1") ∈ call.carried joining → call.force = true

theorem path_toList (call : Call) :
    call.request.path.toList = '/' :: ['/'].intercalate (call.segments.map String.toList) := by
  cases call <;> simp [request, segments, toString]

/-- The texts of the program's own are plain, so only the inserted ones matter. -/
theorem plain_segments_iff (resolving : Bool) (call : Call) :
    (∀ part ∈ call.segments.map String.toList, Url.Plain resolving part) ↔
      ∀ text ∈ call.inserted, Url.Plain resolving text.toList := by
  have api : Url.Plain resolving "api".toList := by revert resolving; decide
  have mirrors : Url.Plain resolving "mirrors".toList := by revert resolving; decide
  have snapshots : Url.Plain resolving "snapshots".toList := by revert resolving; decide
  have publish : Url.Plain resolving "publish".toList := by revert resolving; decide
  cases call <;>
    simp only [segments, inserted, List.map_cons, List.map_nil, List.forall_mem_cons, api, mirrors,
      snapshots, publish, List.not_mem_nil, IsEmpty.forall_iff, implies_true, true_and, and_true]

theorem force_of_mem_params {call : Call}
    (given : ("force", "1") ∈ call.request.params.getD []) : call.force = true := by
  cases call with
  | deleteMirror name force | dropPublished target distribution force =>
      cases force with
      | true => rfl
      | false => simp [request, asyncParams] at given
  | deleteSnapshot name force =>
      cases force with
      | true => rfl
      | false => simp [request] at given
  | _ => simp [request, asyncParams] at given

/-- The names are put into the URL as they are, so a request addresses the named object
exactly when each inserted text is read as it stands. -/
theorem addresses_iff (resolving : Bool) (joining : Joining)
    (unqueried : ∀ params, joining none params = params.getD []) (call : Call) :
    call.Addresses resolving joining ↔ ∀ text ∈ call.inserted, Url.Plain resolving text.toList := by
  have some : call.segments.map String.toList ≠ [] := by cases call <;> simp [segments]
  rw [← plain_segments_iff]
  constructor
  · intro addresses
    have read := addresses.path
    rw [path_toList] at read
    exact (Url.readPath_join_iff some).mp read
  · intro plain
    constructor
    · rw [path_toList]
      exact (Url.readPath_join_iff some).mpr plain
    · intro forced
      rw [carried, path_toList, Url.queryOf_join plain, unqueried] at forced
      exact force_of_mem_params forced

theorem addresses_iff_deleteMirror :
    (Call.deleteMirror "debian-buster-main" false).Addresses true fun _ params => params.getD [] :=
  (addresses_iff true (fun _ params => params.getD []) (fun _ => rfl) _).mpr (by decide)

/-- The distribution of Debian's security suite takes two segments. -/
theorem not_addresses_of_nonempty :
    ¬ ∀ (resolving : Bool) (joining : Joining) (call : Call),
      (∀ params, joining none params = params.getD []) → (∀ text ∈ call.inserted, text ≠ "") →
        call.Addresses resolving joining := by
  intro always
  have addresses := always false (fun _ params => params.getD [])
    (.switchPublished "debian" "buster/updates" .empty ⟨none⟩) (fun _ => rfl) (by decide)
  exact absurd addresses.path (by decide)

end Call

/-- The methods that the job runner calls with a name in the URL. -/
def Request.call : Request → Option Call
  | .updateMirror spec => some (.updateMirror spec)
  | .deleteMirror name => some (.deleteMirror name false)
  | .createSnapshotFromMirror mirror name description =>
      some (.createSnapshotFromMirror mirror name description)
  | .deleteSnapshot name => some (.deleteSnapshot name false)
  | .switchPublished target distribution sources signing =>
      some (.switchPublished target distribution sources signing)
  | _ => none

/-- The job runner asks for no force, and with plain names it uses none. -/
theorem Request.unforced {resolving : Bool} {joining : Joining}
    (unqueried : ∀ params, joining none params = params.getD []) {request : Request} {call : Call}
    (calls : request.call = some call)
    (plain : ∀ text ∈ call.inserted, Url.Plain resolving text.toList) :
    ("force", "1") ∉ call.carried joining := by
  intro forced
  have asked := ((Call.addresses_iff resolving joining unqueried call).mpr plain).force forced
  cases request <;> simp [Request.call] at calls <;> subst calls <;> cases asked

end AptlyGui
