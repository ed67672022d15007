import AptlyGui.Library.Transition
import AptlyGui.World

/-!
# The cache of aptly's state

`StateCache` of `web/state.py`.  Its lock makes one call of `get` wait for the
other, so a call is one step.  What it keeps sums up all reads that have been
attempted so far: the state is the one of the last that succeeded, and it is
stale exactly when the last one failed.
-/

namespace AptlyGui

/-! ## The cache -/

/-- `AptlyState` with all its fields. -/
structure FetchedState extends AptlyState where
  fetchedAt : Time
  version : String := ""
  storage : Option Storage := none
  deriving DecidableEq, Repr

/-- `AptlyState(fetched_at=now)` -/
def FetchedState.empty (now : Time) : FetchedState where
  mirrors := []
  snapshots := []
  published := []
  fetchedAt := now

structure CachedState where
  state : FetchedState
  stale : Bool
  error : Option String
  deriving DecidableEq, Repr

/-- `age_seconds`, in microseconds. -/
def FetchedState.age (state : FetchedState) (now : Time) : Int := (now : Int) - state.fetchedAt

structure StateCache where
  refreshSeconds : Int
  cached : Option CachedState := none

/-- What `_read` gathers. -/
structure Answers where
  version : String
  storage : Storage
  mirrors : List Mirror
  snapshots : List Snapshot
  published : List Published
  deriving DecidableEq, Repr

/-- A call of `get`, with what it sees of the clock and of aptly. -/
structure CacheCall where
  force : Bool := false
  /-- the clock when the call begins -/
  now : Time
  /-- what `gather` returns or raises when it is awaited -/
  answers : Except Exn Answers
  /-- the clock when that is over -/
  later : Time

/-- `_read` -/
def CacheCall.read (call : CacheCall) : Except Exn FetchedState :=
  call.answers.map fun answers =>
    { fetchedAt := call.later
      version := answers.version
      storage := some answers.storage
      mirrors := answers.mirrors
      snapshots := answers.snapshots
      published := answers.published }

/-- What a call leaves behind and returns, and the read that it has attempted. -/
structure Got where
  cache : StateCache
  returned : Except Exn CachedState
  attempt : Option (Except Exn FetchedState)

namespace StateCache

/-- The second and third line of `fresh_enough`. -/
def freshEnough (self : StateCache) (now : Time) (cached : CachedState) : Bool :=
  !cached.stale && decide (cached.state.age now < self.refreshSeconds * 1000000)

/-- `self._cached = cached; return self._cached` -/
def keep (self : StateCache) (cached : CachedState) (attempt : Except Exn FetchedState) : Got where
  cache := { self with cached := some cached }
  returned := .ok cached
  attempt := some attempt

def get (self : StateCache) (call : CacheCall) : Got :=
  match if call.force then none else self.cached.filter (self.freshEnough call.now) with
  | some cached => { cache := self, returned := .ok cached, attempt := none }
  | none =>
      match call.read with
      | .ok state => self.keep { state := state, stale := false, error := none } (.ok state)
      | .error error =>
          if error.isException then
            match self.cached with
            | none =>
                self.keep
                  { state := .empty call.later, stale := true, error := some error.text }
                  (.error error)
            | some cached =>
                self.keep { state := cached.state, stale := true, error := some error.text }
                  (.error error)
          -- `CancelledError` is no `Exception`: nothing is assigned.
          else { cache := self, returned := .error error, attempt := some (.error error) }

end StateCache

/-! ## Histories -/

/-- A cache with the reads that its calls have attempted, the last one first. -/
structure CacheHistory where
  cache : StateCache
  reads : List (Except Exn FetchedState)

namespace CacheHistory

def start (refreshSeconds : Int) : CacheHistory := ⟨{ refreshSeconds := refreshSeconds }, []⟩

def called (history : CacheHistory) (call : CacheCall) : CacheHistory where
  cache := (history.cache.get call).cache
  reads := (history.cache.get call).attempt.toList ++ history.reads

/-- One call after another, whatever the clock and aptly do. -/
def system : Transition CacheHistory CacheCall where
  step history call := some (history.called call)

abbrev Reachable (refreshSeconds : Int) (history : CacheHistory) : Prop :=
  system.Reaches (fun _ _ => True) (start refreshSeconds) history

end CacheHistory

/-- A read that has not been cancelled. -/
def cameToEnd : Except Exn FetchedState → Bool
  | .ok _ => true
  | .error error => error.isException

/-- The state of the last read that succeeded. -/
def lastSuccess (reads : List (Except Exn FetchedState)) : Option FetchedState :=
  reads.findSome? Except.toOption

/-- What is returned sums up these reads, the last one first. -/
structure CachedState.SumsUp (cached : CachedState) (reads : List (Except Exn FetchedState)) :
    Prop where
  state : ∀ state, lastSuccess reads = some state → cached.state = state
  empty : lastSuccess reads = none → ∃ now, cached.state = .empty now
  stale : cached.stale = true ↔ ∃ error, reads.head? = some (.error error)
  error : cached.error.isSome = true ↔ cached.stale = true

namespace StateCache

variable {self : StateCache} {call : CacheCall}

/-- What a call can do. -/
inductive Gets (self : StateCache) (call : CacheCall) : Got → Prop where
  | fresh {cached : CachedState} (unforced : call.force = false) (known : self.cached = some cached)
      (fine : cached.stale = false)
      (young : cached.state.age call.now < self.refreshSeconds * 1000000) :
      Gets self call { cache := self, returned := .ok cached, attempt := none }
  | success {state : FetchedState} :
      Gets self call (self.keep { state := state, stale := false, error := none } (.ok state))
  | failure {state : FetchedState} {error : Exn} (failed : error.isException = true)
      (same : ∀ cached, self.cached = some cached → state = cached.state)
      (blank : self.cached = none → state = .empty call.later) :
      Gets self call
        (self.keep { state := state, stale := true, error := some error.text } (.error error))
  | cancelled {error : Exn} (cancelled : error.isException = false) :
      Gets self call { cache := self, returned := .error error, attempt := some (.error error) }

theorem get_spec : Gets self call (self.get call) := by
  unfold get
  split
  · rename_i cached found
    split at found
    · cases found
    · rename_i unforced
      obtain ⟨known, fresh⟩ := Option.filter_eq_some_iff.mp found
      simp only [freshEnough, Bool.and_eq_true, Bool.not_eq_true', decide_eq_true_eq] at fresh
      exact .fresh (by simpa using unforced) known fresh.1 fresh.2
  · split
    · exact .success
    · split
      · rename_i failed
        split
        · rename_i absent
          exact .failure failed (by simp [absent]) fun _ => rfl
        · rename_i cached known
          refine .failure failed (fun other same => ?_) (by simp [known])
          rw [known] at same
          cases same
          rfl
      · rename_i cancelled
        exact .cancelled (by simpa using cancelled)

/-- A call attempts no read exactly when the cache is fresh enough for it. -/
theorem attempt_eq_none_iff : (self.get call).attempt = none ↔
    call.force = false ∧ ∃ cached, self.cached = some cached ∧ cached.stale = false ∧
      cached.state.age call.now < self.refreshSeconds * 1000000 := by
  constructor
  · intro none
    have gets := @get_spec self call
    generalize self.get call = got at none gets
    cases gets with
    | fresh unforced known fine young => exact ⟨unforced, _, known, fine, young⟩
    | success => cases none
    | failure => cases none
    | cancelled => cases none
  · rintro ⟨unforced, cached, known, fine, young⟩
    have fresh : self.cached.filter (self.freshEnough call.now) = some cached := by
      rw [known, Option.filter_eq_some_iff]
      exact ⟨rfl, by simp [freshEnough, fine, young]⟩
    simp [get, unforced, fresh]

end StateCache

namespace CacheHistory

/-- The reads that have not been cancelled. -/
def ended (history : CacheHistory) : List (Except Exn FetchedState) := history.reads.filter cameToEnd

/-- Before the first read there is nothing, and from then on what is kept sums up the reads. -/
structure Told (refreshSeconds : Int) (history : CacheHistory) : Prop where
  refreshes : history.cache.refreshSeconds = refreshSeconds
  blank : history.cache.cached = none → history.ended = []
  known : ∀ cached, history.cache.cached = some cached →
    history.ended ≠ [] ∧ cached.SumsUp history.ended

variable {refreshSeconds : Int} {history : CacheHistory} {call : CacheCall}

theorem told_start : (start refreshSeconds).Told refreshSeconds :=
  ⟨rfl, fun _ => rfl, nofun⟩

/-- A state that has just been read. -/
theorem sumsUp_success {reads : List (Except Exn FetchedState)} {state : FetchedState} :
    CachedState.SumsUp { state := state, stale := false, error := none } (.ok state :: reads) := by
  refine ⟨fun other last => ?_, fun none => ?_, ?_, ?_⟩
  · cases last
    rfl
  · cases none
  · simp
  · simp

/-- The state of a failed read is the one before, or the empty one. -/
theorem Told.sumsUp_failure (told : history.Told refreshSeconds) {state : FetchedState} {error : Exn}
    (same : ∀ cached, history.cache.cached = some cached → state = cached.state)
    (blank : history.cache.cached = none → state = .empty call.later) :
    CachedState.SumsUp { state := state, stale := true, error := some error.text }
      (.error error :: history.ended) := by
  have last : lastSuccess (.error error :: history.ended) = lastSuccess history.ended := rfl
  refine ⟨fun other success => ?_, fun none => ?_, ?_, ?_⟩
  · rw [last] at success
    cases kept : history.cache.cached with
    | none =>
        rw [told.blank kept] at success
        cases success
    | some cached =>
        rw [same cached kept]
        exact (told.known cached kept).2.state other success
  · rw [last] at none
    cases kept : history.cache.cached with
    | none => exact ⟨call.later, blank kept⟩
    | some cached =>
        rw [same cached kept]
        exact (told.known cached kept).2.empty none
  · simp
  · simp

/-- What a call returns is what it keeps, and it sums up the reads. -/
theorem Told.returned (told : history.Told refreshSeconds) {cached : CachedState}
    (returned : (history.cache.get call).returned = .ok cached) :
    (history.cache.get call).cache.cached = some cached ∧ (history.called call).ended ≠ [] ∧
      cached.SumsUp (history.called call).ended := by
  unfold called ended
  have gets := @StateCache.get_spec history.cache call
  generalize history.cache.get call = got at returned gets
  cases gets with
  | fresh unforced known fine young =>
      cases returned
      exact ⟨known, told.known cached known⟩
  | success =>
      cases returned
      exact ⟨rfl, by simp [StateCache.keep, cameToEnd], sumsUp_success⟩
  | @failure state error failed same blank =>
      cases returned
      have sums : CachedState.SumsUp _ (.error error :: _) := told.sumsUp_failure same blank
      have kept : cameToEnd (.error error) = true := failed
      refine ⟨rfl, ?_⟩
      simp only [StateCache.keep, Option.toList_some, List.singleton_append,
        List.filter_cons_of_pos kept]
      exact ⟨List.cons_ne_nil _ _, sums⟩
  | cancelled => cases returned

/-- A call raises exactly when the read it attempts is cancelled. -/
theorem raises_iff {error : Exn} : (history.cache.get call).returned = .error error ↔
    error.isException = false ∧ (history.cache.get call).attempt = some (.error error) := by
  have gets := @StateCache.get_spec history.cache call
  generalize history.cache.get call = got at gets
  cases gets with
  | fresh => simp
  | success => simp [StateCache.keep]
  | @failure state other failed =>
      simp only [StateCache.keep, reduceCtorEq, Option.some.injEq, Except.error.injEq, false_iff]
      rintro ⟨cancelled, rfl⟩
      rw [failed] at cancelled
      cases cancelled
  | @cancelled other cancelled =>
      simp only [Except.error.injEq, Option.some.injEq]
      constructor
      · rintro rfl
        exact ⟨cancelled, rfl⟩
      · exact fun attempted => attempted.2

/-- Such a call leaves the cache as it was. -/
theorem cache_of_raised {error : Exn} (raised : (history.cache.get call).returned = .error error) :
    (history.cache.get call).cache = history.cache := by
  have gets := @StateCache.get_spec history.cache call
  generalize history.cache.get call = got at raised gets
  cases gets with
  | fresh => cases raised
  | success => cases raised
  | failure => cases raised
  | cancelled => rfl

theorem Told.called (told : history.Told refreshSeconds) :
    (history.called call).Told refreshSeconds := by
  cases result : (history.cache.get call).returned with
  | ok cached =>
      obtain ⟨known, some, sums⟩ := told.returned result
      refine ⟨?_, fun absent => ?_, fun other kept => ?_⟩
      · have gets := @StateCache.get_spec history.cache call
        rw [CacheHistory.called]
        generalize history.cache.get call = got at gets
        cases gets <;> exact told.refreshes
      · have absent : (history.cache.get call).cache.cached = none := absent
        rw [known] at absent
        cases absent
      · have kept : (history.cache.get call).cache.cached = Option.some other := kept
        rw [known] at kept
        cases kept
        exact ⟨some, sums⟩
  | error error =>
      obtain ⟨cancelled, attempt⟩ := raises_iff.mp result
      have unchanged : (history.called call).ended = history.ended := by
        have dropped : cameToEnd (.error error) = false := cancelled
        simp [ended, CacheHistory.called, attempt, dropped]
      have kept : (history.called call).cache = history.cache := cache_of_raised result
      refine ⟨?_, ?_, ?_⟩ <;> rw [kept]
      · exact told.refreshes
      · rw [unchanged]
        exact told.blank
      · rw [unchanged]
        exact told.known

theorem told_of_reachable (reached : Reachable refreshSeconds history) :
    history.Told refreshSeconds := by
  refine reached.invariant told_start ?_
  rintro before call after - called told
  cases called
  exact told.called

end CacheHistory

/-- An outage never blanks the state.  After any calls, whatever the clock and aptly did, a call
returns the state of the last read that succeeded, and the empty one only before the first; it is
stale exactly when the last read failed, with an error exactly then; no read is attempted exactly
when the call is not forced, the last one succeeded and its state is young enough.  Reads that are
cancelled do not count: their calls, and no others, raise, and they change nothing. -/
theorem outage_never_blanks {refreshSeconds : Int} {history : CacheHistory}
    (reached : CacheHistory.Reachable refreshSeconds history) (call : CacheCall) :
    (∀ cached, (history.cache.get call).returned = .ok cached →
      cached.SumsUp (history.called call).ended) ∧
    ((history.cache.get call).attempt = none ↔ call.force = false ∧
      ∃ state, history.ended.head? = some (.ok state) ∧
        state.age call.now < refreshSeconds * 1000000) ∧
    ∀ error, ((history.cache.get call).returned = .error error ↔ error.isException = false ∧
        (history.cache.get call).attempt = some (.error error)) ∧
      ((history.cache.get call).returned = .error error →
        (history.cache.get call).cache = history.cache) := by
  have told := CacheHistory.told_of_reachable reached
  refine ⟨fun cached returned => (told.returned returned).2.2, ?_,
    fun error => ⟨CacheHistory.raises_iff, CacheHistory.cache_of_raised⟩⟩
  rw [StateCache.attempt_eq_none_iff, told.refreshes]
  apply and_congr_right
  intro _
  constructor
  · rintro ⟨cached, known, fine, young⟩
    obtain ⟨some, sums⟩ := told.known cached known
    obtain ⟨last, earlier, reads⟩ := List.exists_cons_of_ne_nil some
    rw [reads] at sums ⊢
    cases last with
    | error error =>
        have stale := sums.stale.mpr ⟨error, rfl⟩
        rw [fine] at stale
        cases stale
    | ok state =>
        have same : cached.state = state := sums.state state rfl
        exact ⟨state, rfl, same ▸ young⟩
  · rintro ⟨state, last, young⟩
    cases kept : history.cache.cached with
    | none =>
        rw [told.blank kept] at last
        cases last
    | some cached =>
        obtain ⟨-, sums⟩ := told.known cached kept
        obtain ⟨earlier, reads⟩ := List.head?_eq_some_iff.mp last
        rw [reads] at sums
        have same : cached.state = state := sums.state state rfl
        refine ⟨cached, rfl, ?_, same ▸ young⟩
        by_contra stale
        obtain ⟨error, failed⟩ := sums.stale.mp (by simpa using stale)
        cases failed

namespace Sample

def answers : Answers where
  version := "1.6.1"
  storage := ⟨204800, 102400⟩
  mirrors := [⟨"stable-main", "http://deb.example.org/debian", "stable", ["main"], ["amd64"], none⟩]
  snapshots := []
  published := []

/-- Nobody answers. -/
def refused (now : Time) : CacheCall :=
  { now := now, answers := .error (.aptlyError "Connection refused"), later := now }

/-- Aptly has been read once. -/
def fetched : CacheHistory :=
  (CacheHistory.start 15).called { now := 0, answers := .ok answers, later := 0 }

/-- A forced read is cancelled at once. -/
def interrupted : CacheHistory :=
  fetched.called { force := true, now := 1, answers := .error .cancelled, later := 2 }

theorem fetched_reachable : CacheHistory.Reachable 15 fetched := .step .refl trivial rfl

end Sample

/-- A minute later aptly is gone, and the state that it had is still shown. -/
theorem outage_never_blanks_refused : ∃ cached,
    (Sample.fetched.cache.get (Sample.refused 60000000)).returned = .ok cached ∧
      cached.state.version = "1.6.1" ∧ cached.stale = true ∧
      cached.SumsUp (Sample.fetched.called (Sample.refused 60000000)).ended :=
  ⟨_, rfl, rfl, rfl, (outage_never_blanks Sample.fetched_reachable _).1 _ rfl⟩

/-- After a cancelled read the cache is as fresh as before. -/
theorem not_outage_never_blanks : ¬ ∀ (refreshSeconds : Int) (history : CacheHistory),
    CacheHistory.Reachable refreshSeconds history → ∀ call : CacheCall,
      (∀ cached, (history.cache.get call).returned = .ok cached →
        cached.SumsUp (history.called call).reads) ∧
      ((history.cache.get call).attempt = none ↔ call.force = false ∧
        ∃ state, history.reads.head? = some (.ok state) ∧
          state.age call.now < refreshSeconds * 1000000) := by
  intro claimed
  have reached : CacheHistory.Reachable 15 Sample.interrupted :=
    .step Sample.fetched_reachable trivial rfl
  obtain ⟨-, attempts⟩ := claimed 15 Sample.interrupted reached (Sample.refused 3)
  obtain ⟨-, state, last, -⟩ := attempts.mp rfl
  cases last

end AptlyGui
