import AptlyGui.Database.Model
import Mathlib.Data.List.Sort

/-!
# What a job is going to do

The pure helpers at the top of `services/jobs.py`: the order of the suites, how
many steps a job announces, the definition sent for one mirror, and the time
stamp in snapshot names.
-/

namespace AptlyGui

def suiteOrderHint : List String := ["", "-updates", "-security", "-backports"]

/-- `suite.endswith(marker)` -/
def endsWith (suite marker : String) : Bool := marker.toList.isSuffixOf suite.toList

/-- The index of the first marker the suite ends with, 0 for none. -/
def suiteRank (suite : String) : Nat :=
  ((suiteOrderHint.zipIdx.find? fun hint => hint.1 ≠ "" ∧ endsWith suite hint.1).map
    Prod.snd).getD 0

/-- The comparison of the sort keys `(rank, suite)`. -/
def suiteBefore (first second : String) : Prop :=
  suiteRank first < suiteRank second ∨ suiteRank first = suiteRank second ∧ first ≤ second

instance : DecidableRel suiteBefore := fun first second =>
  inferInstanceAs (Decidable (suiteRank first < suiteRank second ∨
    suiteRank first = suiteRank second ∧ first ≤ second))

/-- Base first, then updates, security, backports. -/
def orderSuites (suites : List String) : List String := suites.insertionSort suiteBefore

theorem orderSuites_perm (suites : List String) : (orderSuites suites).Perm suites :=
  List.perm_insertionSort suiteBefore suites

@[simp]
theorem mem_orderSuites {suites : List String} {suite : String} :
    suite ∈ orderSuites suites ↔ suite ∈ suites :=
  (orderSuites_perm suites).mem_iff

@[simp]
theorem length_orderSuites (suites : List String) :
    (orderSuites suites).length = suites.length :=
  (orderSuites_perm suites).length_eq

/-- How many steps the job will create; `none` is a job without a mirror set. -/
def expectedSteps (type : JobType) : Option MirrorSet → Nat
  | none => 1
  | some mirrorSet =>
      let mirrors := mirrorSet.suites.length * mirrorSet.components.length
      match type with
      | .create => mirrors
      | .update => 1 + mirrors * 2
      | .switch =>
          mirrorSet.suites.length +
            (if (mirrorSet.publicUrl.getD "") ≠ "" then 2 else 1)
      | _ => 1

/-- One delete per name, then the cleanup that frees the disk. -/
def discardSteps (count : Nat) : Nat := count + 1

def specFor (mirrorSet : MirrorSet) (suite component : String) : MirrorSpec where
  name := mirrorSet.mirrorName suite component
  archiveUrl := mirrorSet.archiveUrl
  distribution := suite
  components := [component]
  architectures := mirrorSet.architectures
  keyrings := mirrorSet.keyrings
  filter := mirrorSet.filter
  filterWithDeps := false
  downloadSources := false
  downloadUdebs := false
  ignoreSignatures := false

@[simp]
theorem specFor_name (mirrorSet : MirrorSet) (suite component : String) :
    (specFor mirrorSet suite component).name = mirrorSet.mirrorName suite component := rfl

/-! ## The time stamp -/

structure CivilDate where
  year : Nat
  month : Nat
  day : Nat
  deriving DecidableEq, Repr

/-- The Gregorian date of a day counted from 1970-01-01, by 400-year eras that begin in March. -/
def civilDate (days : Nat) : CivilDate :=
  let shifted := days + 719468
  let era := shifted / 146097
  let dayOfEra := shifted % 146097
  let yearOfEra := (dayOfEra - dayOfEra / 1460 + dayOfEra / 36524 - dayOfEra / 146096) / 365
  let dayOfYear := dayOfEra - (365 * yearOfEra + yearOfEra / 4 - yearOfEra / 100)
  let shiftedMonth := (5 * dayOfYear + 2) / 153
  let month := if shiftedMonth < 10 then shiftedMonth + 3 else shiftedMonth - 9
  { year := yearOfEra + era * 400 + (if month ≤ 2 then 1 else 0)
    month := month
    day := dayOfYear - (153 * shiftedMonth + 2) / 5 + 1 }

def zeroPadded (width value : Nat) : String :=
  let digits := toString value
  String.ofList (List.replicate (width - digits.length) '0') ++ digits

/-- `snapshot_stamp`: `strftime("%Y%m%dT%H%MZ")`, so accurate to the minute. -/
def snapshotStamp (moment : Time) : String :=
  let minutes := moment / 60000000
  let date := civilDate (minutes / 1440)
  zeroPadded 4 date.year ++ zeroPadded 2 date.month ++ zeroPadded 2 date.day ++ "T" ++
    zeroPadded 2 (minutes / 60 % 24) ++ zeroPadded 2 (minutes % 60) ++ "Z"

end AptlyGui
