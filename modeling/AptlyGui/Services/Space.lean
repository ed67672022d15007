import AptlyGui.Aptly.Model

/-!
# Room on the disk

`services/space.py`.  Python's `//` rounds towards minus infinity, as `Int`
division by a positive number does here.
-/

namespace AptlyGui

def gib : Int := 1024

/-- How much of the disk a sync must leave alone. -/
structure Margin where
  gigabytes : Int
  percent : Int
  deriving DecidableEq, Repr

def Margin.requiredFreeMb (margin : Margin) (totalMb : Int) : Int :=
  max (margin.gigabytes * gib) (totalMb * margin.percent / 100)

structure Verdict where
  ok : Bool
  freeMb : Int
  requiredMb : Int
  neededMb : Option Int
  deriving DecidableEq, Repr

def Verdict.shortfallMb (verdict : Verdict) : Int :=
  max 0 (verdict.requiredMb + verdict.neededMb.getD 0 - verdict.freeMb)

/-- `space.check` -/
def checkSpace (storage : Storage) (margin : Margin) (downloadMb : Option Int) : Verdict :=
  let required := margin.requiredFreeMb storage.totalMb
  let needed := downloadMb.getD 0
  { ok := storage.freeMb ≥ required + needed
    freeMb := storage.freeMb
    requiredMb := required
    neededMb := downloadMb }

/-! ## The margin in bytes -/

def mebibyte : Int := 1048576

/-- What the disk holds beyond the margin, in MiB. -/
def Margin.spareMb (margin : Margin) (storage : Storage) : Int :=
  storage.freeMb - margin.requiredFreeMb storage.totalMb

/-- Finishing the download leaves at least the margin. -/
def Margin.Kept (margin : Margin) (storage : Storage) (remainingBytes : Int) : Prop :=
  storage.freeMb * mebibyte ≥
    margin.requiredFreeMb storage.totalMb * mebibyte + max 0 remainingBytes

/-- What rounding a size down to whole MiB lets through: the last, broken MiB of a download that
otherwise just fits, and a margin already undercut by no more than a negative size. -/
def Margin.RoundedAway (margin : Margin) (storage : Storage) (remainingBytes : Int) : Prop :=
  0 < remainingBytes % mebibyte ∧ 0 < remainingBytes ∧
      margin.spareMb storage = remainingBytes / mebibyte ∨
    remainingBytes / mebibyte ≤ margin.spareMb storage ∧ margin.spareMb storage < 0

instance (margin : Margin) (storage : Storage) (remainingBytes : Int) :
    Decidable (margin.Kept storage remainingBytes) :=
  inferInstanceAs (Decidable (_ ≥ _))

theorem checkSpace_ok_iff {storage : Storage} {margin : Margin} {downloadMb : Int} :
    (checkSpace storage margin (some downloadMb)).ok = true ↔
      downloadMb ≤ margin.spareMb storage := by
  simp only [checkSpace, Margin.spareMb, Option.getD_some, decide_eq_true_eq]
  omega

/-- The check in whole MiB keeps the margin unless something was rounded away. -/
theorem kept_of_ok_iff {storage : Storage} {margin : Margin} {remainingBytes : Int} :
    ((checkSpace storage margin (some (remainingBytes / mebibyte))).ok = true →
        margin.Kept storage remainingBytes) ↔
      ¬ margin.RoundedAway storage remainingBytes := by
  rw [checkSpace_ok_iff]
  simp only [Margin.Kept, Margin.RoundedAway, Margin.spareMb, mebibyte]
  by_cases positive : 0 < remainingBytes
  · rw [Int.max_eq_right (Int.le_of_lt positive)]
    omega
  · rw [Int.max_eq_left (Int.not_lt.mp positive)]
    omega

end AptlyGui
