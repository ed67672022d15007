import AptlyGui.Library.Cut
import AptlyGui.Services.Jobs.Plan

/-!
# What a time stamp tells

The digits of a number determine it and a calendar date determines the day, so
the stamp in a snapshot's name determines the minute in which it was made.  It
has no hyphen, so the name also determines the mirror.
-/

namespace AptlyGui

/-! ## Digits -/

theorem toList_zeroPadded (width value : Nat) : (zeroPadded width value).toList =
    List.replicate (width - (Nat.toDigits 10 value).length) '0' ++ Nat.toDigits 10 value := by
  simp [zeroPadded, String.length, Nat.toString_eq_repr]

/-- Leading zeros do not count. -/
theorem zeroPadded_injective (width : Nat) : Function.Injective (zeroPadded width) := by
  intro first second same
  have digits := congrArg (fun text => Nat.ofDigitChars 10 text.toList 0) same
  simpa [toList_zeroPadded, Nat.ofDigitChars_append] using digits

theorem length_twoDigits {value : Nat} (fits : value < 100) :
    (zeroPadded 2 value).toList.length = 2 := by
  have short := (@Nat.length_toDigits_le_iff 10 value 2 (by decide) (by decide)).mpr fits
  simp only [toList_zeroPadded, List.length_append, List.length_replicate]
  omega

theorem hyphen_notMem_zeroPadded (width value : Nat) : '-' ∉ (zeroPadded width value).toList := by
  intro listed
  rw [toList_zeroPadded] at listed
  rcases List.mem_append.mp listed with zero | digit
  · cases (List.mem_replicate.mp zero).2
  · have numeral := Nat.isDigit_of_mem_toDigits (by decide) (by decide) digit
    exact absurd numeral (by decide)

/-! ## The calendar -/

attribute [ext] CivilDate

/-- The year of a 400-year era in which a day of the era falls. -/
def yearOfEra (day : Nat) : Nat := (day - day / 1460 + day / 36524 - day / 146096) / 365

/-- The days of the era before that year. -/
def daysBefore (year : Nat) : Nat := 365 * year + year / 4 - year / 100

section Era

variable {day : Nat} (inEra : day < 146097)
include inEra

theorem yearOfEra_lt : yearOfEra day < 400 := by
  unfold yearOfEra
  omega

theorem century_eq : yearOfEra day / 100 = day / 36524 - day / 146096 := by
  unfold yearOfEra
  obtain first | second | third | fourth | last : day / 36524 = 0 ∨ day / 36524 = 1 ∨
      day / 36524 = 2 ∨ day / 36524 = 3 ∨ day / 36524 = 4 := by omega
  · omega
  · omega
  · omega
  · omega
  · omega

theorem leapYears_le : yearOfEra day / 4 ≤ day / 1460 := by
  unfold yearOfEra
  omega

theorem daysBefore_le : daysBefore (yearOfEra day) ≤ day := by
  have century := century_eq inEra
  have leaps := leapYears_le inEra
  have whole : 365 * yearOfEra day ≤ day - day / 1460 + day / 36524 - day / 146096 :=
    Nat.mul_div_le _ _
  unfold daysBefore
  omega

theorem dayOfYear_le : day - daysBefore (yearOfEra day) ≤ 366 := by
  have century := century_eq inEra
  have year := yearOfEra_lt inEra
  have rest : day - day / 1460 + day / 36524 - day / 146096 < 365 * (yearOfEra day + 1) :=
    Nat.lt_mul_div_succ _ (by decide)
  unfold daysBefore
  omega

end Era

/-- The month of a day of the year, which begins in March. -/
def monthOf (dayOfYear : Nat) : Nat :=
  let shifted := (5 * dayOfYear + 2) / 153
  if shifted < 10 then shifted + 3 else shifted - 9

def dayOfMonth (dayOfYear : Nat) : Nat :=
  dayOfYear - (153 * ((5 * dayOfYear + 2) / 153) + 2) / 5 + 1

theorem monthDay_inj {first second : Nat} (inFirst : first ≤ 366) (inSecond : second ≤ 366)
    (month : monthOf first = monthOf second) (day : dayOfMonth first = dayOfMonth second) :
    first = second := by
  simp only [monthOf] at month
  simp only [dayOfMonth] at day
  split at month <;> split at month <;> omega

theorem civilDate_eq (days : Nat) :
    let era := (days + 719468) / 146097
    let day := (days + 719468) % 146097
    let dayOfYear := day - daysBefore (yearOfEra day)
    civilDate days =
      { year := yearOfEra day + era * 400 + (if monthOf dayOfYear ≤ 2 then 1 else 0)
        month := monthOf dayOfYear
        day := dayOfMonth dayOfYear } := rfl

/-- Months and days have two digits. -/
theorem civilDate_lt (days : Nat) : (civilDate days).month < 100 ∧ (civilDate days).day < 100 := by
  have inEra : (days + 719468) % 146097 < 146097 := Nat.mod_lt _ (by decide)
  have ordinal := dayOfYear_le inEra
  simp only [civilDate_eq, monthOf, dayOfMonth]
  constructor
  · split <;> omega
  · omega

theorem civilDate_injective : Function.Injective civilDate := by
  intro first second same
  have inFirst : (first + 719468) % 146097 < 146097 := Nat.mod_lt _ (by decide)
  have inSecond : (second + 719468) % 146097 < 146097 := Nat.mod_lt _ (by decide)
  simp only [civilDate_eq, CivilDate.mk.injEq] at same
  obtain ⟨year, month, day⟩ := same
  have ordinal := monthDay_inj (dayOfYear_le inFirst) (dayOfYear_le inSecond) month day
  rw [month, Nat.add_right_cancel_iff] at year
  -- the years of an era are 0 to 399, so the era and the year in it are the same
  have early := yearOfEra_lt inFirst
  have late := yearOfEra_lt inSecond
  have years : yearOfEra ((first + 719468) % 146097) = yearOfEra ((second + 719468) % 146097) := by
    omega
  have startFirst := daysBefore_le inFirst
  have startSecond := daysBefore_le inSecond
  rw [years] at ordinal startFirst year
  omega

/-! ## The stamp -/

/-- The minute, counted from the epoch. -/
def minuteOf (moment : Time) : Nat := moment / 60000000

theorem snapshotStamp_eq (moment : Time) : (snapshotStamp moment).toList =
    (zeroPadded 4 (civilDate (minuteOf moment / 1440)).year).toList ++
      ((zeroPadded 2 (civilDate (minuteOf moment / 1440)).month).toList ++
      ((zeroPadded 2 (civilDate (minuteOf moment / 1440)).day).toList ++ ('T' ::
      ((zeroPadded 2 (minuteOf moment / 60 % 24)).toList ++
      ((zeroPadded 2 (minuteOf moment % 60)).toList ++ ['Z']))))) := by
  simp [snapshotStamp, minuteOf]

theorem hyphen_notMem_snapshotStamp (moment : Time) : '-' ∉ (snapshotStamp moment).toList := by
  simp [snapshotStamp_eq, hyphen_notMem_zeroPadded]

/-- The stamp is accurate to the minute. -/
theorem snapshotStamp_inj {first second : Time} :
    snapshotStamp first = snapshotStamp second ↔ minuteOf first = minuteOf second := by
  constructor
  · intro same
    have two : ∀ {value other : Nat}, value < 100 → other < 100 →
        (zeroPadded 2 value).toList.length = (zeroPadded 2 other).toList.length := by
      intro value other small tiny
      rw [length_twoDigits small, length_twoDigits tiny]
    have hours := two (Nat.lt_trans (Nat.mod_lt (minuteOf first / 60) (by decide : 24 > 0)) (by decide))
      (Nat.lt_trans (Nat.mod_lt (minuteOf second / 60) (by decide : 24 > 0)) (by decide))
    have minutes := two (Nat.lt_trans (Nat.mod_lt (minuteOf first) (by decide : 60 > 0)) (by decide))
      (Nat.lt_trans (Nat.mod_lt (minuteOf second) (by decide : 60 > 0)) (by decide))
    have first' := civilDate_lt (minuteOf first / 1440)
    have second' := civilDate_lt (minuteOf second / 1440)
    have lists := congrArg String.toList same
    rw [snapshotStamp_eq, snapshotStamp_eq] at lists
    obtain ⟨year, lists⟩ := List.append_inj' lists
      (by simp [two first'.1 second'.1, two first'.2 second'.2, hours, minutes])
    obtain ⟨month, lists⟩ := List.append_inj lists (two first'.1 second'.1)
    obtain ⟨day, lists⟩ := List.append_inj lists (two first'.2 second'.2)
    obtain ⟨hour, lists⟩ := List.append_inj (List.cons.inj lists).2 hours
    obtain ⟨minute, -⟩ := List.append_inj lists minutes
    have sameHour := zeroPadded_injective 2 (String.toList_inj.mp hour)
    have sameMinute := zeroPadded_injective 2 (String.toList_inj.mp minute)
    have date : civilDate (minuteOf first / 1440) = civilDate (minuteOf second / 1440) :=
      CivilDate.ext (zeroPadded_injective 4 (String.toList_inj.mp year))
        (zeroPadded_injective 2 (String.toList_inj.mp month))
        (zeroPadded_injective 2 (String.toList_inj.mp day))
    have sameDay := civilDate_injective date
    omega
  · intro same
    simp only [minuteOf] at same
    simp only [snapshotStamp, same]

/-- A snapshot's name tells its mirror and the minute of its stamp. -/
theorem stamped_inj {mirror other : String} {first second : Time} :
    s!"{mirror}-{snapshotStamp first}" = s!"{other}-{snapshotStamp second}" ↔
      mirror = other ∧ minuteOf first = minuteOf second := by
  rw [← snapshotStamp_inj]
  constructor
  · intro same
    have lists : mirror.toList ++ '-' :: (snapshotStamp first).toList =
        other.toList ++ '-' :: (snapshotStamp second).toList := by
      have lists := congrArg String.toList same
      simp only [String.toList_append, List.append_assoc] at lists
      exact lists
    obtain ⟨mirrors, stamps⟩ := List.append_cons_inj (hyphen_notMem_snapshotStamp first)
      (hyphen_notMem_snapshotStamp second) lists
    exact ⟨String.toList_inj.mp mirrors, String.toList_inj.mp stamps⟩
  · rintro ⟨rfl, stamp⟩
    rw [stamp]

end AptlyGui
