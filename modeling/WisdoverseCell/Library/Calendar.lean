import Mathlib.Order.Monotone.Basic

/-!
# The proleptic Gregorian calendar

Days are numbered from 1 for 0001-01-01.  `ordinalToYmd` splits the day number into cycles of 400, 100, 4 and 1 years;
from the round trip `ordinalToYmd_spec` the first day of the month and of the quarter are monotone in the day.
-/

namespace WisdoverseCell.Calendar

variable {y m m' o y' o' : Nat}

def isLeap (y : Nat) : Bool := y % 4 == 0 && (y % 100 != 0 || y % 400 == 0)

def daysBeforeYear (y : Nat) : Nat := (y - 1) * 365 + (y - 1) / 4 - (y - 1) / 100 + (y - 1) / 400

def daysBeforeMonthCommon (m : Nat) : Nat := [0, 0, 31, 59, 90, 120, 151, 181, 212, 243, 273, 304, 334].getD m 365

/-- The number of days in year `y` before the first day of month `m`; month 13 is the end of the year. -/
def daysBeforeMonth (y m : Nat) : Nat := daysBeforeMonthCommon m + if 2 < m ∧ isLeap y = true then 1 else 0

def ymdToOrdinal (y m d : Nat) : Nat := daysBeforeYear y + daysBeforeMonth y m + d

/-- The year and the day within the year, counted from 0, of day number `n + 1`. -/
def yearOfDay (n : Nat) : Nat × Nat :=
  let n400 := n / 146097
  let r400 := n % 146097
  let n100 := r400 / 36524
  let r100 := r400 % 36524
  let n4 := r100 / 1461
  let r4 := r100 % 1461
  let n1 := r4 / 365
  let r1 := r4 % 365
  let y := n400 * 400 + n100 * 100 + n4 * 4 + n1 + 1
  -- the last day of a cycle of 4 or 400 years starts no new year
  if n1 = 4 ∨ n100 = 4 then (y - 1, 365) else (y, r1)

def monthOfDay (y n : Nat) : Nat :=
  ((List.range 12).filter (fun i => daysBeforeMonth y (i + 1) ≤ n)).length

def ordinalToYmd (o : Nat) : Nat × Nat × Nat :=
  let (y, n) := yearOfDay (o - 1)
  let m := monthOfDay y n
  (y, m, n - daysBeforeMonth y m + 1)

theorem daysBeforeYear_succ (y) (hy : 1 ≤ y) :
    daysBeforeYear (y + 1) = daysBeforeYear y + 365 + if isLeap y = true then 1 else 0 := by
  obtain ⟨z, rfl⟩ : ∃ z, y = z + 1 := ⟨y - 1, by omega⟩
  have hle : z / 100 ≤ z / 4 := Nat.div_le_div_left (by omega) (by omega)
  have h100 : 100 ∣ z + 1 → 4 ∣ z + 1 := fun h => Nat.dvd_trans (by decide) h
  have h400 : 400 ∣ z + 1 → 100 ∣ z + 1 := fun h => Nat.dvd_trans (by decide) h
  simp only [daysBeforeYear, isLeap, Nat.add_sub_cancel, Nat.succ_div, Bool.and_eq_true, beq_iff_eq,
    Bool.or_eq_true, bne_iff_ne, ne_eq, ← Nat.dvd_iff_mod_eq_zero]
  by_cases d4 : 4 ∣ z + 1 <;> by_cases d100 : 100 ∣ z + 1 <;> by_cases d400 : 400 ∣ z + 1 <;>
    simp_all only [if_true, if_false, and_self, not_true, not_false_iff, or_true, or_false, and_true,
      and_false, imp_false, forall_true_left] <;> omega

private theorem daysBeforeYear_cycles (a b c d) (hb : b ≤ 3) (hc : c ≤ 24) (hd : d ≤ 3) :
    daysBeforeYear (a * 400 + b * 100 + c * 4 + d + 1) = a * 146097 + b * 36524 + c * 1461 + d * 365 := by
  unfold daysBeforeYear
  omega

private theorem isLeap_cycles (a b c d) (hb : b ≤ 3) (hc : c ≤ 24) (hd : d ≤ 3) :
    isLeap (a * 400 + b * 100 + c * 4 + d + 1) = true ↔ d = 3 ∧ (c ≠ 24 ∨ b = 3) := by
  simp only [isLeap, Bool.and_eq_true, beq_iff_eq, Bool.or_eq_true, bne_iff_ne]
  omega

/-- Day `n` (from 0) lies in the year `yearOfDay n`, on the day of that year it says. -/
theorem yearOfDay_spec (n) : 1 ≤ (yearOfDay n).1 ∧ daysBeforeYear (yearOfDay n).1 + (yearOfDay n).2 = n ∧
      (yearOfDay n).2 < 365 + if isLeap (yearOfDay n).1 = true then 1 else 0 := by
  obtain ⟨a, ha⟩ : ∃ a, n / 146097 = a := ⟨_, rfl⟩
  obtain ⟨b, hb⟩ : ∃ b, n % 146097 / 36524 = b := ⟨_, rfl⟩
  obtain ⟨c, hc⟩ : ∃ c, n % 146097 % 36524 / 1461 = c := ⟨_, rfl⟩
  obtain ⟨d, hd⟩ : ∃ d, n % 146097 % 36524 % 1461 / 365 = d := ⟨_, rfl⟩
  simp only [yearOfDay, ha, hb, hc, hd]
  by_cases h100 : b = 4
  · -- the last day of a 400-year cycle
    have hy : a * 400 + b * 100 + c * 4 + d + 1 - 1 = a * 400 + 3 * 100 + 24 * 4 + 3 + 1 := by omega
    simp only [h100, or_true, ↓reduceIte] at hy ⊢
    rw [hy, daysBeforeYear_cycles a 3 24 3 (by omega) (by omega) (by omega),
      (isLeap_cycles a 3 24 3 (by omega) (by omega) (by omega)).2 ⟨rfl, .inr rfl⟩]
    simp only [↓reduceIte]
    omega
  · by_cases h1 : d = 4
    · -- the last day of a 4-year cycle
      have hl := (isLeap_cycles a b c 3 (by omega) (by omega) (by omega)).2 ⟨rfl, by omega⟩
      have hy : a * 400 + b * 100 + c * 4 + d + 1 - 1 = a * 400 + b * 100 + c * 4 + 3 + 1 := by omega
      simp only [h1, true_or, ↓reduceIte] at hy ⊢
      rw [hy, daysBeforeYear_cycles a b c 3 (by omega) (by omega) (by omega), hl]
      simp only [↓reduceIte]
      omega
    · simp only [h1, h100, or_self, ↓reduceIte]
      rw [daysBeforeYear_cycles a b c d (by omega) (by omega) (by omega)]
      refine ⟨by omega, by omega, ?_⟩
      split <;> omega

/-! ### The month of a day of a year -/

private def dbm (leap : Bool) (m : Nat) : Nat := daysBeforeMonthCommon m + if 2 < m ∧ leap = true then 1 else 0

private theorem month_table : ∀ leap : Bool, ∀ n < 366, n < 365 + (if leap = true then 1 else 0) →
    (fun m => 1 ≤ m ∧ m ≤ 12 ∧ dbm leap m ≤ n ∧ n < dbm leap (m + 1))
      ((List.range 12).filter (fun i => dbm leap (i + 1) ≤ n)).length := by
  decide +kernel

theorem monthOfDay_spec {n} (h : n < 365 + if isLeap y = true then 1 else 0) :
    1 ≤ monthOfDay y n ∧ monthOfDay y n ≤ 12 ∧ daysBeforeMonth y (monthOfDay y n) ≤ n ∧
      n < daysBeforeMonth y (monthOfDay y n + 1) :=
  month_table (isLeap y) n (by split at h <;> omega) h

private theorem dbm_step : ∀ leap : Bool, ∀ m < 13, dbm leap m ≤ dbm leap (m + 1) := by decide +kernel

theorem daysBeforeMonth_mono (y) (h : m ≤ m') (hm' : m' ≤ 13) : daysBeforeMonth y m ≤ daysBeforeMonth y m' := by
  induction m', h using Nat.le_induction with
  | base => exact Nat.le_refl _
  | succ k hk ih => exact Nat.le_trans (ih (by omega)) (dbm_step (isLeap y) k (by omega))

theorem daysBeforeMonth_thirteen (y) : daysBeforeMonth y 13 = 365 + if isLeap y = true then 1 else 0 := by
  simp [daysBeforeMonth, daysBeforeMonthCommon]

/-! ### The round trip and its consequences -/

theorem ordinalToYmd_spec {d} (ho : 1 ≤ o) (h : ordinalToYmd o = (y, m, d)) :
    ymdToOrdinal y m d = o ∧ 1 ≤ y ∧ 1 ≤ m ∧ m ≤ 12 ∧ 1 ≤ d ∧ o ≤ daysBeforeYear y + daysBeforeMonth y (m + 1) := by
  obtain ⟨hy, hn, hlt⟩ := yearOfDay_spec (o - 1)
  obtain ⟨h1, h12, hle, hub⟩ := monthOfDay_spec hlt
  simp only [ordinalToYmd, Prod.mk.injEq] at h
  obtain ⟨rfl, rfl, rfl⟩ := h
  unfold ymdToOrdinal
  refine ⟨by omega, hy, h1, h12, by omega, by omega⟩

theorem daysBeforeYear_mono (hy : 1 ≤ y) (h : y ≤ y') : daysBeforeYear y ≤ daysBeforeYear y' := by
  induction y', h using Nat.le_induction with
  | base => exact Nat.le_refl _
  | succ k =>
    have := daysBeforeYear_succ k (by omega)
    omega

private theorem month_end_le (hy' : 1 ≤ y') (hm' : m' ≤ 12) (hm : m ≤ 12) (h1 : 1 ≤ m)
    (h : y' < y ∨ (y' = y ∧ m' < m)) :
    daysBeforeYear y' + daysBeforeMonth y' (m' + 1) ≤ daysBeforeYear y + daysBeforeMonth y m := by
  rcases h with h | ⟨rfl, h⟩
  · have hy := daysBeforeYear_mono (by omega) h
    have hs := daysBeforeYear_succ y' hy'
    have he := daysBeforeMonth_mono y' (show m' + 1 ≤ 13 by omega) (Nat.le_refl 13)
    rw [daysBeforeMonth_thirteen] at he
    change daysBeforeYear (y' + 1) ≤ _ at hy
    omega
  · have := daysBeforeMonth_mono y' (show m' + 1 ≤ m by omega) (by omega)
    omega

theorem month_le_of_le {d d'} (ho : 1 ≤ o) (hoo : o ≤ o') (h : ordinalToYmd o = (y, m, d))
    (h' : ordinalToYmd o' = (y', m', d')) : y < y' ∨ (y = y' ∧ m ≤ m') := by
  obtain ⟨he, hy, h1, h12, hd, -⟩ := ordinalToYmd_spec ho h
  obtain ⟨he', hy', h1', h12', hd', hub'⟩ := ordinalToYmd_spec (by omega) h'
  unfold ymdToOrdinal at he he'
  by_contra hlt
  have := month_end_le hy' h12' h12 h1 (show y' < y ∨ (y' = y ∧ m' < m) by omega)
  omega

def monthStart (o : Nat) : Nat :=
  let (y, m, _) := ordinalToYmd o
  ymdToOrdinal y m 1

def quarterStart (o : Nat) : Nat :=
  let (y, m, _) := ordinalToYmd o
  ymdToOrdinal y ((m - 1) / 3 * 3 + 1) 1

private theorem ymdToOrdinal_first_mono (hy : 1 ≤ y) (hm : m ≤ 12) (hm' : m' ≤ 12) (h1' : 1 ≤ m')
    (h : y < y' ∨ (y = y' ∧ m ≤ m')) : ymdToOrdinal y m 1 ≤ ymdToOrdinal y' m' 1 := by
  unfold ymdToOrdinal
  by_cases heq : y = y' ∧ m = m'
  · rw [heq.1, heq.2]
  · have he := month_end_le (y := y') (m := m') hy hm hm' h1' (by omega)
    have := daysBeforeMonth_mono y (show m ≤ m + 1 by omega) (by omega)
    omega

theorem monthStart_mono (ho : 1 ≤ o) (h : o ≤ o') : monthStart o ≤ monthStart o' := by
  rcases hc : ordinalToYmd o with ⟨y, m, d⟩
  rcases hc' : ordinalToYmd o' with ⟨y', m', d'⟩
  obtain ⟨-, hy, -, h12, -⟩ := ordinalToYmd_spec ho hc
  obtain ⟨-, -, h1', h12', -⟩ := ordinalToYmd_spec (by omega) hc'
  simp only [monthStart, hc, hc']
  exact ymdToOrdinal_first_mono hy h12 h12' h1' (month_le_of_le ho h hc hc')

theorem quarterStart_mono (ho : 1 ≤ o) (h : o ≤ o') : quarterStart o ≤ quarterStart o' := by
  rcases hc : ordinalToYmd o with ⟨y, m, d⟩
  rcases hc' : ordinalToYmd o' with ⟨y', m', d'⟩
  obtain ⟨-, hy, -, h12, -⟩ := ordinalToYmd_spec ho hc
  obtain ⟨-, -, h1', h12', -⟩ := ordinalToYmd_spec (by omega) hc'
  have hle := month_le_of_le ho h hc hc'
  simp only [quarterStart, hc, hc']
  exact ymdToOrdinal_first_mono hy (by omega) (by omega) (by omega) (by omega)

-- 2024-02-29 and 1970-01-01
example : ordinalToYmd 738945 = (2024, 2, 29) ∧ ymdToOrdinal 1970 1 1 = 719163 := by decide +kernel

end WisdoverseCell.Calendar
