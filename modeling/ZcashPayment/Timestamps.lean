import ZcashPayment.FixedWidth
import ZcashPayment.Schema

/-!
Instants and the text they are stored as.

The text of an instant has a fixed width up to its seconds. Then comes the fraction, with as
many digits as it needs and none for a whole second, and `Z`. Two texts compare like their
instants, but for two in the same second of which one fraction is written as the beginning of
the other: there the shorter text is the greater one.
-/

namespace ZcashPayment

open FixedWidth

def isLeap (year : ℕ) : Bool := year % 4 = 0 && year % 100 ≠ 0 || year % 400 = 0

def daysInYear (year : ℕ) : ℕ := if isLeap year then 366 else 365

def daysInMonth (year month : ℕ) : ℕ :=
  if month = 2 then if isLeap year then 29 else 28
  else if month = 4 ∨ month = 6 ∨ month = 9 ∨ month = 11 then 30
  else 31

/-- A UTC instant of the years 0000 to 9999, to the nanosecond. -/
structure Instant where
  year : ℕ
  month : ℕ
  day : ℕ
  hour : ℕ
  minute : ℕ
  second : ℕ
  nanosecond : ℕ
  year_lt : year < 10000
  month_mem : 1 ≤ month ∧ month ≤ 12
  day_mem : 1 ≤ day ∧ day ≤ daysInMonth year month
  hour_lt : hour < 24
  minute_lt : minute < 60
  second_lt : second < 60
  nanosecond_lt : nanosecond < 1000000000
  deriving DecidableEq

namespace Instant

variable {i j : Instant} {u v : List Char}

/-! ### Time -/

/-- The days of the year before this one. -/
def dayOfYear (i : Instant) : ℕ :=
  accumulate (fun m => daysInMonth i.year (m + 1)) (i.month - 1) + (i.day - 1)

/-- The days since the first of January of the year 0000. -/
def days (i : Instant) : ℕ := accumulate daysInYear i.year + i.dayOfYear

def secondOfDay (i : Instant) : ℕ := (i.hour * 60 + i.minute) * 60 + i.second

def toSeconds (i : Instant) : ℕ := i.days * 86400 + i.secondOfDay

/-- The time that has passed since the year 0000 began, in nanoseconds. -/
def toNanos (i : Instant) : ℕ := i.toSeconds * 1000000000 + i.nanosecond

instance : LT Instant := ⟨fun i j => i.toNanos < j.toNanos⟩

instance : LE Instant := ⟨fun i j => i.toNanos ≤ j.toNanos⟩

instance : DecidableLT Instant := fun i j => inferInstanceAs (Decidable (i.toNanos < j.toNanos))

instance : DecidableLE Instant := fun i j => inferInstanceAs (Decidable (i.toNanos ≤ j.toNanos))

lemma lt_def : i < j ↔ i.toNanos < j.toNanos := Iff.rfl

lemma le_def : i ≤ j ↔ i.toNanos ≤ j.toNanos := Iff.rfl

/-- The months fill the year. -/
lemma accumulate_months (year : ℕ) :
    accumulate (fun m => daysInMonth year (m + 1)) 12 = daysInYear year := by
  simp only [accumulate, daysInMonth, daysInYear]
  by_cases h : isLeap year = true <;> simp [h]

lemma dayOfYear_lt (i : Instant) : i.dayOfYear < daysInYear i.year := by
  have hday := i.day_mem
  have hmonth := i.month_mem
  have hlt : i.day - 1 < daysInMonth i.year (i.month - 1 + 1) := by
    rw [Nat.sub_add_cancel hmonth.1]
    omega
  have hle := accumulate_add_le (fun m => daysInMonth i.year (m + 1))
    (show i.month - 1 < 12 by omega)
  rw [accumulate_months] at hle
  unfold dayOfYear
  omega

lemma secondOfDay_lt (i : Instant) : i.secondOfDay < 86400 := by
  have := i.hour_lt
  have := i.minute_lt
  have := i.second_lt
  unfold secondOfDay
  omega

lemma dayOfYear_lt_iff (h : i.year = j.year) :
    i.dayOfYear < j.dayOfYear ↔ i.month < j.month ∨ i.month = j.month ∧ i.day < j.day := by
  have hi := i.day_mem
  have hj := j.day_mem
  have hmi := i.month_mem
  have hmj := j.month_mem
  unfold dayOfYear
  rw [h] at hi ⊢
  rw [accumulate_lt_iff]
  · omega
  · rw [Nat.sub_add_cancel hmi.1]
    omega
  · rw [Nat.sub_add_cancel hmj.1]
    omega

/-- **Days in order.** -/
lemma days_lt_iff : i.days < j.days ↔ i.year < j.year ∨
    i.year = j.year ∧ (i.month < j.month ∨ i.month = j.month ∧ i.day < j.day) := by
  rw [days, days, accumulate_lt_iff i.dayOfYear_lt j.dayOfYear_lt]
  refine or_congr_right (and_congr_right fun h => dayOfYear_lt_iff h)

lemma days_eq_iff : i.days = j.days ↔ i.year = j.year ∧ i.month = j.month ∧ i.day = j.day := by
  have h := days_lt_iff (i := i) (j := j)
  have h' := days_lt_iff (i := j) (j := i)
  omega

/-- **Seconds in order.** -/
lemma toSeconds_lt_iff : i.toSeconds < j.toSeconds ↔
    i.days < j.days ∨ i.days = j.days ∧ (i.hour < j.hour ∨ i.hour = j.hour ∧
      (i.minute < j.minute ∨ i.minute = j.minute ∧ i.second < j.second)) := by
  rw [toSeconds, toSeconds, radix_lt_iff i.secondOfDay_lt j.secondOfDay_lt, secondOfDay,
    secondOfDay, radix_lt_iff i.second_lt j.second_lt, radix_lt_iff i.minute_lt j.minute_lt,
    radix_eq_iff i.minute_lt j.minute_lt]
  simp only [and_or_left, and_assoc, or_assoc]

lemma toSeconds_eq_iff : i.toSeconds = j.toSeconds ↔ i.days = j.days ∧ i.hour = j.hour ∧
    i.minute = j.minute ∧ i.second = j.second := by
  rw [toSeconds, toSeconds, radix_eq_iff i.secondOfDay_lt j.secondOfDay_lt, secondOfDay,
    secondOfDay, radix_eq_iff i.second_lt j.second_lt, radix_eq_iff i.minute_lt j.minute_lt]
  tauto

/-- **Instants in order.** -/
lemma toNanos_lt_iff : i.toNanos < j.toNanos ↔
    i.toSeconds < j.toSeconds ∨ i.toSeconds = j.toSeconds ∧ i.nanosecond < j.nanosecond :=
  radix_lt_iff i.nanosecond_lt j.nanosecond_lt

/-! ### Later instants -/

/-- The days of the years 0000 to 9999. -/
lemma accumulate_years : accumulate daysInYear 10000 = 3652425 := by decide +kernel

/-- The seconds of the years 0000 to 9999. -/
def endOfTime : ℕ := 3652425 * 86400

lemma days_lt_of_seconds_lt {seconds : ℕ} (h : seconds < endOfTime) :
    seconds / 86400 < accumulate daysInYear 10000 := by
  rw [accumulate_years]
  unfold endOfTime at h
  omega

/-- The instant so many seconds after the year 0000 began. -/
def ofSeconds (seconds nanosecond : ℕ) (h : seconds < endOfTime)
    (hn : nanosecond < 1000000000) : Instant :=
  let year := locate daysInYear 10000 0 (seconds / 86400)
  have hyear := locate_zero_spec daysInYear (days_lt_of_seconds_lt h)
  let month := locate (fun m => daysInMonth year.1 (m + 1)) 12 0 year.2
  have hmonth := locate_zero_spec (fun m => daysInMonth year.1 (m + 1))
    (hyear.2.1.trans_eq (accumulate_months year.1).symm)
  { year := year.1
    month := month.1 + 1
    day := month.2 + 1
    hour := seconds % 86400 / 3600
    minute := seconds % 3600 / 60
    second := seconds % 60
    nanosecond
    year_lt := hyear.2.2
    month_mem := ⟨Nat.succ_pos _, hmonth.2.2⟩
    day_mem := ⟨Nat.succ_pos _, hmonth.2.1⟩
    hour_lt := by omega
    minute_lt := by omega
    second_lt := by omega
    nanosecond_lt := hn }

lemma toNanos_ofSeconds {seconds nanosecond : ℕ} (h : seconds < endOfTime)
    (hn : nanosecond < 1000000000) :
    (ofSeconds seconds nanosecond h hn).toNanos = seconds * 1000000000 + nanosecond := by
  have hyear := locate_zero_spec daysInYear (days_lt_of_seconds_lt h)
  have hmonth := locate_zero_spec
    (fun m => daysInMonth (locate daysInYear 10000 0 (seconds / 86400)).1 (m + 1))
    (hyear.2.1.trans_eq (accumulate_months _).symm)
  have hdays : (ofSeconds seconds nanosecond h hn).days = seconds / 86400 := by
    rw [days, dayOfYear]
    exact (congrArg _ hmonth.1).trans hyear.1
  have hofDay : (ofSeconds seconds nanosecond h hn).secondOfDay = seconds % 86400 := by
    change (seconds % 86400 / 3600 * 60 + seconds % 3600 / 60) * 60 + seconds % 60 = _
    omega
  rw [toNanos, toSeconds, hdays, hofDay]
  change _ + nanosecond = _
  omega

/-- `checked_add` of a whole number of seconds. -/
def addSeconds (i : Instant) (delay : ℕ) : Option Instant :=
  if h : i.toSeconds + delay < endOfTime then
    some (ofSeconds (i.toSeconds + delay) i.nanosecond h i.nanosecond_lt)
  else none

lemma addSeconds_toNanos {delay : ℕ} (h : i.addSeconds delay = some j) :
    j.toNanos = i.toNanos + delay * 1000000000 := by
  unfold addSeconds at h
  split_ifs at h
  cases h
  rw [toNanos_ofSeconds, toNanos]
  omega

lemma addSeconds_isSome {delay : ℕ} :
    (i.addSeconds delay).isSome = true ↔ i.toSeconds + delay < endOfTime := by
  unfold addSeconds
  split_ifs with h <;> simp [h]

/-! ### Text -/

/-- The fields up to the seconds, and a tail. -/
def dateTimeText (i : Instant) (tail : List Char) : List Char :=
  digitChars 4 i.year ++ '-' :: (digitChars 2 i.month ++ '-' :: (digitChars 2 i.day ++ 'T' ::
    (digitChars 2 i.hour ++ ':' :: (digitChars 2 i.minute ++ ':' ::
      (digitChars 2 i.second ++ tail)))))

/-- The nine digits of the nanoseconds. -/
def fraction (i : Instant) : List Char := digitChars 9 i.nanosecond

/-- The text the `Rfc3339` formatter prints. -/
def rfc3339 (i : Instant) : Timestamp := String.ofList (i.dateTimeText (fractionText i.fraction))

/-- One of the instants is in the other's second, with a fraction that is written as the
beginning of the other's; a whole second has the empty fraction. -/
def Clash (i j : Instant) : Prop :=
  i.toSeconds = j.toSeconds ∧ FixedWidth.Clash i.fraction j.fraction

instance (i j : Instant) : Decidable (Clash i j) := inferInstanceAs (Decidable (_ ∧ _))

lemma Clash.symm (h : Clash i j) : Clash j i := ⟨h.1.symm, h.2.symm⟩

lemma dateTimeText_lt_iff : i.dateTimeText u < j.dateTimeText v ↔
    i.toSeconds < j.toSeconds ∨ i.toSeconds = j.toSeconds ∧ u < v := by
  have hday : ∀ k : Instant, k.day < 10 ^ 2 := fun k => by
    have h := k.day_mem.2
    unfold daysInMonth at h
    split_ifs at h <;> omega
  have hmonth : ∀ k : Instant, k.month < 10 ^ 2 := fun k => by
    have := k.month_mem
    omega
  have hhour : ∀ k : Instant, k.hour < 10 ^ 2 := fun k => by
    have := k.hour_lt
    omega
  have hminute : ∀ k : Instant, k.minute < 10 ^ 2 := fun k => by
    have := k.minute_lt
    omega
  have hsecond : ∀ k : Instant, k.second < 10 ^ 2 := fun k => by
    have := k.second_lt
    omega
  rw [dateTimeText, dateTimeText, field_lt_iff i.year_lt j.year_lt, cons_lt_cons_self,
    field_lt_iff (hmonth i) (hmonth j), cons_lt_cons_self, field_lt_iff (hday i) (hday j),
    cons_lt_cons_self, field_lt_iff (hhour i) (hhour j), cons_lt_cons_self,
    field_lt_iff (hminute i) (hminute j), cons_lt_cons_self,
    field_lt_iff (hsecond i) (hsecond j), toSeconds_lt_iff, toSeconds_eq_iff, days_lt_iff,
    days_eq_iff]
  simp only [and_or_left, and_assoc, or_assoc]

/-- **Texts in order**: in the order of the instants, but for two that clash. -/
theorem rfc3339_lt_iff : i.rfc3339 < j.rfc3339 ↔ if Clash i j then j < i else i < j := by
  have hbounds : ∀ k : Instant, ∀ c ∈ k.fraction, '0' ≤ c ∧ c ≤ '9' :=
    fun k c hc => bounds_of_mem_digitChars hc
  have hlen : i.fraction.length = j.fraction.length := by simp [fraction]
  have hnum : ∀ k l : Instant, k.fraction < l.fraction ↔ k.nanosecond < l.nanosecond :=
    fun k l => by
      rw [fraction, fraction, (digitChars_order 9 _ _).1,
        Nat.mod_eq_of_lt (show k.nanosecond < 10 ^ 9 from k.nanosecond_lt),
        Nat.mod_eq_of_lt (show l.nanosecond < 10 ^ 9 from l.nanosecond_lt)]
  rw [String.lt_iff, rfc3339, rfc3339, String.toList_ofList, String.toList_ofList,
    dateTimeText_lt_iff, fractionText_lt_iff (hbounds i) (hbounds j) hlen, hnum, hnum, lt_def,
    lt_def, toNanos_lt_iff, toNanos_lt_iff]
  by_cases hs : i.toSeconds = j.toSeconds
  · simp [Clash, hs]
  · simp [Clash, hs]

end Instant

end ZcashPayment
