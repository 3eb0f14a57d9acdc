/- source: rtc.rs, sys_time/src/lib.rs
   digest: Reading the real time clock while it runs, in each of its data formats. -/

import Mathlib.Algebra.Ring.Nat
import Mathlib.Logic.Function.Iterate

set_option autoImplicit false

namespace MigTd.SysTime.Rtc

def leap (year : Nat) : Bool := year % 4 = 0 ∧ (year % 100 ≠ 0 ∨ year % 400 = 0)

def monthDays (year month : Nat) : Nat :=
  if month = 2 then (if leap year then 29 else 28)
  else if month ∈ [4, 6, 9, 11] then 30 else 31

structure Day where
  year : Nat
  month : Nat
  day : Nat

def Day.next (d : Day) : Day :=
  if d.day < monthDays d.year d.month then { d with day := d.day + 1 }
  else if d.month < 12 then ⟨d.year, d.month + 1, 1⟩
  else ⟨d.year + 1, 1, 1⟩

/-- The day a number of days after the first of January 2000. -/
def date (days : Nat) : Day := Day.next^[days] ⟨2000, 1, 1⟩

structure DateTime where
  second : UInt8
  minute : UInt8
  hour : UInt8
  day : UInt8
  month : UInt8
  year : UInt16
  deriving DecidableEq

/-- The date and time a number of seconds after the start of the year 2000. -/
def dateTime (time : Nat) : DateTime where
  second := .ofNat (time % 60)
  minute := .ofNat (time / 60 % 60)
  hour := .ofNat (time / 3600 % 24)
  day := .ofNat (date (time / 86400)).day
  month := .ofNat (date (time / 86400)).month
  year := .ofNat (date (time / 86400)).year

def unixTime (time : Nat) : Int := 946684800 + time

/-- What the `time` crate makes of a date and time; for those of this century it is the Unix
time. -/
def Calendar (unixTimestamp : DateTime → Option Int) : Prop :=
  ∀ time, (date (time / 86400)).year < 2100 → unixTimestamp (dateTime time) = some (unixTime time)

inductive Register
  | second | minute | hour | day | month | year

def isBinaryMode (statusB : UInt8) : Bool := 0 < statusB &&& 4

def is24HourFormat (statusB : UInt8) : Bool := 0 < statusB &&& 2

def encode (binary : Bool) (value : Nat) : UInt8 :=
  .ofNat (if binary then value else value / 10 * 16 + value % 10)

/-- In the 12-hour format the hours are 12, 1, ..., 11, and bit 7 stands for the afternoon. -/
def encodeHour (binary twentyFour : Bool) (hour : Nat) : UInt8 :=
  if twentyFour then encode binary hour
  else encode binary (if hour % 12 = 0 then 12 else hour % 12) ||| if 12 ≤ hour then 0x80 else 0

def Register.shown (statusB : UInt8) (time : Nat) : Register → UInt8
  | .second => encode (isBinaryMode statusB) (time % 60)
  | .minute => encode (isBinaryMode statusB) (time / 60 % 60)
  | .hour => encodeHour (isBinaryMode statusB) (is24HourFormat statusB) (time / 3600 % 24)
  | .day => encode (isBinaryMode statusB) (date (time / 86400)).day
  | .month => encode (isBinaryMode statusB) (date (time / 86400)).month
  | .year => encode (isBinaryMode statusB) ((date (time / 86400)).year - 2000)

/-- A running clock, seen at the numbered register accesses: at phase `2 * t` its registers show
the time `t`, and at phase `2 * t + 1` it is being updated from `t` to `t + 1`. -/
structure Clock (statusB : UInt8) where
  phase : Nat → Nat
  statusA : Nat → UInt8
  value : Nat → Register → UInt8
  advances : ∀ n, phase n ≤ phase (n + 1)
  /-- The flag is set while an update is in progress, when the registers hold anything. -/
  flagged : ∀ n, phase n % 2 = 1 → 0 < statusA n &&& 0x80
  steady : ∀ n time r, phase n = 2 * time → value n r = r.shown statusB time

/-- The accesses of one attempt meet at most one update. -/
def Clock.Slow {statusB : UInt8} (c : Clock statusB) : Prop :=
  ∀ n, c.phase (n + 13) ≤ c.phase n + 2

/-- Before this access the clock shows no year behind 2099. -/
def Clock.InCentury {statusB : UInt8} (c : Clock statusB) (stop : Nat) : Prop :=
  ∀ n < stop, ∀ time, c.phase n = 2 * time → (date (time / 86400)).year < 2100

def bcdToBinary (bcd : UInt8) : UInt8 := (bcd &&& 0xF) + bcd / 16 * 10

def datetimeValue (binary : Bool) (value : UInt8) : UInt8 :=
  if binary then value else bcdToBinary value

def hourValue (binary twentyFour : Bool) (value : UInt8) : UInt8 :=
  let hour := if binary then value
    else ((value &&& 0xF) + (value &&& 0x7F) / 16 * 10) ||| (value &&& 0x80)
  if twentyFour = false ∧ hour &&& 0x80 ≠ 0 then ((hour &&& 0x7F) + 12) % 24 else hour

section

variable {statusB : UInt8} (c : Clock statusB)

def readDatetimeRegister (r : Register) (n : Nat) : UInt8 :=
  datetimeValue (isBinaryMode statusB) (c.value n r)

def readDateTime (n : Nat) : DateTime where
  year := 2000 + (readDatetimeRegister c .year n).toUInt16
  month := readDatetimeRegister c .month (n + 1)
  day := readDatetimeRegister c .day (n + 2)
  minute := readDatetimeRegister c .minute (n + 3)
  second := readDatetimeRegister c .second (n + 4)
  hour := hourValue (isBinaryMode statusB) (is24HourFormat statusB) (c.value (n + 5) .hour)

/-- The number of the access after the one that shows the flag clear. -/
def waitReady : Nat → Nat → Option Nat
  | 0, _ => none
  | fuel + 1, n => if 0 < c.statusA n &&& 0x80 then waitReady fuel (n + 1) else some (n + 1)

/-- The answer and the number of the next access; no answer means that the fuel is used up while
the program waits for the flag. -/
def readRtcFrom (fuel : Nat) : Nat → Nat → Option (Option DateTime × Nat)
  | 0, n => some (none, n)
  | retries + 1, start => do
    let n ← waitReady c fuel start
    if 0 < c.statusA (n + 6) &&& 0x80 then readRtcFrom fuel retries (n + 7)
    else if readDateTime c n = readDateTime c (n + 7) then
      return (some (readDateTime c n), n + 13)
    else readRtcFrom fuel retries (n + 13)

def readRtc (fuel start : Nat) : Option (Option DateTime × Nat) := readRtcFrom c fuel 500 start

def getSysTime (unixTimestamp : DateTime → Option Int) (fuel start : Nat) : Option (Option Int) :=
  (readRtc c fuel start).map fun read => read.1.bind unixTimestamp

end

/-! Dates are numbered without gaps. -/

structure Day.Valid (d : Day) : Prop where
  year : 2000 ≤ d.year
  month : 1 ≤ d.month ∧ d.month ≤ 12
  day : 1 ≤ d.day ∧ d.day ≤ monthDays d.year d.month

theorem monthDays_bounds (year month : Nat) :
    1 ≤ monthDays year month ∧ monthDays year month ≤ 31 := by
  unfold monthDays
  split_ifs <;> omega

theorem Day.Valid.next {d : Day} (h : d.Valid) : d.next.Valid := by
  obtain ⟨hyear, hmonth, hday⟩ := h
  have first := (monthDays_bounds d.year (d.month + 1)).1
  unfold Day.next
  split_ifs with inside december
  · exact ⟨hyear, hmonth, by dsimp only; omega, inside⟩
  · exact ⟨hyear, by dsimp only; omega, Nat.le_refl 1, first⟩
  · exact ⟨Nat.le_succ_of_le hyear, by dsimp only; omega, Nat.le_refl 1, (monthDays_bounds _ _).1⟩

theorem date_valid (days : Nat) : (date days).Valid := by
  induction days with
  | zero => exact ⟨by decide, by decide, by decide⟩
  | succ days ih =>
    rw [show date (days + 1) = (date days).next from Function.iterate_succ_apply' ..]
    exact ih.next

theorem Calendar.injective {unixTimestamp : DateTime → Option Int} (calendar : Calendar unixTimestamp)
    {time time' : Nat} (h : (date (time / 86400)).year < 2100)
    (h' : (date (time' / 86400)).year < 2100) (same : dateTime time = dateTime time') :
    time = time' := by
  have stamp := calendar time h
  rw [same, calendar time' h', Option.some.injEq, unixTime, unixTime] at stamp
  omega

/-- The moment of the same day that is twelve hours away. -/
def twelveAway (time : Nat) : Nat :=
  if time % 86400 < 43200 then time + 43200 else time - 43200

/-- The time the program takes for the one the clock shows: without the 24-hour format it takes
the hours after midnight and after noon for each other. -/
def taken (statusB : UInt8) (time : Nat) : Nat :=
  if is24HourFormat statusB ∨ time / 3600 % 12 ≠ 0 then time else twelveAway time

theorem datetimeValue_encode (binary : Bool) :
    ∀ value < 100, datetimeValue binary (encode binary value) = .ofNat value := by
  cases binary <;> decide +kernel

theorem year_offset : ∀ k < 100, 2000 + (UInt8.ofNat k).toUInt16 = .ofNat (2000 + k) := by
  decide +kernel

theorem hourValue_encodeHour (binary twentyFour : Bool) : ∀ hour < 24,
    hourValue binary twentyFour (encodeHour binary twentyFour hour) =
      .ofNat (if twentyFour ∨ hour % 12 ≠ 0 then hour else (hour + 12) % 24) := by
  cases binary <;> cases twentyFour <;> decide +kernel

section

variable {statusB : UInt8} (c : Clock statusB)

theorem taken_parts (statusB : UInt8) (time : Nat) :
    taken statusB time % 60 = time % 60 ∧ taken statusB time / 60 % 60 = time / 60 % 60 ∧
      taken statusB time / 86400 = time / 86400 ∧
      taken statusB time / 3600 % 24 =
        if is24HourFormat statusB ∨ time / 3600 % 24 % 12 ≠ 0 then time / 3600 % 24
        else (time / 3600 % 24 + 12) % 24 := by
  unfold taken twelveAway
  have hour : time / 3600 % 24 % 12 = time / 3600 % 12 := by omega
  rw [hour]
  split_ifs <;> omega

theorem readDateTime_steady {n time : Nat} (early : (date (time / 86400)).year < 2100)
    (h : ∀ i < 6, c.phase (n + i) = 2 * time) :
    readDateTime c n = dateTime (taken statusB time) := by
  obtain ⟨seconds, minutes, days, hours⟩ := taken_parts statusB time
  obtain ⟨year, month, day⟩ := date_valid (time / 86400)
  have bounds := monthDays_bounds (date (time / 86400)).year (date (time / 86400)).month
  have value (i : Nat) (hi : i < 6) (r : Register) (v : Nat) (hv : v < 100)
      (shown : r.shown statusB time = encode (isBinaryMode statusB) v) :
      readDatetimeRegister c r (n + i) = .ofNat v := by
    rw [readDatetimeRegister, c.steady _ _ _ (h i hi), shown, datetimeValue_encode _ v hv]
  have years := value 0 (by decide) .year _ (by omega) rfl
  have hour := c.steady _ _ .hour (h 5 (by decide))
  have offset := year_offset ((date (time / 86400)).year - 2000) (by omega)
  rw [Nat.add_sub_of_le year, ← years] at offset
  rw [readDateTime, dateTime, seconds, minutes, days, hours, hour, Register.shown,
    hourValue_encodeHour _ _ _ (Nat.mod_lt _ (by decide)),
    value 1 (by decide) .month _ (by omega) rfl, value 2 (by decide) .day _ (by omega) rfl,
    value 3 (by decide) .minute _ (by omega) rfl, value 4 (by decide) .second _ (by omega) rfl]
  congr 1

theorem phase_mono {n k : Nat} (h : n ≤ k) : c.phase n ≤ c.phase k := by
  induction h with
  | refl => exact Nat.le_refl _
  | step _ ih => exact Nat.le_trans ih (c.advances _)

theorem phase_even {n : Nat} (clear : ¬ 0 < c.statusA n &&& 0x80) :
    ∃ time, c.phase n = 2 * time := by
  refine ⟨c.phase n / 2, ?_⟩
  have even : ¬ c.phase n % 2 = 1 := fun odd => clear (c.flagged n odd)
  omega

theorem waitReady_clear {fuel start n : Nat} (h : waitReady c fuel start = some n) :
    ∃ k, start ≤ k ∧ n = k + 1 ∧ ¬ 0 < c.statusA k &&& 0x80 := by
  induction fuel generalizing start with
  | zero => cases h
  | succ fuel ih =>
    unfold waitReady at h
    split_ifs at h with busy
    · obtain ⟨k, later, rest⟩ := ih h
      exact ⟨k, by omega, rest⟩
    · cases h
      exact ⟨start, Nat.le_refl _, rfl, busy⟩

/-- The clock shows this time at an access of the call. -/
def Met (start stop time : Nat) : Prop := ∃ k, start ≤ k ∧ k < stop ∧ c.phase k = 2 * time

theorem equal_readings (slow : c.Slow) {k : Nat} (century : c.InCentury (k + 14)) (first : ¬ 0 < c.statusA k &&& 0x80)
    (second : ¬ 0 < c.statusA (k + 7) &&& 0x80)
    (equal : readDateTime c (k + 1) = readDateTime c (k + 8)) :
    ∃ time, Met c k (k + 14) time ∧ readDateTime c (k + 1) = dateTime (taken statusB time) := by
  obtain ⟨time, before⟩ := phase_even c first
  obtain ⟨time', between⟩ := phase_even c second
  have single := slow k
  have order := phase_mono c (show k ≤ k + 7 by omega)
  have bound := phase_mono c (show k + 7 ≤ k + 13 by omega)
  by_cases same : time' = time
  · refine ⟨time, ⟨k, Nat.le_refl _, by omega, before⟩,
      readDateTime_steady c (century k (by omega) time before) fun i hi => ?_⟩
    have lower := phase_mono c (show k ≤ k + 1 + i by omega)
    have upper := phase_mono c (show k + 1 + i ≤ k + 7 by omega)
    omega
  · refine ⟨time', ⟨k + 7, by omega, by omega, between⟩, ?_⟩
    rw [equal]
    refine readDateTime_steady c (century (k + 7) (by omega) time' between) fun i hi => ?_
    have lower := phase_mono c (show k + 7 ≤ k + 8 + i by omega)
    have upper := phase_mono c (show k + 8 + i ≤ k + 13 by omega)
    omega

theorem readRtcFrom_met (slow : c.Slow) {fuel retries start stop : Nat} (century : c.InCentury stop)
    {v : DateTime} (h : readRtcFrom c fuel retries start = some (some v, stop)) :
    ∃ time, Met c start stop time ∧ v = dateTime (taken statusB time) := by
  induction retries generalizing start with
  | zero => cases h
  | succ retries ih =>
    have widen {start' : Nat} (later : start ≤ start') :
        (∃ time, Met c start' stop time ∧ v = dateTime (taken statusB time)) →
          ∃ time, Met c start stop time ∧ v = dateTime (taken statusB time) := by
      rintro ⟨time, ⟨k, low, met⟩, shown⟩
      exact ⟨time, ⟨k, by omega, met⟩, shown⟩
    unfold readRtcFrom at h
    obtain ⟨n, ready, h⟩ := Option.bind_eq_some_iff.mp h
    obtain ⟨k, low, rfl, clear⟩ := waitReady_clear c ready
    split_ifs at h with busy equal
    · exact widen (by omega) (ih h)
    · cases h
      obtain ⟨time, met, shown⟩ := equal_readings c slow century clear busy equal
      exact widen low ⟨time, met, shown⟩
    · exact widen (by omega) (ih h)

variable {unixTimestamp : DateTime → Option Int} (calendar : Calendar unixTimestamp)
  (slow : c.Slow)

include calendar slow

/-- A value that `read_rtc` returns is the true date and time at some moment of the call, and
`get_sys_time` its Unix time, exactly when the clock shows 24 hours, or the moment that was read
is not in the hour after midnight or noon, or the call also met the moment twelve hours away. -/
theorem rtc_reading_iff (fuel start stop : Nat) (century : c.InCentury stop) (v : DateTime)
    (h : readRtc c fuel start = some (some v, stop)) :
    ∃ time, Met c start stop time ∧ v = dateTime (taken statusB time) ∧
      ((∃ moment, Met c start stop moment ∧ v = dateTime moment ∧
          getSysTime c unixTimestamp fuel start = some (some (unixTime moment))) ↔
        is24HourFormat statusB = true ∨ time / 3600 % 12 ≠ 0 ∨
          Met c start stop (twelveAway time)) := by
  obtain ⟨time, met, rfl⟩ := readRtcFrom_met c slow century h
  have range {moment : Nat} (hm : Met c start stop moment) :
      (date (moment / 86400)).year < 2100 := by
    obtain ⟨k, -, upper, shown⟩ := hm
    exact century k upper moment shown
  have day : (date (taken statusB time / 86400)).year < 2100 := by
    rw [(taken_parts statusB time).2.2.1]
    exact range met
  have stamp : getSysTime c unixTimestamp fuel start =
      some (some (unixTime (taken statusB time))) := by
    rw [getSysTime, h, ← calendar _ day]
    rfl
  refine ⟨time, met, rfl, ?_⟩
  have moved : (∃ moment, Met c start stop moment ∧ dateTime (taken statusB time) =
      dateTime moment ∧ getSysTime c unixTimestamp fuel start = some (some (unixTime moment))) ↔
      Met c start stop (taken statusB time) := by
    constructor
    · rintro ⟨moment, hm, same, -⟩
      rwa [calendar.injective day (range hm) same]
    · exact fun hm => ⟨_, hm, rfl, stamp⟩
  rw [moved, taken]
  split_ifs with right
  · exact ⟨fun _ => right.imp_right .inl, fun _ => met⟩
  · obtain ⟨twelve, hour⟩ := not_or.mp right
    refine ⟨fun hm => .inr (.inr hm), ?_⟩
    rintro (h24 | away | hm)
    · exact absurd h24 twelve
    · exact absurd away hour
    · exact hm

theorem getSysTime_met {fuel start stop : Nat} (century : c.InCentury stop) {v : DateTime}
    (h24 : is24HourFormat statusB = true) (h : readRtc c fuel start = some (some v, stop)) :
    ∃ time, Met c start stop time ∧
      getSysTime c unixTimestamp fuel start = some (some (unixTime time)) := by
  obtain ⟨time, met, rfl⟩ := readRtcFrom_met c slow century h
  refine ⟨time, met, ?_⟩
  obtain ⟨k, -, upper, shown⟩ := met
  rw [taken, if_pos (.inl h24)] at h
  rw [getSysTime, h, ← calendar _ (century k upper time shown)]
  rfl

/-- With a clock in the 24-hour format that is updated at most once in an attempt and shows no year
behind 2099, the system time does not run backwards from one call to a later one, wherever the
updates of the clock fall. -/
theorem sys_time_monotone (h24 : is24HourFormat statusB = true)
    (fuel fuel' start stop start' stop' : Nat) (v v' : DateTime) (century : c.InCentury stop')
    (first : readRtc c fuel start = some (some v, stop)) (later : stop ≤ start')
    (second : readRtc c fuel' start' = some (some v', stop')) :
    ∃ t t', getSysTime c unixTimestamp fuel start = some (some t) ∧
      getSysTime c unixTimestamp fuel' start' = some (some t') ∧ t ≤ t' := by
  have end' : start' ≤ stop' := by
    obtain ⟨_, ⟨k, low, high, -⟩, -⟩ := readRtcFrom_met c slow century second
    omega
  have century' : c.InCentury stop := fun n hn => century n (by omega)
  obtain ⟨time, ⟨k, -, upper, shown⟩, stamp⟩ := getSysTime_met c calendar slow century' h24 first
  obtain ⟨time', ⟨k', lower, -, shown'⟩, stamp'⟩ :=
    getSysTime_met c calendar slow century h24 second
  have order := phase_mono c (show k ≤ k' by omega)
  refine ⟨_, _, stamp, stamp', ?_⟩
  unfold unixTime
  omega

end

/-! A calendar and a clock of this kind. -/

def daysToYear (year : Nat) : Nat :=
  ((List.range (year - 1970)).map fun k => if leap (1970 + k) then 366 else 365).sum

def daysToMonth (year month : Nat) : Nat :=
  ((List.range (month - 1)).map fun k => monthDays year (k + 1)).sum

def Day.unix (d : Day) : Nat := daysToYear d.year + daysToMonth d.year d.month + (d.day - 1)

/-- The Unix time of a date whose parts are in range. -/
def gregorian (v : DateTime) : Option Int :=
  let d : Day := ⟨v.year.toNat, v.month.toNat, v.day.toNat⟩
  if 1 ≤ d.month ∧ d.month ≤ 12 ∧ 1 ≤ d.day ∧ d.day ≤ monthDays d.year d.month ∧
      v.hour.toNat < 24 ∧ v.minute.toNat < 60 ∧ v.second.toNat < 60 then
    some (d.unix * 86400 + v.hour.toNat * 3600 + v.minute.toNat * 60 + v.second.toNat)
  else none

theorem daysToYear_succ {year : Nat} (h : 1970 ≤ year) :
    daysToYear (year + 1) = daysToYear year + if leap year then 366 else 365 := by
  have count : year + 1 - 1970 = (year - 1970) + 1 := by omega
  have last : 1970 + (year - 1970) = year := by omega
  simp [daysToYear, count, List.range_succ, last]

private theorem daysToMonth_succ (year : Nat) {month : Nat} (h : 1 ≤ month) :
    daysToMonth year (month + 1) = daysToMonth year month + monthDays year month := by
  obtain ⟨k, rfl⟩ := Nat.exists_eq_add_of_le' h
  simp [daysToMonth, List.range_succ]

private theorem daysToMonth_december (year : Nat) :
    daysToMonth year 12 + 31 = if leap year then 366 else 365 := by
  cases hleap : leap year <;> simp [daysToMonth, monthDays, hleap, List.range_succ]

theorem Day.Valid.unix_next {d : Day} (h : d.Valid) : d.next.unix = d.unix + 1 := by
  obtain ⟨hyear, hmonth, hday⟩ := h
  unfold Day.next
  split_ifs with inside december
  · simp only [Day.unix]
    omega
  · have last : d.day = monthDays d.year d.month := by omega
    simp only [Day.unix, daysToMonth_succ d.year hmonth.1]
    omega
  · have month : d.month = 12 := by omega
    have last : d.day = 31 := by
      rw [month] at hday inside
      have : monthDays d.year 12 = 31 := rfl
      omega
    have first : daysToMonth (d.year + 1) 1 = 0 := rfl
    have total := daysToMonth_december d.year
    simp only [Day.unix, daysToYear_succ (show 1970 ≤ d.year by omega), first, month, last]
    omega

private theorem date_unix (days : Nat) : (date days).unix = 10957 + days := by
  induction days with
  | zero => decide
  | succ days ih =>
    rw [show date (days + 1) = (date days).next from Function.iterate_succ_apply' ..,
      (date_valid days).unix_next, ih]
    rfl

theorem gregorian_calendar : Calendar gregorian := by
  intro time h
  obtain ⟨-, month, day⟩ := date_valid (time / 86400)
  have days := date_unix (time / 86400)
  have bounds := monthDays_bounds (date (time / 86400)).year (date (time / 86400)).month
  have small (k : Nat) (hk : k < 256) : (UInt8.ofNat k).toNat = k := UInt8.toNat_ofNat_of_lt' hk
  have hyear : (UInt16.ofNat (date (time / 86400)).year).toNat = (date (time / 86400)).year :=
    UInt16.toNat_ofNat_of_lt' (Nat.lt_trans h (by decide))
  simp only [gregorian, dateTime, hyear, small (date (time / 86400)).month (by omega),
    small (date (time / 86400)).day (by omega), small (time / 3600 % 24) (by omega),
    small (time / 60 % 60) (by omega), small (time % 60) (by omega), days]
  rw [if_pos (by omega)]
  rw [unixTime]
  congr 1
  omega

/-- A clock that is updated at every fortieth access, from the start of the year 2000 on. -/
def ticking (statusB : UInt8) : Clock statusB where
  phase := fun n => 2 * (n / 40) + if n % 40 = 39 then 1 else 0
  statusA := fun n => if n % 40 = 39 then 0x80 else 0
  value := fun n r => if n % 40 = 39 then 0xFF else r.shown statusB (n / 40)
  advances := fun n => by split_ifs <;> omega
  flagged := fun n odd => by
    rw [if_pos (by split_ifs at odd <;> omega)]
    decide
  steady := fun n time r shown => by
    have still : ¬ n % 40 = 39 := by
      intro last
      rw [if_pos last] at shown
      omega
    rw [if_neg still] at shown ⊢
    rw [show time = n / 40 by omega]

theorem ticking_slow (statusB : UInt8) : (ticking statusB).Slow := by
  intro n
  show 2 * ((n + 13) / 40) + _ ≤ 2 * (n / 40) + _ + 2
  split_ifs <;> omega

theorem ticking_inCentury (statusB : UInt8) {stop : Nat} (h : stop ≤ 40 * 86400) :
    (ticking statusB).InCentury stop := by
  intro n hn time shown
  have early : time / 86400 = 0 := by
    have : 2 * (n / 40) + _ = 2 * time := shown
    split_ifs at this <;> omega
  rw [early]
  decide

/-- A call that meets an update in its first attempt. -/
theorem rtc_reading_new_year : ∃ time, Met (ticking 6) 30 58 time ∧
      dateTime 1 = dateTime (taken 6 time) ∧
      ((∃ moment, Met (ticking 6) 30 58 moment ∧ dateTime 1 = dateTime moment ∧
          getSysTime (ticking 6) gregorian 1 30 = some (some (unixTime moment))) ↔
        is24HourFormat 6 = true ∨ time / 3600 % 12 ≠ 0 ∨
          Met (ticking 6) 30 58 (twelveAway time)) :=
  rtc_reading_iff (ticking 6) gregorian_calendar (ticking_slow 6) 1 30 58
    (ticking_inCentury 6 (by decide)) (dateTime 1) (by decide +kernel)

theorem sys_time_monotone_new_year :
    (getSysTime (ticking 6) gregorian 1 30 = some (some 946684801) ∧
      getSysTime (ticking 6) gregorian 1 90 = some (some 946684802)) ∧
    ∃ t t', getSysTime (ticking 6) gregorian 1 30 = some (some t) ∧
      getSysTime (ticking 6) gregorian 1 90 = some (some t') ∧ t ≤ t' :=
  ⟨by decide +kernel, sys_time_monotone (ticking 6) gregorian_calendar (ticking_slow 6) rfl 1 1 30 58
    90 104 (dateTime 1) (dateTime 2) (ticking_inCentury 6 (by decide)) (by decide +kernel)
    (by decide) (by decide +kernel)⟩

/-- In the 12-hour format midnight is read as noon. -/
theorem rtc_reading_midnight : readRtc (ticking 0) 1 0 = some (some ⟨0, 0, 12, 1, 1, 2000⟩, 14) ∧
      getSysTime (ticking 0) gregorian 1 0 = some (some 946728000) ∧
      ∀ moment, Met (ticking 0) 0 14 moment →
        dateTime moment = ⟨0, 0, 0, 1, 1, 2000⟩ ∧ unixTime moment = 946684800 := by
  refine ⟨by decide +kernel, by decide +kernel, ?_⟩
  rintro moment ⟨n, -, upper, shown⟩
  obtain rfl : moment = 0 := by
    have : 2 * (n / 40) + _ = 2 * moment := shown
    split_ifs at this <;> omega
  decide +kernel

end MigTd.SysTime.Rtc
