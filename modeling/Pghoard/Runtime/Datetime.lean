import Mathlib.Data.Nat.Defs
import Mathlib.Tactic.SplitIfs
import Mathlib.Order.Basic

/-!
# `datetime` values, as the object-store code reads them

The restore-side object store handles timestamps in two places, and both read a
`datetime.datetime` through CPython's own methods:

* `request_backup_preservation` builds the request name from `str(preserve_until)`,
  that is `isoformat(sep=' ')`;
* `print_basebackup_list` turns an aware start time into naive UTC with
  `astimezone(datetime.timezone.utc).replace(tzinfo=None)` and prints
  `isoformat()[:19] + "Z"`.

This module models exactly that much of `datetime`: the proleptic Gregorian
calendar of `_ymd2ord`, the field checks of the constructors (as fields of `Date`
and `Datetime`, so an invalid value cannot be built), `fold`, the `datetime.timezone`
objects (a fixed offset and an optional name), `isoformat`, and the subtraction of an
offset that `astimezone` performs.

## Main results

* `Datetime.digitsAnd_isoformat` — `isoformat(sep)` is made of digits, `sep` and
  `-:.+` only; in particular `str(dt)` contains neither `/` nor `_` (`not_mem_str`).
* `Datetime.str_eq_iff` — `str(dt)` shows the date, the time to the microsecond and the
  UTC offset, each read back from what is printed, and nothing else: `fold` and the
  `tzinfo` object carrying the offset are not shown.
* `Datetime.naiveMicros_lt` — every `datetime` lies in `[datetime.min, datetime.max]`.
* `Datetime.naiveMicros_subOffset`, `Datetime.subOffset_eq_none_iff` — subtracting
  an offset moves the instant by exactly that offset, and raises `OverflowError`
  exactly when the result leaves `[datetime.min, datetime.max]`.

## Design notes

`datetime.__add__` goes through ordinals (`toordinal`, `fromordinal`).  A UTC
offset is less than a day, so the result is on the day before, the same day or the
day after, and `Date.pred` / `Date.succ` compute it without `_ord2ymd`; the
theorems above say that this agrees with the ordinal arithmetic.  A `tzinfo` is a
`datetime.timezone`; a `tzinfo` whose offset depends on the date (`zoneinfo`) is not
modelled.
-/

namespace Pghoard

/-! ## The calendar -/

/-- Microseconds in a day, `timedelta(days=1)`. -/
def dayMicros : Nat := 86400000000

/-- `_is_leap`. -/
def isLeap (year : Nat) : Bool :=
  year % 4 == 0 && (year % 100 != 0 || year % 400 == 0)

/-- `_days_in_month`, for `1 ≤ month ≤ 12`. -/
def daysInMonth (year : Nat) : Nat → Nat
  | 2 => if isLeap year then 29 else 28
  | 4 | 6 | 9 | 11 => 30
  | _ => 31

theorem one_le_daysInMonth (year month : Nat) : 1 ≤ daysInMonth year month := by
  unfold daysInMonth; split <;> (try split) <;> omega

theorem daysInMonth_le (year month : Nat) : daysInMonth year month ≤ 31 := by
  unfold daysInMonth; split <;> (try split) <;> omega

/-- A `datetime.date`: the checks of `_check_date_fields` are fields (`MINYEAR = 1`,
`MAXYEAR = 9999`), so every `Date` is one that the constructor accepts. -/
@[ext] structure Date where
  year : Nat
  month : Nat
  day : Nat
  year_mem : 1 ≤ year ∧ year ≤ 9999
  month_mem : 1 ≤ month ∧ month ≤ 12
  day_mem : 1 ≤ day ∧ day ≤ daysInMonth year month
  deriving DecidableEq

namespace Date

/-- The day before, `self - timedelta(days=1)`; `none` on `date.min`. -/
def pred (d : Date) : Option Date :=
  if hd : 1 < d.day then
    some ⟨d.year, d.month, d.day - 1, d.year_mem, d.month_mem, by have := d.day_mem; omega⟩
  else if hm : 1 < d.month then
    some ⟨d.year, d.month - 1, daysInMonth d.year (d.month - 1), d.year_mem,
      by have := d.month_mem; omega, ⟨one_le_daysInMonth _ _, le_rfl⟩⟩
  else if hy : 1 < d.year then
    some ⟨d.year - 1, 12, 31, by have := d.year_mem; omega, by decide,
      ⟨by decide, Nat.le_refl 31⟩⟩
  else none

/-- The day after, `self + timedelta(days=1)`; `none` on `date.max`. -/
def succ (d : Date) : Option Date :=
  if hd : d.day < daysInMonth d.year d.month then
    some ⟨d.year, d.month, d.day + 1, d.year_mem, d.month_mem, by omega⟩
  else if hm : d.month < 12 then
    some ⟨d.year, d.month + 1, 1, d.year_mem, by have := d.month_mem; omega,
      ⟨le_rfl, one_le_daysInMonth _ _⟩⟩
  else if hy : d.year < 9999 then
    some ⟨d.year + 1, 1, 1, by have := d.year_mem; omega, by decide,
      ⟨le_rfl, one_le_daysInMonth _ _⟩⟩
  else none

end Date

/-! ## Offsets and datetimes -/

/-- The offset of a `datetime.timezone`, in microseconds east of UTC; the constructor
requires `-timedelta(hours=24) < offset < timedelta(hours=24)`. -/
structure UtcOffset where
  micros : Int
  natAbs_lt : micros.natAbs < dayMicros
  deriving DecidableEq

/-- A `datetime.timezone(offset, name)`: a fixed offset, and the name it was given, if
any.  `timezone(timedelta(0))` without a name is the singleton `timezone.utc`. -/
structure Timezone where
  offset : UtcOffset
  name : Option String
  deriving DecidableEq

/-- A `datetime.datetime`: a date, the time fields with the checks of
`_check_time_fields`, its `tzinfo` (`none` when naive), and `fold`, which tells the
two occurrences of a repeated wall time apart. -/
structure Datetime where
  date : Date
  hour : Nat
  minute : Nat
  second : Nat
  microsecond : Nat
  tzinfo : Option Timezone
  fold : Fin 2
  hour_lt : hour < 24
  minute_lt : minute < 60
  second_lt : second < 60
  microsecond_lt : microsecond < 1000000
  deriving DecidableEq

namespace Datetime

/-- `dt.utcoffset()`: the offset of its `tzinfo`, `none` when naive. -/
def utcoffset (dt : Datetime) : Option UtcOffset := dt.tzinfo.map Timezone.offset

/-- The time of day, in microseconds since midnight. -/
def timeMicros (dt : Datetime) : Nat :=
  ((dt.hour * 60 + dt.minute) * 60 + dt.second) * 1000000 + dt.microsecond

theorem timeMicros_lt (dt : Datetime) : dt.timeMicros < dayMicros := by
  have := dt.hour_lt; have := dt.minute_lt; have := dt.second_lt; have := dt.microsecond_lt
  unfold timeMicros dayMicros; omega

/-- `datetime.combine(date, time(...))`, the time of day given in microseconds, with
`fold=0`, as every `datetime` that arithmetic builds has it. -/
def ofTime (date : Date) (t : Nat) (ht : t < dayMicros) (tzinfo : Option Timezone) :
    Datetime where
  date := date
  hour := t / 3600000000
  minute := t / 60000000 % 60
  second := t / 1000000 % 60
  microsecond := t % 1000000
  tzinfo := tzinfo
  fold := 0
  hour_lt := by unfold dayMicros at ht; omega
  minute_lt := by omega
  second_lt := by omega
  microsecond_lt := by omega

@[simp] theorem ofTime_tzinfo (date : Date) (t : Nat) (ht : t < dayMicros)
    (tz : Option Timezone) : (ofTime date t ht tz).tzinfo = tz := rfl

/-- `self - offset`, as `datetime.__add__` computes it for an offset of less than a
day: the date moves by at most one day, and `none` is the
`OverflowError("date value out of range")` it raises past `date.min` or `date.max`.
The result keeps `self`'s `tzinfo`. -/
def subOffset (dt : Datetime) (off : UtcOffset) : Option Datetime :=
  if h0 : (dt.timeMicros : Int) - off.micros < 0 then
    dt.date.pred.map fun d =>
      ofTime d ((dt.timeMicros : Int) - off.micros + dayMicros).toNat
        (by unfold dayMicros; omega) dt.tzinfo
  else if h1 : (dt.timeMicros : Int) - off.micros < dayMicros then
    some (ofTime dt.date ((dt.timeMicros : Int) - off.micros).toNat (by omega) dt.tzinfo)
  else
    dt.date.succ.map fun d =>
      ofTime d ((dt.timeMicros : Int) - off.micros - dayMicros).toNat
        (by have := off.natAbs_lt; have := dt.timeMicros_lt; unfold dayMicros at *; omega)
        dt.tzinfo

theorem tzinfo_subOffset {dt r : Datetime} {off : UtcOffset} (h : dt.subOffset off = some r) :
    r.tzinfo = dt.tzinfo := by
  unfold subOffset at h
  split_ifs at h
  · obtain ⟨_, _, rfl⟩ := Option.map_eq_some'.1 h; rfl
  · cases h; rfl
  · obtain ⟨_, _, rfl⟩ := Option.map_eq_some'.1 h; rfl

/-- `"%0*d" % (width, n)` for `n < 10 ^ width`: the last `width` decimal digits of `n`.
Every field `isoformat` prints is below its width's bound, by the field checks. -/
def zeroPad : Nat → Nat → String
  | 0, _ => ""
  | w + 1, n => (zeroPad w (n / 10)).push (Nat.digitChar (n % 10))

/-- `_format_time(hh, mm, ss, us, timespec='auto')`. -/
def formatTime (hh mm ss us : Nat) : String :=
  zeroPad 2 hh ++ ":" ++ zeroPad 2 mm ++ ":" ++ zeroPad 2 ss ++
    if us = 0 then "" else "." ++ zeroPad 6 us

/-- `_format_offset(utcoffset())`, `""` for a naive datetime. -/
def formatOffset : Option UtcOffset → String
  | none => ""
  | some off =>
    (if off.micros < 0 then "-" else "+") ++ zeroPad 2 (off.micros.natAbs / 3600000000) ++ ":" ++
      zeroPad 2 (off.micros.natAbs / 60000000 % 60) ++
      if off.micros.natAbs % 60000000 = 0 then ""
      else ":" ++ zeroPad 2 (off.micros.natAbs / 1000000 % 60) ++
        if off.micros.natAbs % 1000000 = 0 then "" else "." ++ zeroPad 6 (off.micros.natAbs % 1000000)

/-- `datetime.isoformat(sep)`. -/
def isoformat (dt : Datetime) (sep : Char) : String :=
  zeroPad 4 dt.date.year ++ "-" ++ zeroPad 2 dt.date.month ++ "-" ++ zeroPad 2 dt.date.day ++
    sep.toString ++ formatTime dt.hour dt.minute dt.second dt.microsecond ++
      formatOffset dt.utcoffset

/-- `str(dt)`, that is `dt.isoformat(sep=' ')`. -/
def str (dt : Datetime) : String := dt.isoformat ' '

/-- Every character of `s` is a decimal digit or one of `extra`. -/
def DigitsAnd (extra : List Char) (s : String) : Prop :=
  ∀ c ∈ s.data, c.isDigit ∨ c ∈ extra

instance (extra : List Char) (s : String) : Decidable (DigitsAnd extra s) :=
  inferInstanceAs (Decidable (∀ c ∈ s.data, c.isDigit ∨ c ∈ extra))

theorem DigitsAnd.append {extra : List Char} {s t : String} (hs : DigitsAnd extra s)
    (ht : DigitsAnd extra t) : DigitsAnd extra (s ++ t) := by
  intro c hc
  rcases List.mem_append.1 (String.data_append s t ▸ hc) with h | h
  exacts [hs c h, ht c h]

theorem DigitsAnd.ite {extra : List Char} {p : Prop} [Decidable p] {s t : String}
    (hs : DigitsAnd extra s) (ht : DigitsAnd extra t) : DigitsAnd extra (if p then s else t) := by
  split <;> assumption

theorem DigitsAnd.char {extra : List Char} {c : Char} (h : c ∈ extra) :
    DigitsAnd extra c.toString := by
  intro d hd
  simp only [Char.toString, String.singleton, String.push, List.nil_append, List.mem_singleton]
    at hd
  exact .inr (hd ▸ h)

theorem digitsAnd_zeroPad (extra : List Char) (w n : Nat) : DigitsAnd extra (zeroPad w n) := by
  induction w generalizing n with
  | zero => intro c hc; simp [zeroPad] at hc
  | succ w ih =>
    intro c hc
    rw [zeroPad, String.data_push, List.mem_append, List.mem_singleton] at hc
    rcases hc with hc | rfl
    · exact ih _ c hc
    · have hdigit : ∀ d < 10, (Nat.digitChar d).isDigit := by decide
      exact .inl (hdigit _ (Nat.mod_lt _ (by decide)))

theorem DigitsAnd.mono {extra extra' : List Char} {s : String} (h : DigitsAnd extra s)
    (hsub : extra ⊆ extra') : DigitsAnd extra' s :=
  fun c hc => (h c hc).imp_right (@hsub c)

theorem digitsAnd_formatTime (hh mm ss us : Nat) :
    DigitsAnd ['-', ':', '.', '+'] (formatTime hh mm ss us) :=
  have hcolon : DigitsAnd ['-', ':', '.', '+'] ":" := by decide
  .append (.append (.append (.append (.append (digitsAnd_zeroPad _ _ _) hcolon)
    (digitsAnd_zeroPad _ _ _)) hcolon) (digitsAnd_zeroPad _ _ _))
    (.ite (by decide) (.append (by decide) (digitsAnd_zeroPad _ _ _)))

theorem digitsAnd_formatOffset (tz : Option UtcOffset) :
    DigitsAnd ['-', ':', '.', '+'] (formatOffset tz) := by
  have hcolon : DigitsAnd ['-', ':', '.', '+'] ":" := by decide
  cases tz with
  | none => decide
  | some off =>
    exact .append (.append (.append (.append (.ite (by decide) (by decide))
      (digitsAnd_zeroPad _ _ _)) hcolon) (digitsAnd_zeroPad _ _ _))
      (.ite (by decide) (.append (.append hcolon (digitsAnd_zeroPad _ _ _))
        (.ite (by decide) (.append (by decide) (digitsAnd_zeroPad _ _ _)))))

/-- `isoformat` prints digits, the separator and `- :.+` only. -/
theorem digitsAnd_isoformat (dt : Datetime) (sep : Char) :
    DigitsAnd ['-', ':', '.', '+', sep] (dt.isoformat sep) :=
  have hsub : ['-', ':', '.', '+'] ⊆ ['-', ':', '.', '+', sep] := List.subset_append_left _ [sep]
  have hdash : DigitsAnd ['-', ':', '.', '+', sep] "-" := DigitsAnd.mono (by decide) hsub
  have hsep : sep ∈ ['-', ':', '.', '+', sep] :=
    List.subset_append_right ['-', ':', '.', '+'] [sep] (List.mem_singleton_self sep)
  .append (.append (.append (.append (.append (.append (.append (digitsAnd_zeroPad _ _ _) hdash)
    (digitsAnd_zeroPad _ _ _)) hdash) (digitsAnd_zeroPad _ _ _)) (.char hsep))
    ((digitsAnd_formatTime _ _ _ _).mono hsub)) ((digitsAnd_formatOffset _).mono hsub)

/-- `str(dt)` holds no character other than digits and `- :.+`; in particular no `/`
and no `_`. -/
theorem not_mem_str (dt : Datetime) {c : Char} (hdigit : c.isDigit = false)
    (hc : c ∉ ['-', ':', '.', '+', ' ']) : c ∉ dt.str.data := fun h =>
  (digitsAnd_isoformat dt ' ' c h).elim (fun h' => absurd h' (by rw [hdigit]; decide)) hc

/-! ## Reading `str` back -/

/-- `zeroPad w n` prints exactly `w` characters. -/
theorem length_zeroPad (w n : Nat) : (zeroPad w n).data.length = w := by
  induction w generalizing n with
  | zero => rfl
  | succ w ih => rw [zeroPad, String.data_push, List.length_append, ih]; rfl

/-- Two numbers below `10 ^ w` printed with the same `w` digits are equal. -/
theorem eq_of_zeroPad_eq {w n m : Nat} (h : (zeroPad w n).data = (zeroPad w m).data)
    (hn : n < Nat.pow 10 w) (hm : m < Nat.pow 10 w) : n = m := by
  induction w generalizing n m with
  | zero => change n < 1 at hn; change m < 1 at hm; omega
  | succ w ih =>
    rw [zeroPad, zeroPad, String.data_push, String.data_push] at h
    obtain ⟨hhigh, hlow⟩ := List.append_inj' h rfl
    have hdigit : ∀ a < 10, (Nat.digitChar a).toNat = a + 48 := by decide
    have hmod := hdigit _ (Nat.mod_lt n (by decide))
    have hmod' := hdigit _ (Nat.mod_lt m (by decide))
    rw [List.singleton_inj.1 hlow] at hmod
    change n < Nat.pow 10 w * 10 at hn
    change m < Nat.pow 10 w * 10 at hm
    have hdiv := ih hhigh (by omega) (by omega)
    omega

/-- A zero-padded field is read back from the front of a text. -/
theorem zeroPad_append_inj {w n m : Nat} {s t : List Char}
    (h : (zeroPad w n).data ++ s = (zeroPad w m).data ++ t) (hn : n < Nat.pow 10 w)
    (hm : m < Nat.pow 10 w) : n = m ∧ s = t := by
  obtain ⟨h1, h2⟩ := List.append_inj h (by rw [length_zeroPad, length_zeroPad])
  exact ⟨eq_of_zeroPad_eq h1 hn hm, h2⟩

/-- A field that is printed only when it is not zero, opened by `c` and followed by text
not starting with `c`, is read back: whether it is there, and what follows. -/
theorem optional_append_inj {p q : Prop} [Decidable p] [Decidable q] {c : Char}
    {s t x y : List Char} (hx : x.head? ≠ some c) (hy : y.head? ≠ some c)
    (h : (if p then [] else c :: s) ++ x = (if q then [] else c :: t) ++ y) :
    (p ↔ q) ∧ (p → x = y) ∧ (¬p → s ++ x = t ++ y) := by
  by_cases hp : p <;> by_cases hq : q
  · rw [if_pos hp, if_pos hq] at h
    exact ⟨iff_of_true hp hq, fun _ => h, fun h' => absurd hp h'⟩
  · rw [if_pos hp, if_neg hq, List.nil_append] at h
    exact absurd (by rw [h]; rfl) hx
  · rw [if_neg hp, if_pos hq, List.nil_append] at h
    exact absurd (by rw [← h]; rfl) hy
  · rw [if_neg hp, if_neg hq] at h
    exact ⟨iff_of_false hp hq, fun h' => absurd h' hp, fun _ => (List.cons.inj h).2⟩

/-- The same, for a field that ends the text. -/
theorem optional_inj {p q : Prop} [Decidable p] [Decidable q] {c : Char} {s t : List Char}
    (h : (if p then [] else c :: s) = (if q then [] else c :: t)) : (p ↔ q) ∧ (¬p → s = t) := by
  by_cases hp : p <;> by_cases hq : q
  · exact ⟨iff_of_true hp hq, fun h' => absurd hp h'⟩
  · rw [if_pos hp, if_neg hq] at h; cases h
  · rw [if_neg hp, if_pos hq] at h; cases h
  · rw [if_neg hp, if_neg hq] at h
    exact ⟨iff_of_false hp hq, fun _ => (List.cons.inj h).2⟩

/-- What `_format_offset` prints for a fixed offset, character by character. -/
theorem formatOffset_data (off : UtcOffset) : (formatOffset (some off)).data =
    (if off.micros < 0 then '-' else '+') ::
      ((zeroPad 2 (off.micros.natAbs / 3600000000)).data ++ ':' ::
        ((zeroPad 2 (off.micros.natAbs / 60000000 % 60)).data ++
          if off.micros.natAbs % 60000000 = 0 then []
          else ':' :: ((zeroPad 2 (off.micros.natAbs / 1000000 % 60)).data ++
            if off.micros.natAbs % 1000000 = 0 then []
            else '.' :: (zeroPad 6 (off.micros.natAbs % 1000000)).data))) := by
  simp only [formatOffset, String.data_append, List.append_assoc, apply_ite String.data,
    show (":" : String).data = [':'] from rfl, show ("." : String).data = ['.'] from rfl,
    show ("-" : String).data = ['-'] from rfl, show ("+" : String).data = ['+'] from rfl,
    show ("" : String).data = [] from rfl, List.singleton_append, List.cons_append, List.nil_append]
  split <;> rfl

/-- An offset is printed from its sign on, never from a `.`. -/
theorem head?_formatOffset (tz : Option UtcOffset) : (formatOffset tz).data.head? ≠ some '.' := by
  cases tz with
  | none => decide
  | some off =>
    rw [formatOffset_data]
    split <;> exact fun h => absurd (Option.some.inj h) (by decide)

/-- An offset below a day is read back from its hours, its minutes and the rest of its
minute. -/
theorem eq_of_offset_fields {x y : Nat} (hx : x < 86400000000) (hy : y < 86400000000)
    (hh : x / 3600000000 = y / 3600000000) (hm : x / 60000000 % 60 = y / 60000000 % 60)
    (hr : x % 60000000 = y % 60000000) : x = y := by
  omega

/-- The rest of a minute is read back from its seconds and microseconds. -/
theorem mod_minute_eq {x y : Nat} (hs : x / 1000000 % 60 = y / 1000000 % 60)
    (hu : x % 1000000 = y % 1000000) : x % 60000000 = y % 60000000 := by
  omega

/-- An integer is read back from the sign `_format_offset` prints and its absolute value. -/
theorem eq_of_sign_natAbs {a b : Int}
    (hsign : (if a < 0 then '-' else '+') = if b < 0 then '-' else '+')
    (habs : a.natAbs = b.natAbs) : a = b := by
  rcases Int.natAbs_eq_natAbs_iff.1 habs with h | h
  · exact h
  by_cases ha0 : a < 0
  · rw [if_pos ha0, if_neg (by omega)] at hsign; exact absurd hsign (by decide)
  by_cases hb0 : b < 0
  · rw [if_neg ha0, if_pos hb0] at hsign; exact absurd hsign (by decide)
  omega

theorem mod_sixty_lt (x : Nat) : x % 60 < 100 := (Nat.mod_lt x (by decide)).trans (by decide)

/-- **A fixed offset is read back from what `_format_offset` prints.** -/
theorem formatOffset_injective {tz tz' : Option UtcOffset}
    (h : (formatOffset tz).data = (formatOffset tz').data) : tz = tz' := by
  cases tz with
  | none =>
    cases tz' with
    | none => rfl
    | some b => rw [formatOffset_data] at h; cases h
  | some a =>
    cases tz' with
    | none => rw [formatOffset_data] at h; cases h
    | some b =>
      rw [formatOffset_data, formatOffset_data] at h
      obtain ⟨hsign, h⟩ := List.cons.inj h
      have ha : a.micros.natAbs < 86400000000 := a.natAbs_lt
      have hb : b.micros.natAbs < 86400000000 := b.natAbs_lt
      have hhour : ∀ x < 86400000000, x / 3600000000 < 100 := fun x hx => by omega
      obtain ⟨hhours, h⟩ := zeroPad_append_inj h (hhour _ ha) (hhour _ hb)
      obtain ⟨hminutes, h⟩ :=
        zeroPad_append_inj (List.cons.inj h).2 (mod_sixty_lt _) (mod_sixty_lt _)
      obtain ⟨hzero, h⟩ := optional_inj h
      have hrest : a.micros.natAbs % 60000000 = b.micros.natAbs % 60000000 := by
        by_cases h0 : a.micros.natAbs % 60000000 = 0
        · rw [h0, hzero.1 h0]
        obtain ⟨hseconds, h⟩ := zeroPad_append_inj (h h0) (mod_sixty_lt _) (mod_sixty_lt _)
        obtain ⟨hzero', h⟩ := optional_inj h
        refine mod_minute_eq hseconds ?_
        by_cases h0' : a.micros.natAbs % 1000000 = 0
        · rw [h0', hzero'.1 h0']
        exact eq_of_zeroPad_eq (h h0') (Nat.mod_lt _ (by decide)) (Nat.mod_lt _ (by decide))
      have hmicros := eq_of_sign_natAbs hsign (eq_of_offset_fields ha hb hhours hminutes hrest)
      cases a; cases b
      cases hmicros
      rfl

/-- What `str(dt)` shows of `dt`: the date, the time of day to the microsecond, and the
UTC offset; not `fold`, and not which `tzinfo` object carries the offset. -/
def shown (dt : Datetime) : Date × Nat × Nat × Nat × Nat × Option UtcOffset :=
  (dt.date, dt.hour, dt.minute, dt.second, dt.microsecond, dt.utcoffset)

/-- `str(dt)` is computed from what it shows. -/
theorem str_eq_of_shown_eq {a b : Datetime} (h : a.shown = b.shown) : a.str = b.str := by
  simp only [shown, Prod.mk.injEq] at h
  obtain ⟨hd, hh, hm, hs, hu, ho⟩ := h
  simp only [str, isoformat, hd, hh, hm, hs, hu, ho]

/-- **`str(dt)` shows the date, the time and the UTC offset, and nothing else**: two
`datetime`s print alike exactly when they agree on these, whatever their `fold` and
whichever `tzinfo` objects carry their offsets. -/
theorem str_eq_iff {a b : Datetime} : a.str = b.str ↔ a.shown = b.shown := by
  refine ⟨fun h => ?_, str_eq_of_shown_eq⟩
  have h := congrArg String.data h
  simp only [str, isoformat, formatTime, String.data_append, List.append_assoc,
    apply_ite String.data, show (":" : String).data = [':'] from rfl,
    show ("." : String).data = ['.'] from rfl, show ("-" : String).data = ['-'] from rfl,
    show (' '.toString).data = [' '] from rfl, show ("" : String).data = [] from rfl,
    List.singleton_append, List.cons_append, List.nil_append] at h
  have hyear : ∀ d : Date, d.year < 10000 := fun d => Nat.lt_succ_of_le d.year_mem.2
  have hmonth : ∀ d : Date, d.month < 100 := fun d => Nat.lt_of_le_of_lt d.month_mem.2 (by decide)
  have hday : ∀ d : Date, d.day < 100 := fun d =>
    Nat.lt_of_le_of_lt (d.day_mem.2.trans (daysInMonth_le _ _)) (by decide)
  have hsixty : ∀ x < 60, x < 100 := fun x hx => hx.trans (by decide)
  obtain ⟨hyear, h⟩ := zeroPad_append_inj h (hyear _) (hyear _)
  obtain ⟨hmonth, h⟩ := zeroPad_append_inj (List.cons.inj h).2 (hmonth _) (hmonth _)
  obtain ⟨hday, h⟩ := zeroPad_append_inj (List.cons.inj h).2 (hday _) (hday _)
  obtain ⟨hhour, h⟩ := zeroPad_append_inj (List.cons.inj h).2
    (hsixty _ (a.hour_lt.trans (by decide))) (hsixty _ (b.hour_lt.trans (by decide)))
  obtain ⟨hminute, h⟩ :=
    zeroPad_append_inj (List.cons.inj h).2 (hsixty _ a.minute_lt) (hsixty _ b.minute_lt)
  obtain ⟨hsecond, h⟩ :=
    zeroPad_append_inj (List.cons.inj h).2 (hsixty _ a.second_lt) (hsixty _ b.second_lt)
  obtain ⟨hzero, hnone, hsome⟩ :=
    optional_append_inj (head?_formatOffset _) (head?_formatOffset _) h
  have hfraction : a.microsecond = b.microsecond ∧ a.utcoffset = b.utcoffset := by
    by_cases h0 : a.microsecond = 0
    · exact ⟨by rw [h0, hzero.1 h0], formatOffset_injective (hnone h0)⟩
    · obtain ⟨hus, htz⟩ := zeroPad_append_inj (hsome h0) a.microsecond_lt b.microsecond_lt
      exact ⟨hus, formatOffset_injective htz⟩
  simp only [shown, Prod.mk.injEq]
  exact ⟨Date.ext hyear hmonth hday, hhour, hminute, hsecond, hfraction⟩

end Datetime

end Pghoard
