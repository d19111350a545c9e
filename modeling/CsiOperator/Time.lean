import CsiOperator.Text.Blank
/-!
Instants on the UTC time line, with nanosecond resolution and leap seconds, and their RFC 3339
text.

An instant counts whole seconds since 1970-01-01T00:00:00Z, leap seconds not counted, and a
fraction of the second in nanoseconds. A leap second shares the count of the second before it,
which ends a minute, and carries a fraction from one second on: `23:59:60.5` is second
`23:59:59` with a fraction of 1.5 s. An instant carries the proof that it is one of these.
Instants are ordered by second, then fraction, so a leap second falls between the second before
it and the next one.

The time from one instant to a later one counts a leap second once it has been passed: from
`10:00:60.2` to `10:01:30` is 30.8 s. It compares the two instants' seconds within their days,
so a leap second counts only when both instants lie on the same side of midnight in that
comparison, as the calendar arithmetic this follows does.

Three written forms are used. Status times show the fewest fractional digits among 0, 3, 6 and 9
that write the instant exactly. Kubernetes object times show whole seconds. Lease times show
microseconds. All of them end in `Z`, and a leap second is written as second 60.

Reading is lenient: blanks may stand before each number and around the separators, the date and
the time may be separated by `T`, `t` or a space, the year may carry a sign and then any number
of digits, months, days, hours, minutes and seconds take one or two digits, a fraction takes any
number of digits of which nine count, and the offset is `Z`, `UTC` in any case, or a signed hour
and minute with an optional colon. Each kind of failure is reported by its own message.
-/

namespace CsiOperator

/-- Nanoseconds in one second. -/
def Instant.nanosPerSecond : Nat := 1000000000

/-- An instant: whole seconds since 1970-01-01T00:00:00Z, leap seconds not counted, and the
nanoseconds into the second. From `10^9` on, the nanoseconds reach into the leap second that
follows the second, which only the last second of a minute has. -/
@[ext] structure Instant where
  seconds : Int
  frac : Nat
  wellFormed : frac < Instant.nanosPerSecond ∨
    frac < 2 * Instant.nanosPerSecond ∧ seconds % 60 = 59 := by decide
deriving DecidableEq, Repr

namespace Instant

instance : Inhabited Instant := ⟨⟨0, 0, .inl (by decide)⟩⟩

/-- Seconds in one day. -/
def secondsPerDay : Int := 86400

/-- Whether `a` is no later than `b`: by second, then by fraction. -/
protected def le (a b : Instant) : Prop := a.seconds < b.seconds ∨ (a.seconds = b.seconds ∧ a.frac ≤ b.frac)

/-- Whether `a` is earlier than `b`. -/
protected def lt (a b : Instant) : Prop := a.seconds < b.seconds ∨ (a.seconds = b.seconds ∧ a.frac < b.frac)

instance : LE Instant := ⟨Instant.le⟩
instance : LT Instant := ⟨Instant.lt⟩
instance (a b : Instant) : Decidable (a ≤ b) :=
  inferInstanceAs (Decidable (a.seconds < b.seconds ∨ (a.seconds = b.seconds ∧ a.frac ≤ b.frac)))
instance (a b : Instant) : Decidable (a < b) :=
  inferInstanceAs (Decidable (a.seconds < b.seconds ∨ (a.seconds = b.seconds ∧ a.frac < b.frac)))

/-- Whether the instant lies within a leap second. -/
def inLeapSecond (t : Instant) : Bool := t.frac ≥ nanosPerSecond

theorem frac_lt_of_not_leap (t : Instant) (h : ¬t.inLeapSecond = true) :
    t.frac < nanosPerSecond := by
  simpa [inLeapSecond] using h

theorem leap_frac_sub_lt (t : Instant) : t.frac - nanosPerSecond < nanosPerSecond := by
  have := t.wellFormed
  unfold nanosPerSecond at *
  omega

theorem last_of_leap (t : Instant) (h : t.inLeapSecond = true) : t.seconds % 60 = 59 := by
  have := t.wellFormed
  simp only [inLeapSecond, decide_eq_true_eq] at h
  omega

/-- The instant of a count of nanoseconds since the epoch. -/
def ofNanos (n : Int) : Instant :=
  ⟨n / nanosPerSecond, (n % nanosPerSecond).toNat, .inl (by unfold nanosPerSecond; omega)⟩

/-- The instant `n` whole seconds later (earlier when negative). Leaving a leap second moves the
count on from the second it shares; adding nothing stays in it. -/
def addSeconds (t : Instant) (n : Int) : Instant :=
  if h : t.inLeapSecond then
    if n > 0 then ⟨t.seconds + n, t.frac - nanosPerSecond, .inl t.leap_frac_sub_lt⟩
    else if n < 0 then ⟨t.seconds + 1 + n, t.frac - nanosPerSecond, .inl t.leap_frac_sub_lt⟩
    else t
  else ⟨t.seconds + n, t.frac, .inl (t.frac_lt_of_not_leap h)⟩

/-- The instant one nanosecond later. -/
def tick (t : Instant) : Instant :=
  if h : t.inLeapSecond then
    if hlast : t.frac + 1 ≥ 2 * nanosPerSecond then ⟨t.seconds + 1, 0, .inl (by decide)⟩
    else ⟨t.seconds, t.frac + 1, .inr ⟨by omega, t.last_of_leap h⟩⟩
  else if hlast : t.frac + 1 = nanosPerSecond then ⟨t.seconds + 1, 0, .inl (by decide)⟩
  else ⟨t.seconds, t.frac + 1, .inl (by have := t.frac_lt_of_not_leap h; omega)⟩

/-- The instant that begins a whole second. -/
def ofSeconds (n : Int) : Instant := ⟨n, 0, .inl (by decide)⟩

/-- The instant with its fraction of a second dropped. -/
def wholeSeconds (t : Instant) : Instant := ofSeconds t.seconds

/-- The second within its day. -/
def secondOfDay (t : Instant) : Int := t.seconds % secondsPerDay

/-- Nanoseconds from `t` to `u`, negative when `u` is earlier. A leap second of the earlier
instant is counted once the later one has passed it within the day, and one of the later
instant is not counted when it lies before the earlier one within the day. -/
def nanosUntil (t u : Instant) : Int :=
  let adjust : Int :=
    if u.secondOfDay > t.secondOfDay then (if t.inLeapSecond then 1 else 0)
    else if u.secondOfDay < t.secondOfDay then (if u.inLeapSecond then -1 else 0)
    else 0
  (u.seconds - t.seconds + adjust) * nanosPerSecond + u.frac - t.frac

/-- Whole seconds from `t` to `u`, rounded down; zero when `u` is earlier than `t`. -/
def secondsUntil (t u : Instant) : Nat :=
  let d := t.nanosUntil u
  if d ≥ 0 then (d / nanosPerSecond).toNat else 0

/-- Days since 1970-01-01 of a date in the proleptic Gregorian calendar. -/
def daysOfDate (y : Int) (m d : Nat) : Int :=
  let y' := if m ≤ 2 then y - 1 else y
  let era := y' / 400
  let yoe := y' - era * 400
  let mp : Int := if m > 2 then (m : Int) - 3 else (m : Int) + 9
  let doy := (153 * mp + 2) / 5 + (d : Int) - 1
  let doe := yoe * 365 + yoe / 4 - yoe / 100 + doy
  era * 146097 + doe - 719468

/-- The date (year, month, day) of a day count since 1970-01-01. -/
def dateOfDays (z : Int) : Int × Nat × Nat :=
  let z := z + 719468
  let era := z / 146097
  let doe := z - era * 146097
  let yoe := (doe - doe / 1460 + doe / 36524 - doe / 146096) / 365
  let y := yoe + era * 400
  let doy := doe - (365 * yoe + yoe / 4 - yoe / 100)
  let mp := (5 * doy + 2) / 153
  let d := (doy - (153 * mp + 2) / 5 + 1).toNat
  let m := (if mp < 10 then mp + 3 else mp - 9).toNat
  (if m ≤ 2 then y + 1 else y, m, d)

/-- Whether a year is a leap year. -/
def leapYear (y : Int) : Bool := (y % 4 == 0 && y % 100 != 0) || y % 400 == 0

/-- Days in a month of a year. -/
def daysInMonth (y : Int) (m : Nat) : Nat :=
  match m with
  | 2 => if leapYear y then 29 else 28
  | 4 | 6 | 9 | 11 => 30
  | _ => 31

/-- The first year of the calendar. -/
def minYear : Int := -262144

/-- The last year of the calendar. -/
def maxYear : Int := 262143

/-- A number written with at least `width` digits. -/
def padded (width : Nat) (n : Nat) : String :=
  let s := toString n
  String.ofList (List.replicate (width - s.length) '0') ++ s

/-- How many fractional digits a written instant shows. -/
inductive Precision where
  /-- The fewest of 0, 3, 6 or 9 digits that write the instant exactly. -/
  | auto
  /-- Whole seconds. -/
  | seconds
  /-- Six digits. -/
  | micros
deriving DecidableEq, Repr

/-- The fraction of a second as written for a precision, with its point. -/
def fraction (p : Precision) (ns : Nat) : String :=
  match p with
  | .seconds => ""
  | .micros => "." ++ padded 6 (ns / 1000)
  | .auto =>
    if ns = 0 then ""
    else if ns % 1000000 = 0 then "." ++ padded 3 (ns / 1000000)
    else if ns % 1000 = 0 then "." ++ padded 6 (ns / 1000)
    else "." ++ padded 9 ns

/-- The RFC 3339 text of an instant in UTC; a leap second is written as second 60. -/
def render (t : Instant) (p : Precision := .auto) : String :=
  let leap := t.inLeapSecond
  let ns := if leap then t.frac - nanosPerSecond else t.frac
  let days := t.seconds / secondsPerDay
  let sod := (t.seconds % secondsPerDay).toNat
  let (y, m, d) := dateOfDays days
  let year := if 0 ≤ y && y ≤ 9999 then padded 4 y.toNat
    else (if y < 0 then "-" else "+") ++ padded 4 y.natAbs
  year ++ "-" ++ padded 2 m ++ "-" ++ padded 2 d ++ "T" ++ padded 2 (sod / 3600) ++ ":" ++
    padded 2 (sod / 60 % 60) ++ ":" ++ padded 2 (sod % 60 + if leap then 1 else 0) ++
    fraction p ns ++ "Z"

/-! ## Reading -/

/-- Why a text is not an instant. -/
inductive ReadError where
  /-- A field is outside its range, or the date does not exist. -/
  | outOfRange
  /-- A character where another was required. -/
  | invalid
  /-- The text ends before the instant does. -/
  | tooShort
  /-- Something follows the instant. -/
  | tooLong
deriving DecidableEq, Repr, Inhabited

/-- How the failure is described. -/
def ReadError.message : ReadError → String
  | .outOfRange => "input is out of range"
  | .invalid => "input contains invalid characters"
  | .tooShort => "premature end of input"
  | .tooLong => "trailing input"

/-- The text without its leading blanks. -/
def trimStart (cs : List Char) : List Char := cs.dropWhile Text.isBlank

/-- The largest signed 64-bit number, beyond which a number read is out of range. -/
def maxNumber : Int := 9223372036854775807

/-- Reads a decimal number of at least `least` and at most `most` digits: fewer digits than
`least` are invalid, and a value beyond 64 bits is out of range. -/
def number (least most : Nat) (cs : List Char) : Except ReadError (Int × List Char) :=
  let rec go (i : Nat) (n : Int) : List Char → Except ReadError (Int × List Char)
    | [] => if i < least then .error (if i = 0 then .tooShort else .invalid) else .ok (n, [])
    | c :: rest =>
      if i ≥ most then .ok (n, c :: rest)
      else if c.isDigit then
        let n := n * 10 + (c.toNat - '0'.toNat : Nat)
        if n > maxNumber then .error .outOfRange else go (i + 1) n rest
      else if i < least then .error .invalid
      else .ok (n, c :: rest)
  go 0 0 cs

/-- Requires a character to come next. -/
def literal (c : Char) : List Char → Except ReadError (List Char)
  | [] => .error .tooShort
  | d :: rest => if d = c then .ok rest else .error .invalid

/-- Reads a number after optional blanks, and checks it lies between `lo` and `hi`. -/
def field (lo hi : Int) (cs : List Char) : Except ReadError (Int × List Char) := do
  let (v, rest) ← number 1 2 (trimStart cs)
  if v < lo || v > hi then throw .outOfRange
  pure (v, rest)

/-- Reads a year: a sign and any number of digits, or up to four digits without a sign. -/
def year (cs : List Char) : Except ReadError (Int × List Char) := do
  let (v, rest) ← match trimStart cs with
    | '-' :: r => do
      let (v, rest) ← number 1 r.length r
      pure (-v, rest)
    | '+' :: r => number 1 r.length r
    | r => number 1 4 r
  if v < -2147483648 || v > 2147483647 then throw .outOfRange
  pure (v, rest)

/-- Reads the digits of a fraction after its point: nine count, and further digits are skipped. -/
def fractionDigits (cs : List Char) : Except ReadError (Nat × List Char) := do
  let (v, rest) ← number 1 9 cs
  let consumed := cs.length - rest.length
  pure ((v.toNat * Nat.pow 10 (9 - consumed)), rest.dropWhile Char.isDigit)

/-- The number of bytes the UTF-8 encoding of a text takes, up to two. -/
def bytesUpToTwo : List Char → Nat
  | [] => 0
  | [c] => min 2 c.utf8Size
  | _ :: _ :: _ => 2

/-- Reads a numeric offset in seconds: a sign (`+`, `-` or the minus sign), two digits of
hours, optional colons and blanks, and two digits of minutes below 60. -/
def numericOffset (cs : List Char) : Except ReadError (Int × List Char) := do
  let (negative, cs) ← match cs with
    | '+' :: r => pure (false, r)
    | '-' :: r => pure (true, r)
    | '−' :: r => pure (true, r)
    | _ :: _ => throw .invalid
    | [] => throw .tooShort
  if bytesUpToTwo cs < 2 then throw .tooShort
  let hours : Nat ← match cs with
    | a :: b :: _ =>
      if a.isDigit && b.isDigit then pure ((a.toNat - 48) * 10 + (b.toNat - 48))
      else throw .invalid
    | _ => throw .invalid
  let cs := (cs.drop 2).dropWhile fun c => c = ':' || Text.isBlank c
  if bytesUpToTwo cs < 2 then throw .tooShort
  let minutes : Nat ← match cs with
    | a :: b :: _ =>
      if '0' ≤ a && a ≤ '5' && b.isDigit then pure ((a.toNat - 48) * 10 + (b.toNat - 48))
      else if '6' ≤ a && a ≤ '9' && b.isDigit then throw .outOfRange
      else throw .invalid
    | _ => throw .invalid
  let seconds : Int := (hours * 3600 + minutes * 60 : Nat)
  pure (if negative then -seconds else seconds, cs.drop 2)

/-- Reads the offset after the time: `Z`, `UTC` in any case, or a numeric offset. -/
def offset (cs : List Char) : Except ReadError (Int × List Char) :=
  match cs with
  | u :: t :: c :: rest =>
    if Text.sameIgnoringCase (String.ofList [u, t, c]) "UTC" then .ok (0, rest)
    else if u = 'Z' || u = 'z' then .ok (0, t :: c :: rest)
    else numericOffset cs
  | 'Z' :: rest | 'z' :: rest => .ok (0, rest)
  | _ => numericOffset cs

/-- The fields of a written instant. -/
structure Fields where
  year : Int
  month : Nat
  day : Nat
  hour : Nat
  minute : Nat
  second : Nat
  nano : Nat
  offset : Int

/-- Reads the fields of an instant, leaving what follows them. -/
def fields (cs : List Char) : Except ReadError (Fields × List Char) := do
  let (y, cs) ← year cs
  let cs ← literal '-' (trimStart cs)
  let (mo, cs) ← field 1 12 cs
  let cs ← literal '-' (trimStart cs)
  let (d, cs) ← field 1 31 cs
  let cs ← match cs with
    | c :: rest => if c = 'T' || c = 't' || c = ' ' then pure rest else throw .invalid
    | [] => throw .tooShort
  let (h, cs) ← field 0 23 cs
  let cs ← literal ':' (trimStart cs)
  let (mi, cs) ← field 0 59 cs
  let cs ← literal ':' (trimStart cs)
  let (se, cs) ← field 0 60 cs
  let (ns, cs) ← match cs with
    | '.' :: rest => fractionDigits rest
    | _ => pure (0, cs)
  let (off, cs) ← offset (trimStart cs)
  pure (⟨y, mo.toNat, d.toNat, h.toNat, mi.toNat, se.toNat, ns, off⟩, cs)

/-- The instant the fields name, if the date exists and the instant lies within the calendar. -/
def Fields.instant (f : Fields) : Except ReadError Instant := do
  if f.year < minYear || f.year > maxYear || f.day > daysInMonth f.year f.month then
    throw .outOfRange
  if f.offset ≤ -secondsPerDay || f.offset ≥ secondsPerDay then throw .outOfRange
  let (second, leap) := if f.second = 60 then (59, nanosPerSecond) else (f.second, 0)
  let localSeconds := daysOfDate f.year f.month f.day * secondsPerDay +
    (f.hour * 3600 + f.minute * 60 + second : Nat)
  let seconds := localSeconds - f.offset
  -- read fields hold a fraction below a second and an offset of whole minutes
  if h : f.nano + leap < nanosPerSecond ∨
      f.nano + leap < 2 * nanosPerSecond ∧ seconds % 60 = 59 then
    let (y, _, _) := dateOfDays (seconds / secondsPerDay)
    if y < minYear || y > maxYear then throw .outOfRange
    pure ⟨seconds, f.nano + leap, h⟩
  else throw .outOfRange

/-- Reads an RFC 3339 date and time with its offset; nothing but blanks may follow. -/
def read (s : String) : Except ReadError Instant := do
  let (f, rest) ← fields s.toList
  if !(trimStart rest).isEmpty then throw .tooLong
  f.instant

/-- Reads an RFC 3339 date and time, when the text is one. -/
def parse? (s : String) : Option Instant := (read s).toOption

end Instant

end CsiOperator
