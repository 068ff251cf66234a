/-
  `datetime.fromisoformat`: the ISO-8601 reader of Python's standard library.

  The reader accepts a date, optionally followed by any one separator character and a time of day,
  optionally followed by a UTC offset:

  * dates `YYYY-MM-DD`, `YYYYMMDD`, `YYYY-Www`, `YYYYWww`, `YYYY-Www-D`, `YYYYWwwD`;
  * times `HH`, `HH:MM`, `HH:MM:SS`, `HH:MM:SS.f…` and the same without colons, where a comma may
    stand for the point, digits after the sixth are dropped, and `24:00` is the next midnight;
  * offsets `Z`, `+HH…`, `-HH…` in the spellings of a time, smaller than a day.

  A date is read into its ORDINAL (day 1 is 0001-01-01) and the whole into microseconds, so the
  order of instants is the order of `Int` and two spellings of one instant are one number
  (`instant_text`).

  The last part turns the reader round.  `Written` is an instant as a sender writes it, its parts in
  range, and `text` its spelling; `fromisoformat_text` reads the parts back, part by part in the
  order of the reader.  What makes that more than a computation is the reader's guessing: it finds
  where the date ends by looking for a `W` and for hyphens, and where the clock ends by looking for
  a sign or a `Z`.  So the lemmas about the parts are also about what does NOT occur in them
  (`digitChar_ne`, `not_sign_of_mem_clockText`).  `instant_text` is the conclusion: the offset is
  taken off again, and what remains is the instant meant.
-/
import Mathlib.Algebra.GroupWithZero.Nat
import Mathlib.Data.List.Basic

namespace Iso8601

/-! ## Digits -/

/-- The value of an ASCII digit. -/
def digit? (c : Char) : Option Nat :=
  if '0' ≤ c ∧ c ≤ '9' then some (c.toNat - '0'.toNat) else none

/-- Exactly `n` digits, and what follows them. -/
def digits : Nat → List Char → Option (Nat × List Char)
  | n, cs => go n 0 cs
where
  go : Nat → Nat → List Char → Option (Nat × List Char)
    | 0, acc, cs => some (acc, cs)
    | _ + 1, _, [] => none
    | n + 1, acc, c :: cs => (digit? c).bind fun d => go n (10 * acc + d) cs

/-! ## The proleptic Gregorian calendar -/

def isLeap (year : Nat) : Bool := year % 4 == 0 && (year % 100 != 0 || year % 400 == 0)

def daysInMonth (year month : Nat) : Nat :=
  match month with
  | 2 => if isLeap year then 29 else 28
  | 4 | 6 | 9 | 11 => 30
  | _ => 31

/-- Days before January 1st of `year`. -/
def daysBeforeYear (year : Nat) : Nat :=
  let y := year - 1
  365 * y + y / 4 - y / 100 + y / 400

/-- Days of `year` before the first of `month`. -/
def daysBeforeMonth (year month : Nat) : Nat :=
  ((List.range (month - 1)).map fun m => daysInMonth year (m + 1)).sum

/-- The ordinal of a calendar date; `none` when there is no such date. -/
def ymd2ord (year month day : Nat) : Option Nat :=
  if 1 ≤ year ∧ 1 ≤ month ∧ month ≤ 12 ∧ 1 ≤ day ∧ day ≤ daysInMonth year month then
    some (daysBeforeYear year + daysBeforeMonth year month + day)
  else none

/-- December 31st, 9999. -/
def maxOrdinal : Nat := 3652059

/-- The ordinal of day `day` of ISO week `week`.  A year has a week 53 when it starts on a
    Thursday, or is a leap year that starts on a Wednesday. -/
def isoWeek2ord (year week day : Nat) : Option Nat :=
  let firstDay := daysBeforeYear year + 1
  let firstWeekday := (firstDay + 6) % 7
  let longYear := firstWeekday == 3 || (firstWeekday == 2 && isLeap year)
  let week1Monday := if firstWeekday > 3 then firstDay + 7 - firstWeekday else firstDay - firstWeekday
  if 1 ≤ year ∧ 1 ≤ week ∧ (week ≤ 52 ∨ week = 53 ∧ longYear) ∧ 1 ≤ day ∧ day ≤ 7 then
    some (week1Monday + (week - 1) * 7 + (day - 1))
  else none

/-! ## The date -/

/-- The length of the leading run of digits. -/
def digitRun (cs : List Char) : Nat := (cs.takeWhile fun c => (digit? c).isSome).length

/-- Where the date ends.  Any character may separate it from the time, so its length is read off
    characters 4 and 5; in `YYYY-Www-##` the second hyphen is taken for the separator, and
    `YYYYWww` is told from `YYYYWwwD` by the parity of the digits that follow. -/
def separatorAt (cs : List Char) : Nat :=
  if cs.length = 7 then 7
  else if cs[4]? = some '-' then
    if cs[5]? = some 'W' then
      if cs[8]? = some '-' then
        if ((cs[10]?).bind digit?).isSome then 8 else 10
      else 8
    else 10
  else if cs[4]? = some 'W' then
    let stop := 7 + digitRun (cs.drop 7)
    if stop < 9 then stop else if stop % 2 = 0 then 7 else 8
  else 8

/-- Drop a hyphen if the date uses them; `none` when it is missing or unexpected. -/
def hyphen (extended : Bool) (cs : List Char) : Option (List Char) :=
  match cs with
  | '-' :: rest => if extended then some rest else none
  | _ => if extended then none else some cs

def calendarDate (year : Nat) (extended : Bool) (cs : List Char) : Option Nat := do
  let (month, cs) ← digits 2 cs
  let cs ← hyphen extended cs
  let (day, cs) ← digits 2 cs
  if cs = [] then ymd2ord year month day else none

def weekDate (year : Nat) (extended : Bool) (cs : List Char) : Option Nat := do
  let (week, cs) ← digits 2 cs
  if cs = [] then isoWeek2ord year week 1
  else do
    let cs ← hyphen extended cs
    let (day, cs) ← digits 1 cs
    if cs = [] then isoWeek2ord year week day else none

/-- The ordinal a date denotes. -/
def parseDate (cs : List Char) : Option Nat := do
  let (year, cs) ← digits 4 cs
  let extended := cs.head? = some '-'
  let cs := if extended then cs.drop 1 else cs
  match cs with
  | 'W' :: rest => weekDate year extended rest
  | _ => calendarDate year extended cs

/-! ## The time of day and the offset -/

/-- The clock fields of `HH[:MM[:SS[.ffffff]]]`, as written. -/
structure Clock where
  hour : Nat
  minute : Nat
  second : Nat
  microsecond : Nat
deriving DecidableEq

def microsPerDay : Nat := 86400000000

def Clock.micros (c : Clock) : Nat :=
  ((c.hour * 60 + c.minute) * 60 + c.second) * 1000000 + c.microsecond

/-- Microseconds of a decimal fraction: six digits count, the rest must only be digits. -/
def fraction (cs : List Char) : Option Nat :=
  if cs = [] ∨ !cs.all (fun c => (digit? c).isSome) then none
  else (digits 6 (cs.take 6 ++ List.replicate (6 - cs.length) '0')).map Prod.fst

/-- Drop a colon if the time uses them; `none` when it is missing. -/
def colon (extended : Bool) (cs : List Char) : Option (List Char) :=
  if extended then
    match cs with
    | ':' :: rest => some rest
    | _ => none
  else some cs

def parseClock (cs : List Char) : Option Clock := do
  let (hour, cs) ← digits 2 cs
  let extended := cs.head? = some ':'
  if cs = [] then return ⟨hour, 0, 0, 0⟩
  let (minute, cs) ← (colon extended cs).bind (digits 2)
  if cs = [] then return ⟨hour, minute, 0, 0⟩
  let (second, cs) ← (colon extended cs).bind (digits 2)
  match cs with
  | [] => return ⟨hour, minute, second, 0⟩
  | c :: cs =>
    if c = '.' ∨ c = ',' then return ⟨hour, minute, second, ← fraction cs⟩ else none

/-- The microsecond of the day; `24:00` is the first of the next one. -/
def timeOfDay (c : Clock) : Option Nat :=
  if c.hour < 24 ∧ c.minute < 60 ∧ c.second < 60 ∨ c = ⟨24, 0, 0, 0⟩ then some c.micros else none

/-- The offset behind its sign, in microseconds: strictly less than a day. -/
def parseOffset (sign : Char) (cs : List Char) : Option Int :=
  if sign = 'Z' then
    if cs = [] then some 0 else none
  else do
    let c ← parseClock cs
    if c.micros < microsPerDay then
      some (if sign = '-' then -(c.micros : Int) else c.micros)
    else none

/-- The time of day, and the offset if one is given. -/
def parseTime (cs : List Char) : Option (Nat × Option Int) := do
  let isSign := fun c => c == '+' || c == '-' || c == 'Z'
  let micros ← (parseClock (cs.takeWhile fun c => !isSign c)).bind timeOfDay
  match cs.dropWhile fun c => !isSign c with
  | [] => return (micros, none)
  | sign :: rest => return (micros, some (← parseOffset sign rest))

/-! ## The reader -/

/-- What `fromisoformat` returns: the local time, and the offset when the string carried one. -/
structure DateTime where
  localMicros : Int
  utcOffset : Option Int
deriving DecidableEq

/-- `datetime.fromisoformat`; `none` is the `ValueError`. -/
def fromisoformat (cs : List Char) : Option DateTime :=
  if cs.length < 7 then none
  else do
    let ordinal ← parseDate (cs.take (separatorAt cs))
    let (micros, offset) ← match cs.drop (separatorAt cs + 1) with
      | [] => some (0, none)
      | time => parseTime time
    if ordinal + micros / microsPerDay ≤ maxOrdinal then
      some ⟨(ordinal : Int) * microsPerDay + micros, offset⟩
    else none

/-- The instant a date and time denote, a naive one being read as UTC. -/
def DateTime.instant (t : DateTime) : Int := t.localMicros - t.utcOffset.getD 0

/-! ## Written instants -/

/-- The last `n` decimal digits of `k`. -/
def decimals : Nat → Nat → List Char
  | 0, _ => []
  | n + 1, k => Nat.digitChar (k / 10 ^ n % 10) :: decimals n k

/-- How an instant says where its clock stands: not at all, with a `Z`, or `±HH:MM` from UTC. -/
inductive Zone where
  | naive
  | utc
  | offset (west : Bool) (hours minutes : Nat)

namespace Zone

def Fits : Zone → Prop
  | offset _ hours minutes => hours < 24 ∧ minutes < 60
  | _ => True

def text : Zone → List Char
  | naive => []
  | utc => ['Z']
  | offset west hours minutes =>
    (if west then '-' else '+') :: (decimals 2 hours ++ ':' :: decimals 2 minutes)

/-- How far its clock is ahead of UTC's. -/
def ahead : Zone → Option Int
  | naive => none
  | utc => some 0
  | offset west hours minutes =>
    let micros := (hours * 60 + minutes) * 60000000
    some (if west then -(micros : Int) else micros)

end Zone

/-- An instant written `YYYY-MM-DDTHH:MM:SS`, with or without six digits of a second's fraction, in
    some zone. -/
structure Written where
  year : Nat
  month : Nat
  day : Nat
  clock : Clock
  fractional : Bool
  zone : Zone
  ordinal : Nat
  is_date : ymd2ord year month day = some ordinal
  in_calendar : year < 10000 ∧ ordinal ≤ maxOrdinal
  is_time : clock.hour < 24 ∧ clock.minute < 60 ∧ clock.second < 60
  is_micros : if fractional then clock.microsecond < 1000000 else clock.microsecond = 0
  zone_fits : zone.Fits

namespace Written

def dateText (w : Written) : List Char :=
  decimals 4 w.year ++ '-' :: (decimals 2 w.month ++ '-' :: decimals 2 w.day)

def clockText (w : Written) : List Char :=
  decimals 2 w.clock.hour ++ ':' :: (decimals 2 w.clock.minute ++ ':' :: (decimals 2 w.clock.second ++
    if w.fractional then '.' :: decimals 6 w.clock.microsecond else []))

def text (w : Written) : List Char := w.dateText ++ 'T' :: (w.clockText ++ w.zone.text)

/-- The instant that is meant: what its clock shows, less what the clock is ahead of UTC's. -/
def instant (w : Written) : Int :=
  (w.ordinal : Int) * microsPerDay + w.clock.micros - w.zone.ahead.getD 0

end Written

theorem digit?_digitChar : ∀ d < 10, digit? (Nat.digitChar d) = some d := by decide

theorem digits_go_decimals (n k acc : Nat) (rest : List Char) :
    digits.go n acc (decimals n k ++ rest) = some (10 ^ n * acc + k % 10 ^ n, rest) := by
  induction n generalizing acc with
  | zero =>
    show some (acc, rest) = _
    rw [Nat.pow_zero, Nat.one_mul, Nat.mod_one, Nat.add_zero]
  | succ n ih =>
    have hdigit := digit?_digitChar (k / 10 ^ n % 10) (Nat.mod_lt _ (by decide))
    show (digit? _).bind (fun d => digits.go n (10 * acc + d) (decimals n k ++ rest)) = _
    rw [hdigit, Option.bind_some, ih, Nat.mod_pow_succ]
    have hacc : 10 ^ (n + 1) * acc = 10 ^ n * (10 * acc) := by rw [Nat.pow_succ, Nat.mul_assoc]
    rw [hacc, Nat.mul_add]
    congr 2
    omega

/-- The reader of digits reads back what was written. -/
theorem digits_decimals {n k : Nat} (rest : List Char) (h : k < 10 ^ n) :
    digits n (decimals n k ++ rest) = some (k, rest) := by
  show digits.go n 0 _ = _
  rw [digits_go_decimals, Nat.mod_eq_of_lt h, Nat.mul_zero, Nat.zero_add]

/-- A digit is none of the characters that mean something else. -/
theorem digitChar_ne : ∀ d < 10, ∀ c ∈ ['-', '+', 'Z', 'W', ':'], Nat.digitChar d ≠ c := by
  intro d hd c hc heq
  have hdigit := digit?_digitChar d hd
  have hnone : digit? c = none := by
    simp only [List.mem_cons, List.not_mem_nil, or_false] at hc
    rcases hc with rfl | rfl | rfl | rfl | rfl <;> rfl
  rw [heq, hnone] at hdigit
  cases hdigit

theorem mem_decimals {n k : Nat} {c : Char} (h : c ∈ decimals n k) :
    ∃ d < 10, Nat.digitChar d = c := by
  induction n with
  | zero => cases h
  | succ n ih =>
    rcases List.mem_cons.mp h with rfl | h
    · exact ⟨_, Nat.mod_lt _ (by decide), rfl⟩
    · exact ih h

theorem ymd2ord_bounds {year month day ordinal : Nat} (h : ymd2ord year month day = some ordinal) :
    month < 100 ∧ day < 100 := by
  unfold ymd2ord at h
  split at h
  next hdate =>
    have hdays : daysInMonth year month ≤ 31 := by
      unfold daysInMonth
      split <;> try split
      all_goals omega
    omega
  next => cases h

/-- A written date is ten characters long, and what follows it is not looked at. -/
theorem separatorAt_text (w : Written) (rest : List Char) : separatorAt (w.dateText ++ rest) = 10 := by
  have hmonth := digitChar_ne (w.month / 10 ^ 1 % 10) (Nat.mod_lt _ (by decide)) 'W' (by decide)
  have hlength : (w.dateText ++ rest).length ≠ 7 := by
    rw [List.length_append]
    show 10 + rest.length ≠ 7
    omega
  have hweek : (w.dateText ++ rest)[5]? ≠ some 'W' := fun h => hmonth (Option.some.inj h)
  unfold separatorAt
  rw [if_neg hlength, if_pos (by rfl), if_neg hweek]

theorem parseDate_dateText (w : Written) : parseDate w.dateText = some w.ordinal := by
  obtain ⟨hmonth, hday⟩ := ymd2ord_bounds w.is_date
  have hcalendar : calendarDate w.year true
      (decimals 2 w.month ++ '-' :: decimals 2 w.day) = some w.ordinal := by
    have hlast := digits_decimals (n := 2) [] hday
    rw [List.append_nil] at hlast
    unfold calendarDate
    rw [digits_decimals _ hmonth]
    simp only [hyphen]
    simp [hlast, w.is_date]
  unfold parseDate Written.dateText
  rw [digits_decimals _ w.in_calendar.1]
  have hmonth := digitChar_ne (w.month / 10 ^ 1 % 10) (Nat.mod_lt _ (by decide)) 'W' (by decide)
  show (match decimals 2 w.month ++ '-' :: decimals 2 w.day with
    | 'W' :: rest => weekDate w.year true rest
    | _ => calendarDate w.year true _) = _
  split
  next rest h => exact absurd (List.cons.inj h).1 hmonth
  next => exact hcalendar

theorem fraction_decimals {k : Nat} (h : k < 10 ^ 6) : fraction (decimals 6 k) = some k := by
  have hall : (decimals 6 k).all (fun c => (digit? c).isSome) = true := by
    rw [List.all_eq_true]
    intro c hc
    obtain ⟨d, hd, rfl⟩ := mem_decimals hc
    rw [digit?_digitChar d hd]
    rfl
  have hdigits := digits_decimals [] h
  unfold fraction
  rw [if_neg]
  · rw [List.append_nil] at hdigits
    show (digits 6 (decimals 6 k ++ [])).map Prod.fst = _
    rw [List.append_nil, hdigits]
    rfl
  · rw [hall]
    simp [decimals]

theorem colon_cons (rest : List Char) : colon true (':' :: rest) = some rest := rfl

theorem parseClock_clockText (w : Written) : parseClock w.clockText = some w.clock := by
  obtain ⟨hhour, hminute, hsecond⟩ := w.is_time
  have hmicros := w.is_micros
  unfold parseClock Written.clockText
  rw [digits_decimals _ (by omega)]
  simp only [Option.bind_eq_bind, Option.bind_some, List.head?_cons, decide_true, reduceCtorEq, if_false,
    colon_cons]
  rw [digits_decimals _ (by omega)]
  simp only [Option.bind_some, reduceCtorEq, if_false, colon_cons]
  rw [digits_decimals _ (by omega)]
  cases hfractional : w.fractional with
  | false =>
    rw [hfractional, if_neg Bool.false_ne_true] at hmicros
    show some (⟨w.clock.hour, w.clock.minute, w.clock.second, 0⟩ : Clock) = _
    rw [← hmicros]
  | true =>
    rw [hfractional, if_pos rfl] at hmicros
    show (fraction (decimals 6 w.clock.microsecond)).bind _ = _
    rw [fraction_decimals hmicros]
    rfl

/-- An offset is its clock's time of day, with its sign. -/
theorem parseOffset_eq {sign : Char} {cs : List Char} {c : Clock} (hsign : sign ≠ 'Z')
    (hclock : parseClock cs = some c) (hday : c.micros < microsPerDay) :
    parseOffset sign cs = some (if sign = '-' then -(c.micros : Int) else c.micros) := by
  unfold parseOffset
  rw [if_neg hsign, hclock, Option.bind_eq_bind, Option.bind_some, if_pos hday]

theorem parseOffset_text (west : Bool) {hours minutes : Nat} (hhours : hours < 24)
    (hminutes : minutes < 60) :
    parseOffset (if west then '-' else '+') (decimals 2 hours ++ ':' :: decimals 2 minutes) =
      Zone.ahead (.offset west hours minutes) := by
  have hlast := digits_decimals (n := 2) (k := minutes) [] (by omega)
  rw [List.append_nil] at hlast
  have hclock : parseClock (decimals 2 hours ++ ':' :: decimals 2 minutes) =
      some ⟨hours, minutes, 0, 0⟩ := by
    unfold parseClock
    rw [digits_decimals _ (by omega)]
    simp only [Option.bind_eq_bind, Option.bind_some, List.head?_cons, decide_true, reduceCtorEq,
      if_false, colon_cons, hlast]
    rfl
  have hmicros : Clock.micros ⟨hours, minutes, 0, 0⟩ = (hours * 60 + minutes) * 60000000 := by
    unfold Clock.micros
    dsimp only
    omega
  have hsign : (if west then '-' else '+') ≠ 'Z' := by cases west <;> decide
  rw [parseOffset_eq hsign hclock (by rw [hmicros]; unfold microsPerDay; omega), hmicros]
  unfold Zone.ahead
  cases west <;> simp

/-- Nothing in a written clock begins an offset. -/
theorem not_sign_of_mem_clockText {w : Written} {c : Char} (h : c ∈ w.clockText) :
    (c == '+' || c == '-' || c == 'Z') = false := by
  have hdigits (n k : Nat) (h : c ∈ decimals n k) : (c == '+' || c == '-' || c == 'Z') = false := by
    obtain ⟨d, hd, rfl⟩ := mem_decimals h
    have hne := digitChar_ne d hd
    simp [hne]
  unfold Written.clockText at h
  simp only [List.mem_append, List.mem_cons] at h
  rcases h with h | rfl | h | rfl | h | h
  · exact hdigits _ _ h
  · rfl
  · exact hdigits _ _ h
  · rfl
  · exact hdigits _ _ h
  · split at h
    · rcases List.mem_cons.mp h with rfl | h
      · rfl
      · exact hdigits _ _ h
    · cases h

theorem parseTime_text (w : Written) :
    parseTime (w.clockText ++ w.zone.text) = some (w.clock.micros, w.zone.ahead) := by
  -- The clock has no sign in it, so the first one is the offset's.
  have hclock : ∀ c ∈ w.clockText, (!(c == '+' || c == '-' || c == 'Z')) = true := fun c hc => by
    rw [not_sign_of_mem_clockText hc]
    rfl
  have htime : (parseClock w.clockText).bind timeOfDay = some w.clock.micros := by
    rw [parseClock_clockText, Option.bind_some]
    unfold timeOfDay
    rw [if_pos (Or.inl w.is_time)]
  have hzone := w.zone_fits
  unfold parseTime
  dsimp only
  rw [List.takeWhile_append_of_pos hclock, List.dropWhile_append_of_pos hclock]
  -- The offset: none, a Z, or a sign with hours and minutes.
  cases hw : w.zone with
  | naive =>
    show ((parseClock (w.clockText ++ [])).bind timeOfDay).bind _ = _
    rw [List.append_nil, htime]
    rfl
  | utc =>
    show ((parseClock (w.clockText ++ [])).bind timeOfDay).bind _ = _
    rw [List.append_nil, htime]
    rfl
  | offset west hours minutes =>
    rw [hw] at hzone
    cases west with
    | false =>
      have hoffset : parseOffset '+' _ = _ := parseOffset_text false hzone.1 hzone.2
      show ((parseClock (w.clockText ++ [])).bind timeOfDay).bind _ = _
      rw [List.append_nil, htime, Option.bind_some]
      show (parseOffset '+' _).bind _ = _
      rw [hoffset]
      rfl
    | true =>
      have hoffset : parseOffset '-' _ = _ := parseOffset_text true hzone.1 hzone.2
      show ((parseClock (w.clockText ++ [])).bind timeOfDay).bind _ = _
      rw [List.append_nil, htime, Option.bind_some]
      show (parseOffset '-' _).bind _ = _
      rw [hoffset]
      rfl

/-- **What is written is read as what is meant**: the local time, and the zone it was written in. -/
theorem fromisoformat_text (w : Written) : fromisoformat w.text =
    some ⟨(w.ordinal : Int) * microsPerDay + w.clock.micros, w.zone.ahead⟩ := by
  -- The date takes ten characters, the separator one.
  have hdate : (w.dateText ++ 'T' :: (w.clockText ++ w.zone.text)).take 10 = w.dateText := by
    exact List.take_left' rfl
  have htime : (w.dateText ++ 'T' :: (w.clockText ++ w.zone.text)).drop 11 =
      w.clockText ++ w.zone.text := rfl
  have hlength : ¬ w.text.length < 7 := by
    unfold Written.text
    rw [List.length_append]
    show ¬ 10 + _ < 7
    omega
  -- No clock runs over midnight, so the day is the date's and is in the calendar.
  have hday : w.clock.micros < microsPerDay := by
    obtain ⟨hhour, hminute, hsecond⟩ := w.is_time
    have hmicros := w.is_micros
    have hsub : w.clock.microsecond < 1000000 := by
      split at hmicros <;> omega
    unfold Clock.micros microsPerDay
    omega
  have hfits : w.ordinal + w.clock.micros / microsPerDay ≤ maxOrdinal := by
    rw [Nat.div_eq_of_lt hday]
    exact w.in_calendar.2
  have hparts : fromisoformat w.text = (parseDate w.dateText).bind fun ordinal =>
      (parseTime (w.clockText ++ w.zone.text)).bind fun time =>
        if ordinal + time.1 / microsPerDay ≤ maxOrdinal then
          some ⟨(ordinal : Int) * microsPerDay + time.1, time.2⟩
        else none := by
    unfold fromisoformat
    rw [if_neg hlength]
    unfold Written.text
    rw [separatorAt_text, hdate, htime]
    rfl
  rw [hparts, parseDate_dateText, Option.bind_some, parseTime_text, Option.bind_some, if_pos hfits]

/-- **One instant is one number**, in whatever zone it is written. -/
theorem instant_text (w : Written) : (fromisoformat w.text).map (·.instant) = some w.instant := by
  rw [fromisoformat_text]
  rfl

/-- February begins in UTC, written an hour ahead. -/
example : ∃ w : Written, w.text = "2024-02-01T01:00:00+01:00".toList ∧
    w.instant = 63842428800000000 :=
  ⟨⟨2024, 2, 1, ⟨1, 0, 0, 0⟩, false, .offset false 1 0, 738917, by decide, by decide, by decide,
    by decide, ⟨by decide, by decide⟩⟩, by decide, by decide⟩

end Iso8601
