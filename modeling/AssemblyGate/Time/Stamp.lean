/-
**Time stamps.**

A time stamp is an instant together with the distance of the local clock from universal time.  It is
written in two ways: the one of access logs, to the second, and the one of the internet, with the
fewest of three, six or nine digits after the second that lose nothing, or none.  A leap second is
counted as the nanoseconds beyond the second before it and shown as second sixty.

Main definitions:

* `AssemblyGate.Stamp` — an instant and a local clock;
* `AssemblyGate.Stamp.logForm` — `09/Mar/2024:14:05:00 +0000`;
* `AssemblyGate.Stamp.internetForm` — `2024-03-09T14:05:00+00:00`.
-/
import AssemblyGate.Text.Numeral
import AssemblyGate.Time.Calendar

set_option autoImplicit false

namespace AssemblyGate

/-- An instant, in seconds since 1970 and nanoseconds, and the seconds by which the local clock is
ahead of universal time. -/
structure Stamp where
  second : Int
  nanos : Nat
  offset : Int
deriving DecidableEq

namespace Stamp

/-- The second that the local clock shows, counted from the local beginning of 1970. -/
def localSecond (s : Stamp) : Int := s.second + s.offset

/-- The local date. -/
def date (s : Stamp) : Date := Date.ofDays (s.localSecond.fdiv 86400)

/-- The local second of the day. -/
def secondOfDay (s : Stamp) : Nat := (s.localSecond.fmod 86400).toNat

/-- Whether the instant lies in a leap second. -/
def isLeap (s : Stamp) : Bool := 1000000000 ≤ s.nanos

/-- The nanoseconds that are shown. -/
def shownNanos (s : Stamp) : Nat := if s.isLeap then s.nanos - 1000000000 else s.nanos

/-- The time of the day with colons. -/
def clock (s : Stamp) : List Char :=
  let n := s.secondOfDay
  Numeral.padded 2 (n / 3600) ++ ':' :: Numeral.padded 2 (n / 60 % 60) ++ ':' ::
    Numeral.padded 2 (n % 60 + if s.isLeap then 1 else 0)

/-- A year: four digits from 0 to 9999, and four digits or more with a sign beyond. -/
def year (y : Int) : List Char :=
  if 0 ≤ y ∧ y ≤ 9999 then Numeral.padded 4 y.toNat
  else (if y < 0 then '-' else '+') :: Numeral.padded 4 y.natAbs

/-- The local clock's distance in hours and minutes, to the nearest minute, with the sign of the
distance in seconds; `gap` stands between the two numbers. -/
def offsetForm (gap : List Char) (offset : Int) : List Char :=
  let minutes := (offset.natAbs + 30) / 60
  (if offset < 0 then '-' else '+') :: Numeral.padded 2 (minutes / 60) ++ gap ++
    Numeral.padded 2 (minutes % 60)

/-- The form of access logs. -/
def logForm (s : Stamp) : List Char :=
  let d := s.date
  Numeral.padded 2 d.day ++ '/' :: (Date.monthName d.month).toList ++ '/' :: year d.year ++ ':' ::
    s.clock ++ ' ' :: offsetForm [] s.offset

/-- The digits after the second. -/
def fraction (nanos : Nat) : List Char :=
  if nanos = 0 then []
  else if nanos % 1000000 = 0 then '.' :: Numeral.padded 3 (nanos / 1000000)
  else if nanos % 1000 = 0 then '.' :: Numeral.padded 6 (nanos / 1000)
  else '.' :: Numeral.padded 9 nanos

/-- The form of the internet. -/
def internetForm (s : Stamp) : List Char :=
  let d := s.date
  year d.year ++ '-' :: Numeral.padded 2 d.month ++ '-' :: Numeral.padded 2 d.day ++ 'T' ::
    s.clock ++ fraction s.shownNanos ++ offsetForm [':'] s.offset

end Stamp

end AssemblyGate
