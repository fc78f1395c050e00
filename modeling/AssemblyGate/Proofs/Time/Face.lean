/-
**Written times are read back.**

A written time shows a date, a time of the day and how far the local clock is ahead of universal
time or behind it.  The calendar says which instant that is.  Both forms of a stamp, read field by
field, show the stamp's face; and the face denotes the stamp's second when the local clock is off by
whole minutes.  The digits after the second are the nanoseconds, no more of them than it takes.

Main definitions:

* `AssemblyGate.Face`, `AssemblyGate.Face.instant` — what a written time shows, and the instant
  that it denotes;
* `AssemblyGate.Face.ofLog?`, `AssemblyGate.Face.ofInternet?` — reading a written time;
* `AssemblyGate.Stamp.face` — the face of a stamp;
* `AssemblyGate.Fewest` — digits after the second that lose nothing, and no fewer do.

Main results:

* `AssemblyGate.Stamp.ofLog?_logForm`, `AssemblyGate.Stamp.ofInternet?_internetForm` — **a written
  stamp shows its face**;
* `AssemblyGate.Stamp.instant_face` — **the face denotes the stamp's second**;
* `AssemblyGate.Stamp.fewest_places` — the digits after the second are the nanoseconds.
-/
import AssemblyGate.Proofs.Text.Cutting
import AssemblyGate.Proofs.Text.Numeral
import AssemblyGate.Proofs.Time.Gregorian
import AssemblyGate.Time.Stamp

set_option autoImplicit false

namespace AssemblyGate

/-- What a written time shows: the date, the time of the day, and by how many minutes the local
clock is ahead of universal time, or behind it. -/
structure Face where
  date : Date
  hour : Nat
  minute : Nat
  second : Nat
  behind : Bool
  gap : Nat
deriving DecidableEq

namespace Face

/-- The seconds by which the local clock is ahead of universal time. -/
def offset (f : Face) : Int := if f.behind then -(60 * f.gap) else 60 * f.gap

/-- The instant that a face denotes, in seconds since 1970. -/
def instant (f : Face) : Int :=
  f.date.dayNumber * 86400 + (f.hour * 3600 + f.minute * 60 + f.second) - f.offset

/-- A face that a clock without leap seconds shows. -/
structure Proper (f : Face) : Prop where
  date : f.date.IsDay
  hour : f.hour < 24
  minute : f.minute < 60
  second : f.second < 60

/-! ### Reading -/

/-- The month of a short name. -/
def month? (name : List Char) : Option Nat :=
  (List.range' 1 12).find? fun month => (Date.monthName month).toList = name

/-- A year from its sign and its digits. -/
def year? (negative : Bool) (digits : List Char) : Option Int :=
  (Numeral.natural? digits).map fun n : Nat => if negative then -(n : Int) else (n : Int)

/-- Read a time in the form of access logs, `09/Mar/2024:14:05:00 +0000`. -/
def ofLog? (text : List Char) : Option Face := do
  let (day, text) := cutAt '/' text
  let (month, text) := cutAt '/' text
  let (negative, text) := cutSign text
  let (year, text) := cutAt ':' text
  let (hour, text) := cutAt ':' text
  let (minute, text) := cutAt ':' text
  let (second, text) := cutAt ' ' text
  let (behind, gap) := cutSign text
  let date := ⟨← year? negative year, ← month? month, ← Numeral.natural? day⟩
  let gap ← Numeral.natural? gap
  return ⟨date, ← Numeral.natural? hour, ← Numeral.natural? minute, ← Numeral.natural? second,
    behind, gap / 100 * 60 + gap % 100⟩

/-- Read a time in the form of the internet, `2024-03-09T14:05:00.250+00:00`; the digits after the
second come with the face. -/
def ofInternet? (text : List Char) : Option (Face × List Char) := do
  let (negative, text) := cutSign text
  let (year, text) := cutAt '-' text
  let (month, text) := cutAt '-' text
  let (day, text) := cutAt 'T' text
  let (hour, text) := cutAt ':' text
  let (minute, text) := cutAt ':' text
  let (second, text) := text.span Numeral.isDigit
  let (places, text) := cutPlaces text
  let (behind, text) := cutSign text
  let (hours, minutes) := cutAt ':' text
  let date := ⟨← year? negative year, ← Numeral.natural? month, ← Numeral.natural? day⟩
  let gap := (← Numeral.natural? hours) * 60 + (← Numeral.natural? minutes)
  return (⟨date, ← Numeral.natural? hour, ← Numeral.natural? minute, ← Numeral.natural? second,
    behind, gap⟩, places)

theorem cutSign_digits {digits : List Char} (h : Numeral.Digits digits) (rest : List Char) :
    cutSign (digits ++ rest) = (false, digits ++ rest) := by
  obtain ⟨c, tail, rfl, hplus, hminus⟩ := h.exists_cons
  exact cutSign_append .none (by simp [hplus, hminus])

theorem cutSign_digits_of_sign (negative : Bool) {digits : List Char} (h : Numeral.Digits digits)
    (rest : List Char) :
    cutSign ((if negative then '-' else '+') :: (digits ++ rest)) = (negative, digits ++ rest) := by
  obtain ⟨c, tail, rfl, hplus, hminus⟩ := h.exists_cons
  exact cutSign_append (.of_bool negative) (by simp [hplus, hminus])

theorem month?_monthName {month : Nat} (h : 1 ≤ month ∧ month ≤ 12) :
    month? (Date.monthName month).toList = some month := by
  have hall : ∀ m ∈ List.range' 1 12, month? (Date.monthName m).toList = some m := by decide
  exact hall month (List.mem_range'_1.2 (by omega))

/-- A written year has its sign, if it has one, and its digits. -/
theorem exists_year (y : Int) : ∃ negative digits, Numeral.Digits digits ∧
    year? negative digits = some y ∧
    ∀ rest, cutSign (Stamp.year y ++ rest) = (negative, digits ++ rest) := by
  have hdigits := fun n => Numeral.digits_padded 4 n
  have hnatural := fun n => Numeral.natural?_padded 4 n
  unfold Stamp.year
  split
  · refine ⟨false, _, hdigits _, ?_, fun rest => cutSign_digits (hdigits _) rest⟩
    simp only [year?, hnatural, Option.map_some, Bool.false_eq_true, if_false]
    rw [Int.toNat_of_nonneg (by omega)]
  · refine ⟨decide (y < 0), Numeral.padded 4 y.natAbs, hdigits _, ?_, fun rest => ?_⟩
    · simp only [year?, hnatural, Option.map_some, decide_eq_true_eq, Option.some.injEq]
      split <;> omega
    · simpa using cutSign_digits_of_sign (decide (y < 0)) (hdigits y.natAbs) rest

end Face

/-! ### The face of a stamp -/

namespace Stamp

/-- What the written forms of a stamp show. -/
def face (s : Stamp) : Face where
  date := s.date
  hour := s.secondOfDay / 3600
  minute := s.secondOfDay / 60 % 60
  second := s.secondOfDay % 60 + if s.isLeap then 1 else 0
  behind := decide (s.offset < 0)
  gap := (s.offset.natAbs + 30) / 60

variable {s : Stamp}

theorem secondOfDay_lt (s : Stamp) : s.secondOfDay < 86400 := by
  unfold secondOfDay
  rw [Int.fmod_eq_emod_of_nonneg _ (by decide)]
  omega

/-- The local second by its day and the second of the day. -/
theorem localSecond_eq (s : Stamp) :
    s.localSecond = s.date.dayNumber * 86400 + s.secondOfDay := by
  rw [date, Date.dayNumber_ofDays, secondOfDay, Int.fdiv_eq_ediv_of_nonneg _ (by decide),
    Int.fmod_eq_emod_of_nonneg _ (by decide)]
  omega

theorem isLeap_eq_false (hnanos : s.nanos < 10 ^ 9) : s.isLeap = false := by
  simpa [isLeap] using hnanos

theorem proper_face (hnanos : s.nanos < 10 ^ 9) : s.face.Proper := by
  have hday := s.secondOfDay_lt
  refine ⟨Date.isDay_ofDays _, ?_, ?_, ?_⟩
  all_goals
    simp only [face, isLeap_eq_false hnanos, Bool.false_eq_true, if_false]
    omega

/-- **The face denotes the stamp's second**, when the local clock is off by whole minutes. -/
theorem instant_face (hnanos : s.nanos < 10 ^ 9) (hoffset : s.offset % 60 = 0) :
    s.face.instant = s.second := by
  have hlocal := s.localSecond_eq
  have hface : s.face.offset = s.offset := by
    simp only [Face.offset, face, decide_eq_true_eq]
    split <;> omega
  rw [Face.instant, hface]
  simp only [face, isLeap_eq_false hnanos, Bool.false_eq_true, if_false]
  unfold localSecond at hlocal
  omega

/-! ### Reading a stamp -/

theorem isDay_date (s : Stamp) : s.date.IsDay := Date.isDay_ofDays _

theorem not_mem_padded {c : Char} (hc : ¬('0' ≤ c ∧ c ≤ '9')) (width n : Nat) :
    c ∉ Numeral.padded width n :=
  (Numeral.digits_padded width n).not_mem hc

/-- The hours and minutes of a distance, written without anything between them. -/
theorem natural?_hoursMinutes (minutes : Nat) :
    Numeral.natural? (Numeral.padded 2 (minutes / 60) ++ Numeral.padded 2 (minutes % 60))
      = some (minutes / 60 * 100 + minutes % 60) := by
  have hlow : minutes % 60 < 10 ^ 2 := by omega
  have hhours := Numeral.digits_padded 2 (minutes / 60)
  have hminutes := Numeral.digits_padded 2 (minutes % 60)
  refine Numeral.natural?_eq_some_iff.2 ⟨⟨by simp [hhours.1], fun c hc => ?_⟩, ?_⟩
  · rcases List.mem_append.1 hc with hc | hc
    · exact hhours.2 c hc
    · exact hminutes.2 c hc
  · have hvalue := Numeral.ofDigits_append (Numeral.padded 2 (minutes / 60))
      (Numeral.padded 2 (minutes % 60))
    rw [Numeral.ofDigits_padded, Numeral.ofDigits_padded,
      Numeral.length_padded (by decide) hlow] at hvalue
    exact hvalue

/-- **A stamp in the form of access logs shows its face.** -/
theorem ofLog?_logForm (s : Stamp) : Face.ofLog? s.logForm = some s.face := by
  have hmonth : '/' ∉ (Date.monthName s.date.month).toList := by
    have hall : ∀ m ∈ List.range' 1 12, '/' ∉ (Date.monthName m).toList := by decide
    exact hall _ (List.mem_range'_1.2 (by have := s.isDay_date.month; omega))
  obtain ⟨negative, digits, hdigits, hyear, hsign⟩ := Face.exists_year s.date.year
  -- the form as the reader cuts it
  have hform : s.logForm = Numeral.padded 2 s.date.day ++ '/' ::
      ((Date.monthName s.date.month).toList ++ '/' :: (year s.date.year ++ (':' ::
        (Numeral.padded 2 (s.secondOfDay / 3600) ++ ':' ::
          (Numeral.padded 2 (s.secondOfDay / 60 % 60) ++ ':' ::
            (Numeral.padded 2 (s.secondOfDay % 60 + if s.isLeap then 1 else 0) ++ ' ' ::
              offsetForm [] s.offset)))))) := by
    simp [logForm, clock]
  have hoffset : cutSign (offsetForm [] s.offset) = (decide (s.offset < 0),
      Numeral.padded 2 ((s.offset.natAbs + 30) / 60 / 60)
        ++ Numeral.padded 2 ((s.offset.natAbs + 30) / 60 % 60)) := by
    simpa [offsetForm] using
      Face.cutSign_digits_of_sign (decide (s.offset < 0)) (Numeral.digits_padded 2 _) _
  have hgap : ∀ minutes : Nat, (minutes / 60 * 100 + minutes % 60) / 100 * 60
      + (minutes / 60 * 100 + minutes % 60) % 100 = minutes := by omega
  rw [Face.ofLog?, hform, cutAt_append (not_mem_padded (by decide) 2 _)]
  dsimp only
  rw [cutAt_append hmonth]
  dsimp only
  rw [hsign]
  dsimp only
  rw [cutAt_append (hdigits.not_mem (by decide))]
  dsimp only
  rw [cutAt_append (not_mem_padded (by decide) 2 _), cutAt_append (not_mem_padded (by decide) 2 _)]
  dsimp only
  rw [cutAt_append (not_mem_padded (by decide) 2 _), hoffset]
  simp only [hyear, Face.month?_monthName s.isDay_date.month, Numeral.natural?_padded,
    natural?_hoursMinutes, Option.bind_eq_bind, Option.bind_some, Option.pure_def, hgap]
  rfl

example : (Face.ofLog? "09/Mar/2024:14:05:00 -0130".toList).map Face.instant = some 1709998500 := by
  decide

/-! ### The digits after the second -/

/-- The digits after the second, without their point. -/
def places (s : Stamp) : List Char := (fraction s.shownNanos).drop 1

theorem placesText_fraction (nanos : Nat) :
    PlacesText (fraction nanos) ((fraction nanos).drop 1) := by
  have hpadded : ∀ width n, PlacesText ('.' :: Numeral.padded width n) (Numeral.padded width n) :=
    fun width n => .point (Numeral.digits_padded width n).2
  unfold fraction
  split
  · exact .none
  · split
    · exact hpadded _ _
    · split <;> exact hpadded _ _

end Stamp

/-- Digits after the second that denote nanoseconds, and of none, three, six and nine digits no
fewer do. -/
structure Fewest (nanos : Nat) (places : List Char) : Prop where
  length : places.length ∈ [0, 3, 6, 9]
  value : Numeral.ofDigits places * 10 ^ (9 - places.length) = nanos
  fewest : ∀ k ∈ [0, 3, 6, 9], 10 ^ (9 - k) ∣ nanos → places.length ≤ k

/-- As many digits as it takes, when fewer of them would lose something. -/
theorem Fewest.of_padded {nanos width : Nat} (hnanos : nanos < 10 ^ 9) (hwidth : width ∈ [3, 6, 9])
    (henough : 10 ^ (9 - width) ∣ nanos)
    (hfewer : ∀ k ∈ [0, 3, 6, 9], k < width → ¬10 ^ (9 - k) ∣ nanos) :
    Fewest nanos (Numeral.padded width (nanos / 10 ^ (9 - width))) := by
  have hsmall : 0 < width ∧ width ≤ 9 := by
    simp only [List.mem_cons, List.not_mem_nil, or_false] at hwidth
    omega
  have hlength : (Numeral.padded width (nanos / 10 ^ (9 - width))).length = width := by
    refine Numeral.length_padded hsmall.1 (Nat.div_lt_of_lt_mul ?_)
    rw [← Nat.pow_add, show 9 - width + width = 9 by omega]
    exact hnanos
  refine ⟨?_, ?_, fun k hk hdvd => ?_⟩
  · rw [hlength]
    exact List.mem_cons_of_mem _ hwidth
  · rw [hlength, Numeral.ofDigits_padded, Nat.div_mul_cancel henough]
  · rw [hlength]
    exact Nat.le_of_not_lt fun hlt => hfewer k hk hlt hdvd

namespace Stamp

variable {s : Stamp}

/-- **The digits after the second are the nanoseconds**, and as few as can be. -/
theorem fewest_places (hnanos : s.nanos < 10 ^ 9) : Fewest s.nanos s.places := by
  have hshown : s.shownNanos = s.nanos := by simp [shownNanos, isLeap_eq_false hnanos]
  rw [places, hshown]
  unfold fraction
  split
  · rename_i hzero
    exact ⟨by simp, by simp [hzero, Numeral.ofDigits], by simp⟩
  · rename_i hzero
    split
    · exact .of_padded hnanos (by simp) (by omega) (by simp; omega)
    · rename_i hmillis
      split
      · exact .of_padded hnanos (by simp) (by omega) (by simp; omega)
      · have hwhole : Fewest s.nanos (Numeral.padded 9 (s.nanos / 10 ^ (9 - 9))) :=
          .of_padded hnanos (by simp) (by omega) (by simp; omega)
        simpa using hwhole

/-- **A stamp in the form of the internet shows its face**, and the digits after the second. -/
theorem ofInternet?_internetForm (s : Stamp) :
    Face.ofInternet? s.internetForm = some (s.face, s.places) := by
  obtain ⟨negative, digits, hdigits, hyear, hsign⟩ := Face.exists_year s.date.year
  -- the form as the reader cuts it
  have hform : s.internetForm = year s.date.year ++ ('-' :: (Numeral.padded 2 s.date.month ++ '-' ::
      (Numeral.padded 2 s.date.day ++ 'T' :: (Numeral.padded 2 (s.secondOfDay / 3600) ++ ':' ::
        (Numeral.padded 2 (s.secondOfDay / 60 % 60) ++ ':' ::
          (Numeral.padded 2 (s.secondOfDay % 60 + if s.isLeap then 1 else 0)
            ++ (fraction s.shownNanos ++ offsetForm [':'] s.offset))))))) := by
    simp [internetForm, clock]
  have hoffset : offsetForm [':'] s.offset = (if decide (s.offset < 0) then '-' else '+') ::
      (Numeral.padded 2 ((s.offset.natAbs + 30) / 60 / 60) ++ ':' ::
        Numeral.padded 2 ((s.offset.natAbs + 30) / 60 % 60)) := by
    simp [offsetForm]
  have hstop : ∀ c ∈ (offsetForm [':'] s.offset).head?, Numeral.isDigit c = false ∧ c ≠ '.' := by
    rw [hoffset]
    split <;> simp <;> decide
  have hplaces := placesText_fraction s.shownNanos
  have hpoint := hplaces.head_append fun c hc => (hstop c hc).1
  have hgap : ∀ minutes : Nat, minutes / 60 * 60 + minutes % 60 = minutes := by omega
  rw [Face.ofInternet?, hform, hsign]
  dsimp only
  rw [cutAt_append (hdigits.not_mem (by decide))]
  dsimp only
  rw [cutAt_append (not_mem_padded (by decide) 2 _), cutAt_append (not_mem_padded (by decide) 2 _)]
  dsimp only
  rw [cutAt_append (not_mem_padded (by decide) 2 _), cutAt_append (not_mem_padded (by decide) 2 _)]
  dsimp only
  rw [Numeral.span_append (Numeral.digits_padded 2 _).2 hpoint]
  dsimp only
  rw [cutPlaces_append hplaces hstop, hoffset,
    Face.cutSign_digits_of_sign _ (Numeral.digits_padded 2 _)]
  dsimp only
  rw [cutAt_append (not_mem_padded (by decide) 2 _)]
  simp only [hyear, Numeral.natural?_padded, Option.bind_eq_bind, Option.bind_some,
    Option.pure_def, hgap]
  rfl

end Stamp

end AssemblyGate
