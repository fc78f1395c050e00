/-
**What the clock says.**

A moment is written by a format whose directives name parts of the date and of the time.  A
directive may be told how to pad what it writes.  Moments are in universal time; the clock of a
machine begins at a fixed one.

Main definitions:

* `AssemblyGate.Moment.part?` — what a directive writes;
* `AssemblyGate.Moment.write` — a moment by a format;
* `AssemblyGate.Moment.read?` — the moment that a text means;
* `AssemblyGate.Tool.date` — say what the clock says.
-/
import AssemblyGate.Posix.Tool.Basic
import AssemblyGate.Time.Stamp

set_option autoImplicit false

namespace AssemblyGate

namespace Moment

/-- The second at which the clock of a machine begins. -/
def firstSecond : Int := Date.toDays ⟨2025, 1, 1⟩ * 86400

/-- What the clock of a machine shows. -/
def ofMachine (m : Machine) : Stamp :=
  ⟨firstSecond + (m.clock / 1000 : Nat), m.clock % 1000 * 1000000, 0⟩

/-! ### Writing -/

/-- The names of the days of the week. -/
def dayNames : List String :=
  ["Sunday", "Monday", "Tuesday", "Wednesday", "Thursday", "Friday", "Saturday"]

/-- The names of the months. -/
def monthNames : List String :=
  ["January", "February", "March", "April", "May", "June", "July", "August", "September",
    "October", "November", "December"]

/-- The day of the week, counted from Sunday. -/
def weekDay (s : Stamp) : Nat := ((s.date.toDays + 4).fmod 7).toNat

/-- The day of the year, counted from zero. -/
def yearDay (s : Stamp) : Nat := (s.date.toDays - Date.toDays ⟨s.date.year, 1, 1⟩).toNat

/-- The year and the number of the week in which most days of a day's week lie. -/
def weekOfYear (s : Stamp) : Int × Nat :=
  let fromMonday : Int := (weekDay s + 6 : Nat) % 7
  let thursday := s.date.toDays - fromMonday + 3
  let year := (Date.ofDays thursday).year
  (year, ((thursday - Date.toDays ⟨year, 1, 1⟩) / 7).toNat + 1)

/-- What a directive writes: a text, or a number with its usual width and padding. -/
inductive Part
  | text (t : ByteText)
  | number (n : Int) (width : Nat) (padding : Char)

/-- What a directive writes that stands for a single part of the date or the time. -/
def part? (s : Stamp) (letter : Char) : Option Part :=
  let d := s.date
  let hour := s.secondOfDay / 3600
  let ofTwelve : Nat := (hour + 11) % 12 + 1
  let name (names : List String) (n : Nat) : ByteText := (names[n]?.getD "").toList
  match letter with
  | 'Y' => some (.number d.year 4 '0')
  | 'C' => some (.number (d.year / 100) 2 '0')
  | 'y' => some (.number (d.year % 100) 2 '0')
  | 'G' => some (.number (weekOfYear s).1 4 '0')
  | 'g' => some (.number ((weekOfYear s).1 % 100) 2 '0')
  | 'm' => some (.number d.month 2 '0')
  | 'd' => some (.number d.day 2 '0')
  | 'e' => some (.number d.day 2 ' ')
  | 'H' => some (.number hour 2 '0')
  | 'k' => some (.number hour 2 ' ')
  | 'I' => some (.number ofTwelve 2 '0')
  | 'l' => some (.number ofTwelve 2 ' ')
  | 'M' => some (.number (s.secondOfDay / 60 % 60 : Nat) 2 '0')
  | 'S' => some (.number (s.secondOfDay % 60 : Nat) 2 '0')
  | 's' => some (.number s.second 1 '0')
  | 'N' => some (.number s.nanos 9 '0')
  | 'j' => some (.number (yearDay s + 1 : Nat) 3 '0')
  | 'u' => some (.number ((weekDay s + 6) % 7 + 1 : Nat) 1 '0')
  | 'w' => some (.number (weekDay s) 1 '0')
  | 'U' => some (.number ((yearDay s + 7 - weekDay s) / 7 : Nat) 2 '0')
  | 'W' => some (.number ((yearDay s + 7 - (weekDay s + 6) % 7) / 7 : Nat) 2 '0')
  | 'V' => some (.number (weekOfYear s).2 2 '0')
  | 'q' => some (.number ((d.month + 2) / 3 : Nat) 1 '0')
  | 'p' => some (.text (chars (if hour < 12 then "AM" else "PM")))
  | 'P' => some (.text (chars (if hour < 12 then "am" else "pm")))
  | 'a' => some (.text ((name dayNames (weekDay s)).take 3))
  | 'A' => some (.text (name dayNames (weekDay s)))
  | 'b' | 'h' => some (.text ((name monthNames (d.month - 1)).take 3))
  | 'B' => some (.text (name monthNames (d.month - 1)))
  | 'Z' => some (.text (chars "UTC"))
  | 'z' => some (.text (chars "+0000"))
  | 'n' => some (.text ['\n'])
  | 't' => some (.text ['\t'])
  | '%' => some (.text ['%'])
  | _ => none

/-- The format that a directive stands for, if it stands for several parts. -/
def longForm? (letter : Char) : Option String :=
  match letter with
  | 'D' | 'x' => some "%m/%d/%y"
  | 'F' => some "%Y-%m-%d"
  | 'T' | 'X' => some "%H:%M:%S"
  | 'R' => some "%H:%M"
  | 'r' => some "%I:%M:%S %p"
  | 'c' => some "%a %b %e %H:%M:%S %Y"
  | _ => none

/-- A part with the padding and the width that a directive asks for. -/
def Part.shown (part : Part) (flag : Option Char) (width : Option Nat) : ByteText :=
  match part with
  | .text t =>
      let t := if flag = some '^' then t.map Char.toUpper else t
      List.replicate (width.getD 0 - t.length) (if flag = some '0' then '0' else ' ') ++ t
  | .number n usual padding =>
      let digits := Numeral.integer n
      let padding := match flag with
        | some '_' => ' '
        | some '0' => '0'
        | _ => padding
      if flag = some '-' then digits
      else List.replicate (width.getD usual - digits.length) padding ++ digits

/-- A moment by a format.  What is no directive stands for itself. -/
def writeFrom (s : Stamp) : Nat → ByteText → ByteText
  | 0, _ => []
  | _, [] => []
  | room + 1, '%' :: rest =>
      let flags := rest.takeWhile fun c => "-_0^#".toList.contains c
      let digits := (rest.drop flags.length).takeWhile Numeral.isDigit
      let width := Numeral.natural? digits
      match rest.drop (flags.length + digits.length) with
      | [] => '%' :: rest
      | ':' :: 'z' :: more => chars "+00:00" ++ writeFrom s room more
      | letter :: more =>
          match part? s letter with
          | some part => part.shown flags.getLast? width ++ writeFrom s room more
          | none =>
              match longForm? letter with
              | some form => writeFrom s room form.toList ++ writeFrom s room more
              | none => '%' :: flags ++ digits ++ letter :: writeFrom s room more
  | room + 1, c :: rest => c :: writeFrom s room rest

/-- A moment by a format. -/
def write (s : Stamp) (format : ByteText) : ByteText := writeFrom s (format.length + 21) format

/-! ### Reading -/

/-- The numbers between the occurrences of a character. -/
def numbers? (mark : Char) (text : ByteText) : Option (List Nat) :=
  (ByteText.split mark text).mapM Numeral.natural?

/-- The second of the day of a time with colons. -/
def readTime? (text : ByteText) : Option Nat :=
  match numbers? ':' text with
  | some [h, m] => if h < 24 ∧ m < 60 then some (h * 3600 + m * 60) else none
  | some [h, m, s] => if h < 24 ∧ m < 60 ∧ s < 60 then some (h * 3600 + m * 60 + s) else none
  | _ => none

/-- The number of a day of the calendar. -/
def readDay? (text : ByteText) : Option Int :=
  match numbers? '-' text with
  | some [y, m, d] =>
      let date : Date := ⟨y, m, d⟩
      if Date.ofDays date.toDays = date then some date.toDays else none
  | _ => none

/-- The moment that a text means, seen from now: seconds behind a sign, a day with or without a
time, or now. -/
def read? (now : Stamp) (text : ByteText) : Option Stamp :=
  let at_ (second : Int) : Stamp := ⟨second, 0, 0⟩
  match text with
  | '@' :: digits => (Numeral.signed? digits).map at_
  | _ =>
      let words := (ByteText.split ' ' text).filter fun word => !word.isEmpty && word ≠ chars "UTC"
      let words := match words with
        | [word] => if word.head?.any Numeral.isDigit then ByteText.split 'T' word else words
        | _ => words
      match words with
      | [] => some (at_ (now.second - now.secondOfDay))
      | [word] =>
          if word = chars "now" || word = chars "today" then some now
          else
            match readDay? word with
            | some day => some (at_ (day * 86400))
            | none => (readTime? word).map fun n => at_ (now.second - now.secondOfDay + n)
      | [day, time] =>
          let time := if time.getLast? = some 'Z' then time.dropLast else time
          match readDay? day, readTime? time with
          | some day, some n => some (at_ (day * 86400 + n))
          | _, _ => none
      | _ => none

end Moment

namespace Tool

/-- The format of a date in the style of the calendar, by how precise it is. -/
def calendarForm? (precision : ByteText) : Option String :=
  if precision.isEmpty || precision = chars "date" then some "%Y-%m-%d"
  else if precision = chars "hours" then some "%Y-%m-%dT%H%:z"
  else if precision = chars "minutes" then some "%Y-%m-%dT%H:%M%:z"
  else if precision = chars "seconds" then some "%Y-%m-%dT%H:%M:%S%:z"
  else if precision = chars "ns" then some "%Y-%m-%dT%H:%M:%S,%N%:z"
  else none

/-- Say what the clock says, or what a text means, by a format. -/
def date : Tool := fun t m =>
  t.withOptions ⟨"d:I::Ru", [("date", 'd'), ("iso-8601", 'I'), ("rfc-email", 'R'), ("utc", 'u'),
    ("universal", 'u'), ("uct", 'u')], true⟩ 1 m fun o =>
    let now := Moment.ofMachine m
    let standard : Option String := match o.lastOf? ['I', 'R'] with
      | some 'I' => calendarForm? ((o.value? 'I').getD [])
      | some _ => some "%a, %d %b %Y %H:%M:%S %z"
      | none => some "%a %b %e %H:%M:%S %Z %Y"
    let meant : Except ByteText Stamp := match o.value? 'd' with
      | none => .ok now
      | some text => match Moment.read? now text with
        | some stamp => .ok stamp
        | none => .error text
    let failed (text : ByteText) : Effect := .failed m (t.complain text) 1
    let answer (format : ByteText) : Effect := match meant with
      | .ok stamp => .say m (Moment.write stamp format ++ ['\n'])
      | .error text => failed (chars "invalid date " ++ inPlainQuotes text)
    match standard, o.operands with
    | none, _ =>
        .failed m (t.misuse (chars "invalid argument " ++ inPlainQuotes ((o.value? 'I').getD [])
          ++ chars " for '--iso-8601'\nValid arguments are:\n  - 'hours'\n  - 'minutes'\n"
          ++ chars "  - 'date'\n  - 'seconds'\n  - 'ns'")) 1
    | _, _ :: extra :: _ => .failed m (t.misuse (chars "extra operand " ++ inPlainQuotes extra)) 1
    | _, [('+' :: format)] =>
        if o.has 'I' || o.has 'R' then failed (chars "multiple output formats specified")
        else answer format
    | _, [operand] =>
        if o.has 'd' then
          .failed m (t.misuse (chars "the argument " ++ inPlainQuotes operand
            ++ chars " lacks a leading '+';\nwhen using an option to specify date(s), any "
            ++ chars "non-option\nargument must be a format string beginning with '+'")) 1
        else failed (chars "invalid date " ++ inPlainQuotes operand)
    | some form, [] =>
        if o.has 'I' && o.has 'R' then failed (chars "multiple output formats specified")
        else answer form.toList

end Tool

end AssemblyGate
