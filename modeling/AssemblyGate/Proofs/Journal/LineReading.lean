/-
**Access lines are read back without ambiguity.**

The combined format escapes nothing, and the client chooses the path and its name for itself.  Still
a line decides its entry.  Up to the size of the body each field lacks the character behind it, so
the line is read from the front; the time taken lacks the quotation mark and the space before it, so
it is read from the end; what is left between the two is the client's name for itself, whatever
stands in it.  A line in JSON holds no control character and is read as one object.

The time of a line is read by the rules of the calendar and denotes the instant of the entry.

Main definitions:

* `AssemblyGate.AccessEntry.Separable` — no field in front of the client's name for itself holds the
  character behind it;
* `AssemblyGate.AccessEntry.Agree` — two entries agree in what a combined line shows.

Main results:

* `AssemblyGate.AccessEntry.combinedLine_inj` — a combined line decides what it shows;
* `AssemblyGate.AccessEntry.lines_read_back` — **lines are read back without ambiguity**;
* `AssemblyGate.AccessEntry.times_denote` — **the times of lines denote the instants of their
  entries**.
-/
import AssemblyGate.Proofs.Journal.AccessLine
import AssemblyGate.Proofs.Time.Face

set_option autoImplicit false

namespace AssemblyGate.AccessEntry

/-! ### Combined lines -/

/-- No field in front of the client's name for itself holds the character behind it. -/
structure Separable (e : AccessEntry) : Prop where
  peer : ' ' ∉ e.peer.toList
  method : ' ' ∉ e.method.toList
  path : ' ' ∉ e.path.toList
  version : '"' ∉ e.version.toList

/-- The entries agree in what a combined line shows; a client without a name for itself is shown
as a dash. -/
structure Agree (e e' : AccessEntry) : Prop where
  peer : e.peer = e'.peer
  face : e.time.face = e'.time.face
  method : e.method = e'.method
  path : e.path = e'.path
  version : e.version = e'.version
  status : e.status = e'.status
  bodyBytes : e.bodyBytes = e'.bodyBytes
  agent : e.agent.getD "-" = e'.agent.getD "-"
  micros : e.micros = e'.micros

theorem not_mem_decimal {c : Char} (hc : ¬('0' ≤ c ∧ c ≤ '9')) (n : Nat) :
    c ∉ Nat.toDigits 10 n :=
  (Numeral.digits_decimal n).not_mem hc

theorem decimal_inj {m n : Nat} (h : Nat.toDigits 10 m = Nat.toDigits 10 n) : m = n := by
  rw [← Numeral.ofDigits_decimal m, Numeral.decimal, h]
  exact Numeral.ofDigits_decimal n

/-- A time in the form of access logs holds no bracket. -/
theorem bracket_not_mem_logForm (s : Stamp) : ']' ∉ s.logForm := by
  have hmonth : ']' ∉ (Date.monthName s.date.month).toList := by
    unfold Date.monthName
    split <;> decide
  have hpadded : ∀ width n, ']' ∉ Numeral.padded width n :=
    fun width n => Stamp.not_mem_padded (by decide) width n
  have hyear : ']' ∉ Stamp.year s.date.year := by
    unfold Stamp.year
    split
    · exact hpadded _ _
    · split <;> simp [hpadded]
  have hoffset : ']' ∉ Stamp.offsetForm [] s.offset := by
    unfold Stamp.offsetForm
    dsimp only
    split <;> simp [hpadded]
  simp [Stamp.logForm, Stamp.clock, hmonth, hyear, hoffset, hpadded]

/-- A combined line as it is read: from the front up to the size of the body, and from the end
back to the client's name for itself. -/
theorem combinedLine_eq (e : AccessEntry) :
    e.combinedLine = e.peer.toList ++ ' ' :: ("- - [".toList ++ (e.time.logForm ++ ']' ::
      (" \"".toList ++ (e.method.toList ++ ' ' :: (e.path.toList ++ ' ' :: ("HTTP/".toList
        ++ (e.version.toList ++ '"' :: (" ".toList ++ (Nat.toDigits 10 e.status ++ ' ' ::
          (Nat.toDigits 10 e.bodyBytes ++ ' ' :: ("\"-\" \"".toList
            ++ (((e.agent.getD "-").toList ++ ['"']) ++ ' ' ::
              (Nat.toDigits 10 e.micros ++ "us".toList))))))))))))) := by
  simp [combinedLine, commonLine]

/-- A combined line decides what it shows. -/
theorem combinedLine_inj {e e' : AccessEntry} (h : e.Separable) (h' : e'.Separable)
    (heq : e.combinedLine = e'.combinedLine) : e.Agree e' := by
  rw [combinedLine_eq, combinedLine_eq] at heq
  obtain ⟨hpeer, heq⟩ := append_cons_inj_left h.peer h'.peer heq
  obtain ⟨htime, heq⟩ := append_cons_inj_left (bracket_not_mem_logForm _)
    (bracket_not_mem_logForm _) (List.append_cancel_left heq)
  obtain ⟨hmethod, heq⟩ := append_cons_inj_left h.method h'.method (List.append_cancel_left heq)
  obtain ⟨hpath, heq⟩ := append_cons_inj_left h.path h'.path heq
  obtain ⟨hversion, heq⟩ := append_cons_inj_left h.version h'.version (List.append_cancel_left heq)
  obtain ⟨hstatus, heq⟩ := append_cons_inj_left (not_mem_decimal (by decide) _)
    (not_mem_decimal (by decide) _) (List.append_cancel_left heq)
  obtain ⟨hsize, heq⟩ := append_cons_inj_left (not_mem_decimal (by decide) _)
    (not_mem_decimal (by decide) _) heq
  -- the name that the client has chosen may hold any character, so the rest is read from the end
  have hunit : ∀ n, ' ' ∉ Nat.toDigits 10 n ++ "us".toList := fun n hmem => by
    rcases List.mem_append.1 hmem with hdigit | hletter
    · exact not_mem_decimal (by decide) n hdigit
    · exact absurd hletter (by decide)
  obtain ⟨hagent, hmicros⟩ := append_cons_inj_right (hunit _) (hunit _)
    (List.append_cancel_left heq)
  have hface : some e.time.face = some e'.time.face := by
    rw [← Stamp.ofLog?_logForm, htime, Stamp.ofLog?_logForm]
  exact {
    peer := String.toList_inj.1 hpeer
    face := Option.some.inj hface
    method := String.toList_inj.1 hmethod
    path := String.toList_inj.1 hpath
    version := String.toList_inj.1 hversion
    status := decimal_inj hstatus
    bodyBytes := decimal_inj hsize
    agent := String.toList_inj.1 (List.append_cancel_right hagent)
    micros := decimal_inj (List.append_cancel_right hmicros) }

/-! ### Lines in both formats -/

/-- **Lines are read back without ambiguity.**  A line in JSON holds no control character and is
the object of the entry's fields, whatever texts stand in them.  Two combined lines are equal only
if their entries agree, whatever names the clients have chosen for themselves. -/
theorem lines_read_back (e : AccessEntry) :
    (e.status < 2 ^ 64 → e.bodyBytes < 2 ^ 64 → e.micros < 2 ^ 64 →
      (∀ c ∈ (e.render .json).toList, 0x20 ≤ c.toNat) ∧
      Json.parse? (Utf8.encode (e.render .json).toList) = some (.object
        [("remote_addr", .text e.peer),
          ("time", .text (String.ofList e.time.internetForm)),
          ("method", .text e.method),
          ("path", .text e.path),
          ("http_version", .text e.version),
          ("status", .number (.whole e.status)),
          ("body_bytes", .number (.whole e.bodyBytes)),
          ("user_agent", match e.agent with | some agent => .text agent | none => .null),
          ("compiled", match e.compiled with | some compiled => .bool compiled | none => .null),
          ("request_time_us", .number (.whole e.micros))])) ∧
    ∀ e' : AccessEntry, e.Separable → e'.Separable → e.render .combined = e'.render .combined →
      e.Agree e' := by
  constructor
  · intro hstatus hsize hmicros
    refine ⟨?_, ?_⟩
    · rw [render, String.toList_ofList]
      exact shown_toJson e
    · rw [parse?_render hstatus hsize hmicros, members]
      cases e.agent <;> cases e.compiled <;> rfl
  · intro e' h h' heq
    exact combinedLine_inj h h' (String.ofList_inj.1 heq)

/-- The line of a client that calls itself `-` is that of a client without a name, and a quotation
mark in a name does no harm. -/
theorem lines_read_back_dash :
    (∃ e e' : AccessEntry, e.agent = none ∧ e'.agent = some "-" ∧ e.Agree e') ∧
    ∃ e : AccessEntry, e.agent = some "\" 7us" ∧ ∀ c ∈ (e.render .json).toList, 0x20 ≤ c.toNat := by
  let e : AccessEntry :=
    ⟨"10.0.0.7:51234", ⟨1709993100, 0, 0⟩, "GET", "/\"/", "1.1", 404, 12, none, none, 7⟩
  let e' : AccessEntry :=
    ⟨"10.0.0.7:51234", ⟨1709993100, 5, 0⟩, "GET", "/\"/", "1.1", 404, 12, some "-", some true, 7⟩
  have hline : e.render .combined = e'.render .combined := by decide
  let odd : AccessEntry := { e with agent := some "\" 7us" }
  exact ⟨⟨e, e', rfl, rfl, (lines_read_back e).2 e' ⟨by decide, by decide, by decide, by decide⟩
      ⟨by decide, by decide, by decide, by decide⟩ hline⟩,
    odd, rfl, ((lines_read_back odd).1 (by decide) (by decide) (by decide)).1⟩

/-! ### The times of lines -/

/-- **The times of lines denote the instants of their entries**, by the rules of the calendar.  In
the common and the combined format the time stands between brackets and denotes the second; in JSON
it denotes the second, and the digits after it are the nanoseconds, as few as can be. -/
theorem times_denote (e : AccessEntry) (hnanos : e.time.nanos < 10 ^ 9)
    (hoffset : e.time.offset % 60 = 0) :
    (∀ format ≠ AccessFormat.json, ∃ time rest face,
      (e.render format).toList = e.peer.toList ++ " - - [".toList ++ time ++ ']' :: rest ∧
      ']' ∉ time ∧ Face.ofLog? time = some face ∧ face.Proper ∧ face.instant = e.time.second) ∧
    (e.status < 2 ^ 64 → e.bodyBytes < 2 ^ 64 → e.micros < 2 ^ 64 → ∃ members time face places,
      Json.parse? (Utf8.encode (e.render .json).toList) = some (.object members) ∧
      members.lookup "time" = some (.text time) ∧
      Face.ofInternet? time.toList = some (face, places) ∧ face.Proper ∧
      face.instant = e.time.second ∧ Fewest e.time.nanos places) := by
  have hproper := e.time.proper_face hnanos
  have hinstant := e.time.instant_face hnanos hoffset
  constructor
  · intro format hformat
    have hline : ∃ rest, (e.render format).toList
        = e.peer.toList ++ " - - [".toList ++ e.time.logForm ++ ']' :: rest := by
      rw [render, String.toList_ofList]
      cases format with
      | common => exact ⟨_, by simp [renderChars, commonLine]; rfl⟩
      | combined => exact ⟨_, by simp [renderChars, combinedLine, commonLine]; rfl⟩
      | json => exact absurd rfl hformat
    obtain ⟨rest, hline⟩ := hline
    exact ⟨_, rest, _, hline, bracket_not_mem_logForm _, e.time.ofLog?_logForm, hproper, hinstant⟩
  · intro hstatus hsize hmicros
    refine ⟨_, String.ofList e.time.internetForm, _, _, parse?_render hstatus hsize hmicros, rfl,
      ?_, hproper, hinstant, e.time.fewest_places hnanos⟩
    rw [String.toList_ofList]
    exact e.time.ofInternet?_internetForm

/-- A leap day that has begun on the local clock only, before 1970, and a quarter of a second. -/
theorem times_denote_leapDay :
    ∃ e : AccessEntry, e.time.date = ⟨1968, 2, 29⟩ ∧ e.time.second < 0 ∧
      (∃ time rest face,
        (e.render .combined).toList = e.peer.toList ++ " - - [".toList ++ time ++ ']' :: rest ∧
        ']' ∉ time ∧ Face.ofLog? time = some face ∧ face.Proper ∧ face.instant = e.time.second) ∧
      ∃ members time face places,
        Json.parse? (Utf8.encode (e.render .json).toList) = some (.object members) ∧
        members.lookup "time" = some (.text time) ∧
        Face.ofInternet? time.toList = some (face, places) ∧ face.Proper ∧
        face.instant = e.time.second ∧ Fewest 250000000 places := by
  let e : AccessEntry :=
    ⟨"[::1]:51234", ⟨-58064100, 250000000, 5400⟩, "GET", "/", "1.1", 404, 12, none, none, 7⟩
  have htimes := times_denote e (by decide) (by decide)
  exact ⟨e, by decide, by decide, htimes.1 .combined (by decide),
    htimes.2 (by decide) (by decide) (by decide)⟩

end AssemblyGate.AccessEntry
