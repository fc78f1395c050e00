/-
**The access log and the responses agree.**

Requests are handled side by side, and each of them may have something to note on its way.  The
access line of a request is written when its response is complete, and nothing comes between the
two.  So the access lines stand in the order in which the responses were completed, one for each;
and every line tells of the response that was returned: its status, the size of its body, and, in
JSON, whether the source was accepted, exactly when the body tells that too.

Main definitions:

* `AssemblyGate.Service.Visit` — a request with the machine as it meets it;
* `AssemblyGate.Service.Traffic`, `AssemblyGate.Service.Traffic.Step` — requests that are being
  handled, and one step of one of them;
* `AssemblyGate.Service.IsResult` — a response is a validation result;
* `AssemblyGate.Service.Truthful` — an access line tells of a response.

Main results:

* `AssemblyGate.Service.compiled_handle` — what is remembered of a result is what its body tells;
* `AssemblyGate.Service.Traffic.Agrees.step` — a step keeps the log in agreement;
* `AssemblyGate.Service.access_log_agrees` — **the access log and the responses agree**.
-/
import AssemblyGate.Proofs.Http.JsonBody
import AssemblyGate.Proofs.Journal.AccessLine
import AssemblyGate.Proofs.Service.AnswerForm
import AssemblyGate.Proofs.Settings.Conversion
import Mathlib.Logic.Function.Basic
import Mathlib.Logic.Relation

set_option autoImplicit false

namespace AssemblyGate.Service

variable {σ : Type}

/-! ### What is noted on the way -/

/-- No access line is among the events. -/
def Quiet (events : List Event) : Prop := ∀ line, .access line ∉ events

theorem quiet_append {first second : List Event} :
    Quiet (first ++ second) ↔ Quiet first ∧ Quiet second := by simp [Quiet, forall_and]

/-- What is noted on the way to a response is no access line. -/
theorem quiet_route (host : Host σ) (settings : Settings) (r : Request) (s : σ) :
    Quiet (route host settings r s).events := by
  intro line hline
  obtain ⟨level, text, heq, -⟩ := noted_route hline
  cases heq

/-! ### Validation results -/

/-- A response is the result of a validation. -/
def IsResult (x : Response) (accepted : Bool) : Prop :=
  x.status = 200 ∧ ∃ message,
    Json.parse? x.body = some (.object [("compiled", .bool accepted), ("message", .text message)])

theorem isResult_iff_of_object {x : Response} {found accepted : Bool} {message : String}
    (hstatus : x.status = 200)
    (hbody : x.body = Utf8.encode (Answer.resultObject found message).render) :
    IsResult x accepted ↔ found = accepted := by
  have hread := (Answer.carries_of_exact (Answer.exact_resultObject found message)).decodes
  rw [← hbody, Answer.resultObject] at hread
  simp [IsResult, hstatus, hread]

/-- What is remembered of a submission is what its answer tells. -/
theorem compiled_validate (host : Host σ) (settings : Settings) (r : Request) (s : σ)
    (accepted : Bool) :
    (Validation.validate host settings r s).compiled = some accepted ↔
      IsResult (Validation.validate host settings r s).response accepted := by
  rcases Validation.finishes_or_stops host settings r s with
    ⟨area, status, stderr, hfinishes⟩ | ⟨response, hstops⟩
  · obtain ⟨message, -, hcompiled, hresponse⟩ := Validation.validate_of_finishes hfinishes
    rw [hcompiled, hresponse, isResult_iff_of_object rfl rfl, Option.some.injEq]
  · obtain ⟨hresponse, hcompiled⟩ := Validation.validate_of_stops hstops
    simp [hresponse, hcompiled, IsResult, Validation.status_of_stops hstops]

theorem not_isResult_ofAnswer {answer : Answer} {s : σ} {accepted : Bool}
    (h : answer.response.status ≠ 200 ∨ (Json.parse? answer.response.body).isNone = true) :
    ¬IsResult (Reply.ofAnswer answer s).response accepted := by
  rintro ⟨hstatus, message, hbody⟩
  rcases h with hother | hnone
  · exact hother hstatus
  · rw [Option.isNone_iff_eq_none] at hnone
    cases hnone.symm.trans hbody

/-- Only submissions have results, and what is remembered of one is what its response tells. -/
theorem compiled_route (host : Host σ) (settings : Settings) (r : Request) (s : σ)
    (accepted : Bool) :
    (route host settings r s).compiled = some accepted ↔
      IsResult (route host settings r s).response accepted := by
  have hhealth : (Json.parse? (Answer.health 200 "ok").response.body).isNone = true := by
    decide +kernel
  have hnone : ∀ answer : Answer,
      (answer.response.status ≠ 200 ∨ (Json.parse? answer.response.body).isNone = true) →
      ((Reply.ofAnswer answer s).compiled = some accepted ↔
        IsResult (Reply.ofAnswer answer s).response accepted) := fun _ h =>
    iff_of_false (by simp [Reply.ofAnswer]) (not_isResult_ofAnswer h)
  rw [route_eq]
  cases destinationOf settings r with
  | liveness => exact hnone _ (.inr hhealth)
  | readiness =>
      rw [answerAt, readiness]
      split
      · exact hnone _ (.inr hhealth)
      · exact hnone (Answer.health 503 "assembler unavailable") (.inl (by decide +kernel))
  | nowhere => exact hnone Answer.notFound (.inl (by decide +kernel))
  | validation => exact compiled_validate host settings r s accepted
  | preflight =>
      refine hnone (Answer.preflight settings.http.enableCors) (.inl ?_)
      cases settings.http.enableCors <;> decide +kernel
  | refusal => exact hnone Answer.methodNotAllowed (.inl (by decide +kernel))

/-- What is remembered of a result is what the body of its response tells. -/
theorem compiled_handle (host : Host σ) (settings : Settings) (timing : Timing) (r : Request)
    (s : σ) (accepted : Bool) :
    (handle host settings timing r s).compiled = some accepted ↔
      IsResult (handle host settings timing r s).response accepted :=
  compiled_route host settings r s accepted

/-- The requests with a result are the submissions that are answered with status 200. -/
theorem exists_isResult_iff (host : Host σ) (settings : Settings) (timing : Timing) (r : Request)
    (s : σ) :
    (∃ accepted, IsResult (handle host settings timing r s).response accepted) ↔
      destinationOf settings r = .validation ∧
        (handle host settings timing r s).response.status = 200 := by
  constructor
  · rintro ⟨accepted, hresult⟩
    refine ⟨?_, hresult.1⟩
    -- at every other place nothing is remembered
    have hcompiled := (compiled_route host settings r s accepted).2 hresult
    rw [route_eq] at hcompiled
    cases hplace : destinationOf settings r with
    | validation => rfl
    | readiness =>
        rw [hplace, answerAt, readiness] at hcompiled
        split at hcompiled <;> cases hcompiled
    | liveness | nowhere | preflight | refusal =>
        rw [hplace] at hcompiled
        cases hcompiled
  · rintro ⟨hplace, hstatus⟩
    have hresponse : (route host settings r s).response
        = (Validation.validate host settings r s).response := by
      rw [route_eq, hplace]
      rfl
    change (route host settings r s).response.status = 200 at hstatus
    rcases Validation.finishes_or_stops host settings r s with
      ⟨area, status, stderr, hfinishes⟩ | ⟨response, hstops⟩
    · obtain ⟨message, -, hcompiled, -⟩ := Validation.validate_of_finishes hfinishes
      have hresult := (compiled_validate host settings r s _).1 hcompiled
      rw [← hresponse] at hresult
      exact ⟨_, hresult⟩
    · rw [hresponse, (Validation.validate_of_stops hstops).1] at hstatus
      exact absurd hstatus (Validation.status_of_stops hstops)

/-! ### Requests that can be received -/

/-- A request as it can be received: method and path hold neither spaces nor control characters, and
the version is a known one. -/
structure Received (r : Request) : Prop where
  method : ∀ c ∈ r.method.toList, 0x21 ≤ c.toNat
  path : ∀ c ∈ r.target.path.toList, 0x21 ≤ c.toNat
  version : r.version ∈ ["0.9", "1.0", "1.1", "2.0", "3.0"]

/-- A header that can be read as text does not end a line. -/
theorem unbroken_headerText? {value : Bytes} {text : String} (h : headerText? value = some text) :
    '\n' ∉ text.toList := by
  unfold headerText? at h
  split at h
  · rename_i hall
    obtain rfl := Option.some.inj h
    rw [String.toList_ofList]
    intro hmem
    obtain ⟨b, hb, hchar⟩ := List.mem_map.1 hmem
    have hbreak : ∀ n < 256, isTextByte (UInt8.ofNat n) = true → Char.ofNat n ≠ '\n' := by
      decide +kernel
    have htext : isTextByte (UInt8.ofNat b.toNat) = true := by
      rw [UInt8.ofNat_toNat]
      exact List.all_eq_true.1 hall b hb
    exact hbreak b.toNat b.toNat_lt htext hchar
  · cases h

theorem proper_accessEntry {r : Request} (hr : Received r) (timing : Timing) (response : Response)
    (compiled : Option Bool) : (accessEntry timing r response compiled).Proper where
  peer := outside_address r.peer
  method := hr.method
  path := hr.path
  version := by
    have hall : ∀ version ∈ ["0.9", "1.0", "1.1", "2.0", "3.0"], Outside version.toList := by
      decide
    exact hall _ hr.version
  agent := by
    intro agent hagent
    obtain ⟨value, -, htext⟩ := Option.bind_eq_some_iff.1 hagent
    exact unbroken_headerText? htext

/-! ### Visits and their lines -/

/-- A request with the machine as it meets it, and the time it takes. -/
structure Visit (σ : Type) where
  host : Host σ
  timing : Timing
  request : Request
  state : σ

namespace Visit

variable (settings : Settings) (v : Visit σ)

/-- What comes of a visit. -/
def reply : Reply σ := handle v.host settings v.timing v.request v.state

/-- What is noted before the response is complete. -/
def notes : List Event := (route v.host settings v.request v.state).events

/-- The access line of a visit. -/
def line : String :=
  (accessEntry v.timing v.request (v.reply settings).response (v.reply settings).compiled).render
    (AccessFormat.ofName settings.logging.accessLogFormat)

/-- What is logged when the response is complete. -/
def closing : List Event := if settings.logging.accessLog then [.access (v.line settings)] else []

theorem events_reply : (v.reply settings).events = v.notes settings ++ v.closing settings := rfl

end Visit

/-- The members of a line in JSON tell of a request and its response. -/
structure Tells (r : Request) (x : Response) (members : List (String × Json)) : Prop where
  distinct : (members.map Prod.fst).Nodup
  method : ("method", .text r.method) ∈ members
  path : ("path", .text r.target.path) ∈ members
  version : ("http_version", .text r.version) ∈ members
  status : ("status", .number (.whole x.status)) ∈ members
  size : ("body_bytes", .number (.whole x.body.length)) ∈ members
  compiled : ∀ accepted, ("compiled", .bool accepted) ∈ members ↔ IsResult x accepted
  uncompiled : ("compiled", .null) ∈ members ↔ ∀ accepted, ¬IsResult x accepted

/-- A line tells of the response to a request: it is one line and is always written, a reader finds
in it what was asked and answered, and in JSON also whether a source was accepted. -/
structure Truthful (settings : Settings) (micros : Nat) (r : Request) (x : Response)
    (line : String) : Prop where
  unbroken : '\n' ∉ line.toList
  written : ∀ j : Journal, j.route (.access line) = some (j.access, line)
  fields : settings.logging.accessLogFormat ≠ "json" →
    LineFields.read line.toList
      = ⟨r.method.toList, r.target.path.toList, "HTTP/".toList ++ r.version.toList,
          Nat.toDigits 10 x.status, Nat.toDigits 10 x.body.length⟩
  json : settings.logging.accessLogFormat = "json" →
    ∃ members, line.toList = (Json.object members).render ∧ Tells r x members ∧
      (micros < 2 ^ 64 → x.body.length < 2 ^ 64 →
        Json.parse? (Utf8.encode line.toList) = some (.object members))
  results : (∃ accepted, IsResult x accepted) ↔
    destinationOf settings r = .validation ∧ x.status = 200

theorem tells_members (settings : Settings) (v : Visit σ) :
    Tells v.request (v.reply settings).response
      (accessEntry v.timing v.request (v.reply settings).response
        (v.reply settings).compiled).members := by
  have hresult : ∀ accepted, (v.reply settings).compiled = some accepted ↔
      IsResult (v.reply settings).response accepted :=
    compiled_handle v.host settings v.timing v.request v.state
  refine ⟨AccessEntry.nodup_members _, ?_, ?_, ?_, ?_, ?_, fun accepted => ?_, ?_⟩
  iterate 5 simp [AccessEntry.members, accessEntry]
  · rw [← hresult]
    cases (v.reply settings).compiled <;> simp [AccessEntry.members, accessEntry, eq_comm]
  · simp only [← hresult]
    cases (v.reply settings).compiled <;> simp [AccessEntry.members, accessEntry]

/-- The line of a visit tells of its response. -/
theorem truthful_line (settings : Settings) {v : Visit σ} (hr : Received v.request) :
    Truthful settings v.timing.micros v.request (v.reply settings).response (v.line settings) := by
  have hproper := proper_accessEntry hr v.timing (v.reply settings).response
    (v.reply settings).compiled
  refine ⟨hproper.unbroken _, fun j => rfl, fun hformat => ?_, fun hformat => ?_, ?_⟩
  · refine hproper.read_render ?_
    rw [AccessFormat.ofName, if_neg hformat]
    split <;> simp
  · have hline : v.line settings = (accessEntry v.timing v.request (v.reply settings).response
        (v.reply settings).compiled).render .json := by
      rw [Visit.line, hformat]
      rfl
    refine ⟨_, ?_, tells_members settings v, fun hmicros hsize => ?_⟩
    · rw [hline, AccessEntry.render, String.toList_ofList]
      rfl
    · have hwell := (wellFormed_handle v.host settings v.timing v.request v.state).1.status
      have hall : ∀ status ∈ [200, 204, 400, 404, 405, 413, 500, 503, 504], status < 2 ^ 64 := by
        decide
      rw [hline]
      exact AccessEntry.parse?_render (hall _ hwell) hsize hmicros
  · exact exists_isResult_iff v.host settings v.timing v.request v.state

/-! ### Traffic -/

/-- Requests that are being handled: what each has yet to note, which are complete, in order, and
what has been logged, with the requests it is about. -/
structure Traffic (ι : Type) where
  pending : ι → List Event
  completed : List ι
  log : List (ι × Event)

namespace Traffic

variable {ι : Type} (settings : Settings) (visits : ι → Visit σ)

/-- The access lines of a log, with the requests they are about. -/
def accessLines (log : List (ι × Event)) : List (ι × String) :=
  log.filterMap fun entry =>
    match entry.2 with
    | .access line => some (entry.1, line)
    | .note _ _ => none

theorem accessLines_append (first second : List (ι × Event)) :
    accessLines (first ++ second) = accessLines first ++ accessLines second :=
  List.filterMap_append

theorem accessLines_closing (i : ι) :
    accessLines (((visits i).closing settings).map fun e => (i, e)) =
      if settings.logging.accessLog then [(i, (visits i).line settings)] else [] := by
  unfold Visit.closing
  split <;> simp [accessLines]

variable [DecidableEq ι]

/-- What is logged about a request. -/
def about (i : ι) (log : List (ι × Event)) : List Event :=
  (log.filter fun entry => entry.1 = i).map Prod.snd

theorem about_append (i : ι) (first second : List (ι × Event)) :
    about i (first ++ second) = about i first ++ about i second := by
  simp [about]

theorem about_map (i : ι) (events : List Event) :
    about i (events.map fun e => (i, e)) = events := by
  simp [about, List.filter_map, Function.comp_def]

theorem about_map_of_ne {i j : ι} (h : i ≠ j) (events : List Event) :
    about j (events.map fun e => (i, e)) = [] := by
  simp [about, List.filter_map, Function.comp_def, h]

/-- Nothing has been noted yet. -/
def start : Traffic ι := ⟨fun i => (visits i).notes settings, [], []⟩

/-- One step of one request: it notes something, or its response is complete and is returned with
the access line behind it. -/
inductive Step : Traffic ι → Traffic ι → Prop
  | note {t : Traffic ι} {i : ι} {e : Event} {rest : List Event} : i ∉ t.completed →
      t.pending i = e :: rest →
      Step t { t with pending := Function.update t.pending i rest, log := t.log ++ [(i, e)] }
  | complete {t : Traffic ι} {i : ι} : i ∉ t.completed → t.pending i = [] →
      Step t { t with
        completed := t.completed ++ [i]
        log := t.log ++ ((visits i).closing settings).map fun e => (i, e) }

/-- What is true of the log of requests that are being handled. -/
structure Agrees (t : Traffic ι) : Prop where
  nodup : t.completed.Nodup
  lines : accessLines t.log =
    if settings.logging.accessLog then t.completed.map fun i => (i, (visits i).line settings)
    else []
  own : ∀ i, about i t.log ++ t.pending i =
    (visits i).notes settings ++ if i ∈ t.completed then (visits i).closing settings else []
  settled : ∀ i ∈ t.completed, t.pending i = []

variable {settings visits}

theorem agrees_start : Agrees settings visits (start settings visits) where
  nodup := List.nodup_nil
  lines := by simp [start, accessLines]
  own i := by simp [start, about]
  settled i hi := absurd hi (by simp [start])

/-- What is yet to be noted is no access line. -/
theorem Agrees.quiet {t : Traffic ι} (h : Agrees settings visits t) {i : ι}
    (hopen : i ∉ t.completed) : Quiet (t.pending i) := by
  have hown := h.own i
  rw [if_neg hopen, List.append_nil] at hown
  have hnotes : Quiet ((visits i).notes settings) := quiet_route _ _ _ _
  rw [← hown] at hnotes
  exact (quiet_append.1 hnotes).2

/-- A step keeps the log in agreement. -/
theorem Agrees.step {t t' : Traffic ι} (h : Agrees settings visits t)
    (hstep : Step settings visits t t') : Agrees settings visits t' := by
  cases hstep with
  | @note i e rest hopen hpending =>
      -- the event goes from what is pending to the log, and it is no access line
      have hquiet := h.quiet hopen
      rw [hpending] at hquiet
      refine ⟨h.nodup, ?_, fun j => ?_, fun j hj => ?_⟩
      · cases e with
        | note level message => simpa [accessLines_append, accessLines] using h.lines
        | access line => exact absurd List.mem_cons_self (hquiet line)
      · by_cases hj : i = j
        · subst hj
          have hown := h.own i
          have hnoted : about i [(i, e)] = [e] := about_map i [e]
          rw [hpending] at hown
          simp only [about_append, hnoted, Function.update_self, List.append_assoc,
            List.singleton_append, hown]
        · have hnothing : about j [(i, e)] = [] := about_map_of_ne hj [e]
          simp only [about_append, hnothing, List.append_nil,
            Function.update_of_ne (Ne.symm hj), h.own j]
      · have hne : j ≠ i := fun heq => hopen (heq ▸ hj)
        simpa only [Function.update_of_ne hne] using h.settled j hj
  | @complete i hopen hsettled =>
      -- the only access line is the one behind the response
      refine ⟨?_, ?_, fun j => ?_, fun j hj => ?_⟩
      · simpa using h.nodup.concat hopen
      · rw [accessLines_append, h.lines, accessLines_closing]
        split <;> simp
      · by_cases hj : i = j
        · subst hj
          have hown := h.own i
          rw [hsettled, if_neg hopen, List.append_nil, List.append_nil] at hown
          simp [about_append, about_map, hsettled, hown]
        · simp only [about_append, about_map_of_ne hj, List.append_nil, h.own j]
          simp [Ne.symm hj]
      · rcases List.mem_append.1 hj with hj | hj
        · exact h.settled j hj
        · rw [List.mem_singleton.1 hj]
          exact hsettled

/-- The log is in agreement all the way. -/
theorem agrees_of_run {t : Traffic ι}
    (h : Relation.ReflTransGen (Step settings visits) (start settings visits) t) :
    Agrees settings visits t := by
  induction h with
  | refl => exact agrees_start
  | tail _ hstep ih => exact ih.step hstep

/-- No request is kept from being completed. -/
theorem exists_completed (t : Traffic ι) (i : ι) :
    ∃ t', Relation.ReflTransGen (Step settings visits) t t' ∧ i ∈ t'.completed := by
  by_cases hopen : i ∈ t.completed
  · exact ⟨t, .refl, hopen⟩
  induction hpending : t.pending i generalizing t with
  | nil => exact ⟨_, .single (.complete hopen hpending), by simp⟩
  | cons e rest ih =>
      obtain ⟨t', hrun, hdone⟩ := ih
        { t with pending := Function.update t.pending i rest, log := t.log ++ [(i, e)] } hopen
        (by simp)
      exact ⟨t', .head (.note hopen hpending) hrun, hdone⟩

end Traffic

/-- **The access log and the responses agree.**  However the handling of requests overlaps, the log
holds for each completed request what its handling logs, and its access lines are those of the
completed requests, in the order in which they were completed, or there are none if access is not
logged; every request can be completed; and every line tells of its response. -/
theorem access_log_agrees {ι : Type} [DecidableEq ι] {settings : Settings} {visits : ι → Visit σ}
    (hreceived : ∀ i, Received (visits i).request) {t : Traffic ι}
    (hrun : Relation.ReflTransGen (Traffic.Step settings visits) (.start settings visits) t) :
    t.completed.Nodup ∧
    Traffic.accessLines t.log =
      (if settings.logging.accessLog then t.completed.map fun i => (i, (visits i).line settings)
      else []) ∧
    (∀ i ∈ t.completed, Traffic.about i t.log = ((visits i).reply settings).events) ∧
    (∀ i, ∃ t', Relation.ReflTransGen (Traffic.Step settings visits) t t' ∧ i ∈ t'.completed) ∧
    ∀ i, Truthful settings (visits i).timing.micros (visits i).request
      ((visits i).reply settings).response ((visits i).line settings) := by
  have hagrees := Traffic.agrees_of_run hrun
  refine ⟨hagrees.nodup, hagrees.lines, fun i hi => ?_, fun i => Traffic.exists_completed t i,
    fun i => truthful_line settings (hreceived i)⟩
  have hown := hagrees.own i
  rw [hagrees.settled i hi, List.append_nil, if_pos hi] at hown
  exact hown.trans ((visits i).events_reply settings).symm

/-! ### Two requests that overlap -/

/-- A machine that is never asked for anything. -/
def idleHost : Host Unit where
  makeStaging _ s := (.ok "/tmp", s)
  writeFile _ _ s := (.ok (), s)
  run _ _ s := (.overdue, s)
  removeTree _ s := s
  isFile _ _ := false
  searchPath _ := none

/-- Settings with a format of access lines that is not known. -/
def fancySettings : Settings :=
  { Settings.standard with logging := ⟨"info", true, "fancy", none, none⟩ }

/-- A probe whose client calls itself by a tab and a quotation mark, and a method that is not
allowed. -/
def overlapping (probe : Bool) : Visit Unit where
  host := idleHost
  timing := ⟨⟨0, 0, 0⟩, 5⟩
  request :=
    if probe then
      ⟨"GET", ⟨none, "/healthz", some "x"⟩, "1.1", [("user-agent", [0x09, 0x22])], [],
        .v4 ⟨127, 0, 0, 1⟩ 40000⟩
    else ⟨"PUT", ⟨none, "/assembly/validate", none⟩, "2.0", [], [], .v4 ⟨127, 0, 0, 1⟩ 40001⟩
  state := ()

theorem received_overlapping (probe : Bool) : Received (overlapping probe).request := by
  cases probe <;> exact ⟨by simp [overlapping], by simp [overlapping], by decide⟩

/-- What the request that came first notes in between does not come between a response and its
line. -/
theorem run_overlapping :
    Relation.ReflTransGen (Traffic.Step fancySettings overlapping)
      (.start fancySettings overlapping)
      ⟨fun _ => [], [true, false],
        [(false, .note .warn "Method not allowed: PUT"),
          (true, .access ((overlapping true).line fancySettings)),
          (false, .access ((overlapping false).line fancySettings))]⟩ := by
  have hnotes : (overlapping false).notes fancySettings
      = [.note .warn "Method not allowed: PUT"] := by decide +kernel
  have hnone : (overlapping true).notes fancySettings = [] := by decide +kernel
  have hpending : Function.update (fun i => (overlapping i).notes fancySettings) false []
      = fun _ => [] := by
    funext i
    cases i with
    | false => simp
    | true => simpa using hnone
  refine .tail (.tail (.single (.note (i := false) (by simp [Traffic.start]) hnotes)) (.complete
    (i := true) (by simp [Traffic.start]) ?_)) ?_
  · simp [Traffic.start, hnone]
  · have hlast : Traffic.Step fancySettings overlapping
        ⟨fun _ => [], [true], [(false, .note .warn "Method not allowed: PUT"),
          (true, .access ((overlapping true).line fancySettings))]⟩ _ :=
      .complete (i := false) (by simp) rfl
    simp only [Traffic.start, hpending]
    exact hlast

/-- The lines of two requests that overlap. -/
theorem access_log_agrees_overlapping :
    ∃ t : Traffic Bool,
      Relation.ReflTransGen (Traffic.Step fancySettings overlapping)
        (.start fancySettings overlapping) t ∧
      (∀ i, Received (overlapping i).request) ∧
      Traffic.accessLines t.log =
        [(true, "127.0.0.1:40000 - - [01/Jan/1970:00:00:00 +0000] \"GET /healthz HTTP/1.1\" 200 2 "
            ++ "\"-\" \"\t\"\" 5us"),
          (false, "127.0.0.1:40001 - - [01/Jan/1970:00:00:00 +0000] "
            ++ "\"PUT /assembly/validate HTTP/2.0\" 405 22 \"-\" \"-\" 5us")] := by
  refine ⟨_, run_overlapping, received_overlapping, ?_⟩
  rw [(access_log_agrees received_overlapping run_overlapping).2.1]
  decide +kernel

end AssemblyGate.Service
