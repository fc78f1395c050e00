/-
**The course of a validation.**

A submission either finishes, with an assembler that ended within its time, or stops at the first of
ten obstacles.  Each obstacle has an answer of its own; which one a client sees depends on which
comes first.  Both ways are said here on the request, the settings and what the machine does, and
every submission goes one of them.

Main definitions:

* `AssemblyGate.Validation.Submits` — a body that holds a source;
* `AssemblyGate.Validation.Reaches`, `AssemblyGate.Validation.Stages` — a request that leads to the
  assembler with a source, and to a staging area for it;
* `AssemblyGate.Validation.Finishes` — a request for which the assembler ends;
* `AssemblyGate.Validation.Tells` — what the message says of the way the assembler ended;
* `AssemblyGate.Validation.Stops` — **the first obstacle in the way of a request**, and its answer.

Main results:

* `AssemblyGate.Validation.validate_of_finishes`, `AssemblyGate.Validation.validate_of_stops` — the
  answers of the two ways;
* `AssemblyGate.Validation.finishes_or_stops` — there is no other way;
* `AssemblyGate.Validation.validate_course` — **a submission is answered with success exactly when
  it finishes**.
-/
import AssemblyGate.Proofs.Http.BodyReading
import AssemblyGate.Proofs.Service.SubmissionLanguage

set_option autoImplicit false

namespace AssemblyGate.Validation

open JsonText (Bounded Submission)

variable {σ : Type}

/-! ### The way of a request -/

/-- The limit of the bodies. -/
def bodyLimit (settings : Settings) : Nat := settings.http.maxBodySize.toNat

/-- No length is declared that is over the limit. -/
def DeclaresFit (settings : Settings) (r : Request) : Prop :=
  ∀ size, Declares r size → size ≤ bodyLimit settings

/-- A body is the UTF-8 form of a JSON object whose last member named `assembly` is a text that
denotes the source. -/
def Submits (body : Bytes) (source : String) : Prop :=
  ∃ text, body = Utf8.encode text ∧ Submission Bounded text source

/-- A request leads to the assembler with a source. -/
structure Reaches (settings : Settings) (r : Request) (source : String) : Prop where
  declares : DeclaresFit settings r
  submits : ∃ body, Body.Arrives (bodyLimit settings) r.frames body ∧ Submits body source

/-- A request leads to a staging area that holds its source. -/
structure Stages (host : Host σ) (settings : Settings) (r : Request) (s : σ) (source : String)
    (area : StagingArea) (staged : σ) : Prop where
  reaches : Reaches settings r source
  fits : source.utf8ByteSize ≤ settings.assembler.maxSourceBytes.toNat
  creates : ∃ made, host.makeStaging settings.assembler.stagingDir s = (.ok area.directory, made) ∧
    host.writeFile area.source (Utf8.encode source.toList) made = (.ok (), staged)

/-- What the machine makes of the command for a staging area. -/
def runs (host : Host σ) (settings : Settings) (area : StagingArea) (staged : σ) : Run :=
  (host.run (Assembler.invocation settings.assembler area) settings.assembler.timeoutMs.toNat
    staged).1

/-- The assembler ends within its time. -/
def Finishes (host : Host σ) (settings : Settings) (r : Request) (s : σ) (area : StagingArea)
    (status : ExitStatus) (stderr : Bytes) : Prop :=
  ∃ source staged, Stages host settings r s source area staged ∧
    runs host settings area staged = .ended status stderr

/-- The assembler's words as a client sees them. -/
def wordsOf (settings : Settings) (area : StagingArea) (stderr : Bytes) : List Char :=
  area.sanitize settings.assembler.placeholder (Utf8.decodeLossy stderr)

/-- What the message says of an assembler that ended with some words. -/
inductive Tells (words : List Char) : ExitStatus → String → Prop
  | accepted : Tells words (.exited 0) ("Compilation successful." ++ String.ofList words)
  | rejected {status : ExitStatus} : status ≠ .exited 0 → (∃ c ∈ words, isBlankChar c = false) →
      Tells words status (String.ofList words)
  | silentExit {code : Nat} : code ≠ 0 → (∀ c ∈ words, isBlankChar c = true) →
      Tells words (.exited code) ("Assembler exited with status " ++ toString code)
  | silentSignal {signal : Nat} : (∀ c ∈ words, isBlankChar c = true) →
      Tells words (.signalled signal) "Assembler terminated by a signal"

/-- The first obstacle in the way of a request, and its answer. -/
inductive Stops (host : Host σ) (settings : Settings) (r : Request) (s : σ) : Response → Prop
  | declaredOver {size : Nat} : Declares r size → bodyLimit settings < size →
      Stops host settings r s Answer.tooLarge.response
  | bodyOver : DeclaresFit settings r → Body.Overflows (bodyLimit settings) r.frames →
      Stops host settings r s Answer.tooLarge.response
  | bodyBroken {message : String} : DeclaresFit settings r →
      Body.Breaks (bodyLimit settings) r.frames message →
      Stops host settings r s (Answer.empty 400).response
  | noSource {body : Bytes} : DeclaresFit settings r →
      Body.Arrives (bodyLimit settings) r.frames body → (∀ source, ¬Submits body source) →
      Stops host settings r s (Answer.empty 400).response
  | sourceOver {source : String} : Reaches settings r source →
      settings.assembler.maxSourceBytes.toNat < source.utf8ByteSize →
      Stops host settings r s (Answer.error 413 "assembly source too large").response
  | notMade {source : String} {cause : Fault} {left : σ} : Reaches settings r source →
      source.utf8ByteSize ≤ settings.assembler.maxSourceBytes.toNat →
      host.makeStaging settings.assembler.stagingDir s = (.error cause, left) →
      Stops host settings r s (Answer.error 500 "could not stage assembly source").response
  | notWritten {source : String} {area : StagingArea} {made : σ} {cause : Fault} {left : σ} :
      Reaches settings r source →
      source.utf8ByteSize ≤ settings.assembler.maxSourceBytes.toNat →
      host.makeStaging settings.assembler.stagingDir s = (.ok area.directory, made) →
      host.writeFile area.source (Utf8.encode source.toList) made = (.error cause, left) →
      Stops host settings r s (Answer.error 500 "could not stage assembly source").response
  | notStarted {source : String} {area : StagingArea} {staged : σ} {cause : Fault} :
      Stages host settings r s source area staged →
      runs host settings area staged = .notStarted cause →
      Stops host settings r s (Answer.error 500 "assembler unavailable").response
  | notCollected {source : String} {area : StagingArea} {staged : σ} {cause : Fault} :
      Stages host settings r s source area staged →
      runs host settings area staged = .notCollected cause →
      Stops host settings r s
        (Answer.error 500 "assembler output could not be collected").response
  | overdue {source : String} {area : StagingArea} {staged : σ} :
      Stages host settings r s source area staged → runs host settings area staged = .overdue →
      Stops host settings r s (Answer.error 504 "assembler timed out").response

/-! ### The answers -/

theorem status_error (status : Nat) (reason : String) :
    (Answer.error status reason).response.status = status := by
  rw [Answer.error, Answer.finish_jsonDraft]

theorem status_of_stops {host : Host σ} {settings : Settings} {r : Request} {s : σ}
    {response : Response} (h : Stops host settings r s response) : response.status ≠ 200 := by
  cases h with
  | declaredOver | bodyOver | bodyBroken | noSource => decide
  | sourceOver | notMade | notWritten | notStarted | notCollected | overdue =>
      rw [status_error]
      decide

/-! ### Up to the assembler -/

theorem validate_of_declares {host : Host σ} {settings : Settings} {r : Request} {s : σ}
    {size : Nat} (h : Declares r size) (hsize : bodyLimit settings < size) :
    (validate host settings r s).response = Answer.tooLarge.response ∧
      (validate host settings r s).compiled = none := by
  have hdeclared : declared settings.http.maxBodySize.toNat r = .over size :=
    declared_eq_over_iff.2 ⟨h, hsize⟩
  simp [validate, hdeclared, Reply.after, Reply.ofAnswer]

theorem validate_of_declaresFit (host : Host σ) {settings : Settings} {r : Request} (s : σ)
    (h : DeclaresFit settings r) :
    (validate host settings r s).response = (framesReply host settings r.frames s).response ∧
      (validate host settings r s).compiled = (framesReply host settings r.frames s).compiled := by
  unfold validate
  dsimp only
  split
  · rename_i size hsize
    obtain ⟨hdeclares, hover⟩ := declared_eq_over_iff.1 hsize
    exact absurd (h size hdeclares) (Nat.not_le_of_lt hover)
  · exact ⟨rfl, rfl⟩

/-- The answer to a body that has not been read. -/
def unread : BodyError → Answer
  | .overLimit => Answer.tooLarge
  | .failed _ => Answer.empty 400

theorem validate_of_unread (host : Host σ) {settings : Settings} {r : Request} (s : σ)
    {e : BodyError} (hfit : DeclaresFit settings r)
    (h : Body.collect (bodyLimit settings) r.frames = .error e) :
    (validate host settings r s).response = (unread e).response ∧
      (validate host settings r s).compiled = none := by
  obtain ⟨hresponse, hcompiled⟩ := validate_of_declaresFit host s hfit
  rw [bodyLimit] at h
  rw [hresponse, hcompiled]
  cases e <;> simp [framesReply, h, Reply.after, Reply.ofAnswer, unread]

theorem validate_of_read (host : Host σ) {settings : Settings} {r : Request} (s : σ)
    {body : Bytes} (hfit : DeclaresFit settings r)
    (h : Body.collect (bodyLimit settings) r.frames = .ok body) :
    (validate host settings r s).response =
        (bodyReply host settings.assembler body s).response ∧
      (validate host settings r s).compiled =
        (bodyReply host settings.assembler body s).compiled := by
  obtain ⟨hresponse, hcompiled⟩ := validate_of_declaresFit host s hfit
  rw [bodyLimit] at h
  rw [hresponse, hcompiled]
  simp [framesReply, h]

theorem validate_of_reaches (host : Host σ) {settings : Settings} {r : Request} (s : σ)
    {source : String} (h : Reaches settings r source) :
    (validate host settings r s).response =
        (assembleReply host settings.assembler source s).response ∧
      (validate host settings r s).compiled =
        (assembleReply host settings.assembler source s).compiled := by
  obtain ⟨body, harrives, hsubmits⟩ := h.submits
  obtain ⟨hresponse, hcompiled⟩ :=
    validate_of_read host s h.declares (Body.collect_of_arrives harrives)
  rw [hresponse, hcompiled]
  simp [bodyReply, sourceOf?_iff_members.2 (parse?_iff_submission.2 hsubmits)]

/-! ### From the assembler on -/

theorem assembleReply_error {host : Host σ} {a : AssemblerSettings} {source : String} {s : σ}
    {e : AssembleError} (h : (Assembler.assemble host a source s).outcome = .error e) :
    (assembleReply host a source s).response = (Answer.error e.status e.publicReason).response ∧
      (assembleReply host a source s).compiled = none := by
  simp [assembleReply, answerOf, h]

theorem assembleReply_ok {host : Host σ} {a : AssemblerSettings} {source : String} {s : σ}
    {outcome : Outcome} (h : (Assembler.assemble host a source s).outcome = .ok outcome) :
    (assembleReply host a source s).response
        = (Answer.result 200 outcome.accepted outcome.message).response ∧
      (assembleReply host a source s).compiled = some outcome.accepted := by
  simp [assembleReply, answerOf, h]

theorem outcome_of_stages {host : Host σ} {settings : Settings} {r : Request} {s : σ}
    {source : String} {area : StagingArea} {staged : σ}
    (h : Stages host settings r s source area staged) :
    (Assembler.assemble host settings.assembler source s).outcome =
      Assembler.conclude settings.assembler area (runs host settings area staged) := by
  obtain ⟨made, hmake, hwrite⟩ := h.creates
  have hcreate : StagingArea.create host settings.assembler.stagingDir source s
      = (.ok area, staged) := by
    simp only [StagingArea.create, hmake, hwrite]
  simp [Assembler.assemble, Nat.not_lt.2 h.fits, hcreate, runs]

/-- A failure past the assembler is answered by its status and its public reason. -/
theorem validate_of_error {host : Host σ} {settings : Settings} {r : Request} {s : σ}
    {source : String} {e : AssembleError} (hreaches : Reaches settings r source)
    (h : (Assembler.assemble host settings.assembler source s).outcome = .error e) :
    (validate host settings r s).response = (Answer.error e.status e.publicReason).response ∧
      (validate host settings r s).compiled = none := by
  obtain ⟨hresponse, hcompiled⟩ := validate_of_reaches host s hreaches
  rw [hresponse, hcompiled]
  exact assembleReply_error h

/-- **The first obstacle decides the answer.** -/
theorem validate_of_stops {host : Host σ} {settings : Settings} {r : Request} {s : σ}
    {response : Response} (h : Stops host settings r s response) :
    (validate host settings r s).response = response ∧
      (validate host settings r s).compiled = none := by
  cases h with
  | declaredOver hdeclares hsize => exact validate_of_declares hdeclares hsize
  | bodyOver hfit hover => exact validate_of_unread host s hfit (Body.collect_of_overflows hover)
  | bodyBroken hfit hbreaks => exact validate_of_unread host s hfit (Body.collect_of_breaks hbreaks)
  | @noSource body hfit harrives hnone =>
      have hsource : sourceOf? body = none :=
        Option.eq_none_iff_forall_not_mem.2 fun source hs =>
          hnone source (parse?_iff_submission.1 (sourceOf?_iff_members.1 hs))
      obtain ⟨hresponse, hcompiled⟩ :=
        validate_of_read host s hfit (Body.collect_of_arrives harrives)
      rw [hresponse, hcompiled]
      simp [bodyReply, hsource, Reply.ofAnswer]
  | @sourceOver source hreaches hover =>
      refine validate_of_error (e := .sourceTooLarge source.utf8ByteSize
        settings.assembler.maxSourceBytes.toNat) hreaches ?_
      rw [Assembler.assemble, if_pos hover]
  | @notMade source cause left hreaches hfits hmake =>
      refine validate_of_error (e := .staging cause) hreaches ?_
      simp [Assembler.assemble, Nat.not_lt.2 hfits, StagingArea.create, hmake]
  | @notWritten source area made cause left hreaches hfits hmake hwrite =>
      refine validate_of_error (e := .staging cause) hreaches ?_
      have hcreate : StagingArea.create host settings.assembler.stagingDir source s
          = (.error cause, host.removeTree area.directory left) := by
        simp only [StagingArea.create, hmake, hwrite]
      simp [Assembler.assemble, Nat.not_lt.2 hfits, hcreate]
  | @notStarted source area staged cause hstages hrun =>
      refine validate_of_error (e := .spawn settings.assembler.binary cause) hstages.reaches ?_
      rw [outcome_of_stages hstages, hrun, Assembler.conclude]
  | @notCollected source area staged cause hstages hrun =>
      refine validate_of_error (e := .wait cause) hstages.reaches ?_
      rw [outcome_of_stages hstages, hrun, Assembler.conclude]
  | overdue hstages hrun =>
      refine validate_of_error (e := .timeout settings.assembler.timeoutMs.toNat) hstages.reaches ?_
      rw [outcome_of_stages hstages, hrun, Assembler.conclude]

theorem tells_ofEnd (words : List Char) (status : ExitStatus) :
    Tells words status (Outcome.ofEnd status words).message := by
  have hblank : isBlank words = true ↔ ∀ c ∈ words, isBlankChar c = true := by simp [isBlank]
  have hvisible : isBlank words = false ↔ ∃ c ∈ words, isBlankChar c = false := by simp [isBlank]
  by_cases hsuccess : status = .exited 0
  · subst hsuccess
    have hend : Outcome.ofEnd (.exited 0) words =
        ⟨true, Outcome.successNote ++ String.ofList words⟩ := if_pos rfl
    rw [hend]
    exact .accepted
  have hfailure : ¬status.isSuccess = true := by
    cases status <;> simp_all [ExitStatus.isSuccess]
  rw [Outcome.ofEnd, if_neg hfailure]
  -- only blank words are passed over for the way the assembler ended
  cases hwords : isBlank words with
  | true =>
      rw [if_pos rfl]
      cases status with
      | exited code => exact .silentExit (by simpa using hsuccess) (hblank.1 hwords)
      | signalled signal => exact .silentSignal (hblank.1 hwords)
  | false =>
      rw [if_neg (by decide)]
      exact .rejected hsuccess (hvisible.1 hwords)

/-- No message is blank. -/
theorem Tells.visible {words : List Char} {status : ExitStatus} {message : String}
    (h : Tells words status message) : ∃ c ∈ message.toList, isBlankChar c = false := by
  cases h with
  | accepted => exact ⟨'C', by simp, by decide⟩
  | rejected _ hvisible => simpa using hvisible
  | silentExit => exact ⟨'A', by simp, by decide⟩
  | silentSignal => exact ⟨'A', by decide, by decide⟩

/-- A finished submission is answered with what the assembler came to. -/
theorem validate_of_finishes {host : Host σ} {settings : Settings} {r : Request} {s : σ}
    {area : StagingArea} {status : ExitStatus} {stderr : Bytes}
    (h : Finishes host settings r s area status stderr) :
    ∃ message, Tells (wordsOf settings area stderr) status message ∧
      (validate host settings r s).compiled = some (decide (status = .exited 0)) ∧
      (validate host settings r s).response =
        ⟨200, [("content-type", bytesOf "application/json")],
          Utf8.encode (Answer.resultObject (decide (status = .exited 0)) message).render⟩ := by
  obtain ⟨source, staged, hstages, hrun⟩ := h
  have hsuccess : status.isSuccess = decide (status = .exited 0) := by
    cases status <;> simp [ExitStatus.isSuccess]
  have houtcome := outcome_of_stages hstages
  rw [hrun, Assembler.conclude] at houtcome
  obtain ⟨hresponse, hcompiled⟩ := validate_of_reaches host s hstages.reaches
  obtain ⟨hok, hflag⟩ := assembleReply_ok houtcome
  rw [Outcome.ofEnd_accepted, hsuccess] at hok hflag
  refine ⟨_, tells_ofEnd (wordsOf settings area stderr) status, hcompiled.trans hflag,
    (hresponse.trans hok).trans ?_⟩
  rw [Answer.result, Answer.json, Answer.finish_jsonDraft]
  rfl

/-- Every submission finishes or stops. -/
theorem finishes_or_stops (host : Host σ) (settings : Settings) (r : Request) (s : σ) :
    (∃ area status stderr, Finishes host settings r s area status stderr) ∨
      ∃ response, Stops host settings r s response := by
  -- the obstacles in the order in which a request meets them
  by_cases hfit : DeclaresFit settings r
  case neg =>
    obtain ⟨size, hdeclares, hsize⟩ : ∃ size, Declares r size ∧ bodyLimit settings < size := by
      simpa [DeclaresFit] using hfit
    exact .inr ⟨_, .declaredOver hdeclares hsize⟩
  rcases Body.ends (bodyLimit settings) r.frames with ⟨body, harrives⟩ | hover | ⟨message, hbreaks⟩
  case inr.inl => exact .inr ⟨_, .bodyOver hfit hover⟩
  case inr.inr => exact .inr ⟨_, .bodyBroken hfit hbreaks⟩
  by_cases hsubmits : ∃ source, Submits body source
  case neg => exact .inr ⟨_, .noSource hfit harrives (by simpa using hsubmits)⟩
  obtain ⟨source, hsubmits⟩ := hsubmits
  have hreaches : Reaches settings r source := ⟨hfit, body, harrives, hsubmits⟩
  by_cases hfits : source.utf8ByteSize ≤ settings.assembler.maxSourceBytes.toNat
  case neg => exact .inr ⟨_, .sourceOver hreaches (Nat.lt_of_not_le hfits)⟩
  rcases hmake : host.makeStaging settings.assembler.stagingDir s with ⟨cause | directory, made⟩
  case error => exact .inr ⟨_, .notMade hreaches hfits hmake⟩
  rcases hwrite : host.writeFile (StagingArea.source ⟨directory⟩) (Utf8.encode source.toList) made
    with ⟨cause | ⟨⟩, staged⟩
  case error => exact .inr ⟨_, .notWritten hreaches hfits hmake hwrite⟩
  have hstages : Stages host settings r s source ⟨directory⟩ staged :=
    ⟨hreaches, hfits, made, hmake, hwrite⟩
  cases hrun : runs host settings ⟨directory⟩ staged with
  | notStarted cause => exact .inr ⟨_, .notStarted hstages hrun⟩
  | notCollected cause => exact .inr ⟨_, .notCollected hstages hrun⟩
  | overdue => exact .inr ⟨_, .overdue hstages hrun⟩
  | ended status stderr =>
      exact .inl ⟨⟨directory⟩, status, stderr, source, staged, hstages, hrun⟩

/-- **A submission is answered with success exactly when it finishes**, and then with what the
assembler came to and a message that is not blank.  Otherwise the first obstacle decides the
answer. -/
theorem validate_course (host : Host σ) (settings : Settings) (r : Request) (s : σ) :
    ((validate host settings r s).response.status = 200 ↔
      ∃ area status stderr, Finishes host settings r s area status stderr) ∧
    (∀ area status stderr, Finishes host settings r s area status stderr →
      ∃ message, Tells (wordsOf settings area stderr) status message ∧
        (∃ c ∈ message.toList, isBlankChar c = false) ∧
        (validate host settings r s).compiled = some (decide (status = .exited 0)) ∧
        (validate host settings r s).response.body =
          Utf8.encode (Answer.resultObject (decide (status = .exited 0)) message).render) ∧
    (∀ response, Stops host settings r s response →
      (validate host settings r s).response = response ∧
        (validate host settings r s).compiled = none) ∧
    ((∃ area status stderr, Finishes host settings r s area status stderr) ∨
      ∃ response, Stops host settings r s response) := by
  refine ⟨⟨?_, ?_⟩, ?_, fun response hstops => validate_of_stops hstops,
    finishes_or_stops host settings r s⟩
  · intro hstatus
    rcases finishes_or_stops host settings r s with hfinishes | ⟨response, hstops⟩
    · exact hfinishes
    · rw [(validate_of_stops hstops).1] at hstatus
      exact absurd hstatus (status_of_stops hstops)
  · rintro ⟨area, status, stderr, hfinishes⟩
    obtain ⟨message, -, -, hresponse⟩ := validate_of_finishes hfinishes
    rw [hresponse]
  · intro area status stderr hfinishes
    obtain ⟨message, htells, hcompiled, hresponse⟩ := validate_of_finishes hfinishes
    exact ⟨message, htells, htells.visible, hcompiled, by rw [hresponse]⟩

end AssemblyGate.Validation
