/-
**What a failing log costs.**

The task of a connection answers requests, logs what there is to log on the way, and takes the
connection out of the count at its end.  A line that fails ends the task where it stands: the
request at hand and all that follow are not answered, and the connection stays in the count.  A line
fails only if it is for a standard stream; whatever becomes of the log files, a task whose lines all
go to files gives every answer and takes the connection out of the count.

Main definitions:

* `AssemblyGate.Connection.Deed`, `AssemblyGate.Connection.perform` — what a task does, and how far
  it comes;
* `AssemblyGate.Connection.Session` — the requests of a connection and its end.

Main results:

* `AssemblyGate.Connection.perform_eq_error_iff` — a task breaks off exactly at a line that fails;
* `AssemblyGate.Connection.task_course` — **what a failing log costs**;
* `AssemblyGate.Connection.task_of_named_files` — nothing where the settings name two log files;
* `AssemblyGate.Connection.start_fullPlatform` — a server can start although its standard output
  has no room;
* `AssemblyGate.Connection.full_stream_costs_answer` — a stream without room costs an answer and a
  place.
-/
import AssemblyGate.Posix.Process
import AssemblyGate.Proofs.Journal.Interruption
import AssemblyGate.Proofs.Server.Crash
import AssemblyGate.Proofs.Service.AccessLog
import AssemblyGate.Server.Connection
import AssemblyGate.Service.State

set_option autoImplicit false

namespace AssemblyGate.Connection

open Journal (Fails)
open Service (Visit)

variable {σ τ : Type}

/-! ### The task of a connection -/

/-- Something that the task of a connection does: it logs an event, it returns a response, or it
takes the connection out of the count. -/
inductive Deed
  | log (e : Event)
  | answer (response : Response)
  | leave

/-- The response of a deed. -/
def Deed.response? : Deed → Option Response
  | .answer response => some response
  | .log _ | .leave => none

/-- How far a task has come: the responses returned, the state that the connections share, and the
condition of the log targets. -/
structure Progress (τ : Type) where
  answers : List Response
  shared : ServiceState
  targets : τ

/-- Do one thing.  An error is how far the task has come when it breaks off. -/
def Deed.perform (r : Recorder τ) (j : Journal) (p : Progress τ) :
    Deed → Except (Progress τ) (Progress τ)
  | .log e =>
      -- an error of the journal is a panic: nothing that the task has yet to do is done
      match j.deliver r p.targets e with
      | .ok targets => .ok { p with targets }
      | .error targets => .error { p with targets }
  | .answer response => .ok { p with answers := p.answers ++ [response] }
  | .leave => .ok { p with shared := p.shared.leave }

/-- Do one thing after the other. -/
def perform (r : Recorder τ) (j : Journal) (deeds : List Deed) (p : Progress τ) :
    Except (Progress τ) (Progress τ) :=
  deeds.foldlM (Deed.perform r j) p

/-- The requests of a connection that are answered, what is noted of one that is cut off by the end,
and the end. -/
structure Session (σ : Type) where
  visits : List (Visit σ)
  unanswered : List Event
  peer : String
  ending : Ending

namespace Session

variable (settings : Settings) (c : Session σ)

/-- What the task does for one request. -/
def deedsFor (v : Visit σ) : List Deed :=
  (v.reply settings).events.map .log ++ [.answer (v.reply settings).response]

/-- What the task of a connection does before its last deed. -/
def deedsBefore : List Deed :=
  c.visits.flatMap (deedsFor settings) ++
    (c.unanswered ++ Connection.events settings c.peer c.ending).map .log

/-- What the task of a connection does. -/
def deeds : List Deed := c.deedsBefore settings ++ [.leave]

/-- The responses to the requests, as they are without a log. -/
def responses : List Response := c.visits.map fun v => (v.reply settings).response

end Session

/-! ### How far a task comes -/

section Tasks

variable {r : Recorder τ} {j : Journal} {p p' : Progress τ} {deeds : List Deed}

theorem perform_cons (deed : Deed) (deeds : List Deed) (p : Progress τ) :
    perform r j (deed :: deeds) p = (deed.perform r j p).bind (perform r j deeds) := by
  rw [perform, List.foldlM_cons]
  rfl

theorem perform_append (first second : List Deed) (p : Progress τ) :
    perform r j (first ++ second) p = (perform r j first p).bind (perform r j second) :=
  List.foldlM_append

/-- Only a line that fails ends a task. -/
theorem Deed.perform_eq_error_iff {deed : Deed} :
    deed.perform r j p = .error p' ↔ p' = p ∧ ∃ e, deed = .log e ∧ j.Fails r p.targets e := by
  cases deed with
  | answer response => simp [Deed.perform]
  | leave => simp [Deed.perform]
  | log e =>
      have hdeliver := @Journal.deliver_eq_error_iff τ r j p.targets
      rw [Deed.perform]
      cases hlog : j.deliver r p.targets e with
      | ok targets =>
          have hkept : ¬j.Fails r p.targets e := fun h => by
            cases hlog.symm.trans (hdeliver.2 ⟨rfl, h⟩)
          simp [hkept]
      | error targets =>
          obtain ⟨rfl, hfails⟩ := hdeliver.1 hlog
          constructor
          · intro h
            exact ⟨(Except.error.inj h).symm, e, rfl, hfails⟩
          · rintro ⟨rfl, -⟩
            rfl

/-- **A task breaks off exactly at a line that fails**, and has done all that comes before it. -/
theorem perform_eq_error_iff :
    perform r j deeds p = .error p' ↔
      ∃ before e after, deeds = before ++ .log e :: after ∧ perform r j before p = .ok p' ∧
        j.Fails r p'.targets e := by
  constructor
  · intro h
    induction deeds generalizing p with
    | nil => cases h
    | cons deed deeds ih =>
        rw [perform_cons] at h
        cases hdeed : deed.perform r j p with
        | error broken =>
            rw [hdeed] at h
            obtain rfl := Except.error.inj h
            obtain ⟨rfl, e, rfl, hfails⟩ := Deed.perform_eq_error_iff.1 hdeed
            exact ⟨[], e, deeds, rfl, rfl, hfails⟩
        | ok next =>
            rw [hdeed] at h
            obtain ⟨before, e, after, rfl, hbefore, hfails⟩ := ih h
            refine ⟨deed :: before, e, after, rfl, ?_, hfails⟩
            rw [perform_cons, hdeed]
            exact hbefore
  · rintro ⟨before, e, after, rfl, hbefore, hfails⟩
    have hdeed : (Deed.log e).perform r j p' = .error p' :=
      Deed.perform_eq_error_iff.2 ⟨rfl, e, rfl, hfails⟩
    rw [perform_append, hbefore, Except.bind, perform_cons, hdeed]
    rfl

theorem exists_perform (h : ∀ targets e, ¬j.Fails r targets e) (deeds : List Deed) (p : Progress τ) :
    ∃ p', perform r j deeds p = .ok p' := by
  cases hperform : perform r j deeds p with
  | ok p' => exact ⟨p', rfl⟩
  | error p' =>
      obtain ⟨before, e, after, -, -, hfails⟩ := perform_eq_error_iff.1 hperform
      exact absurd hfails (h _ _)

/-- What has been done is what was to be done. -/
theorem progress_of_perform (h : perform r j deeds p = .ok p') :
    p'.answers = p.answers ++ deeds.filterMap Deed.response? ∧
      (.leave ∉ deeds → p'.shared = p.shared) := by
  induction deeds generalizing p with
  | nil =>
      cases h
      simp
  | cons deed deeds ih =>
      rw [perform_cons] at h
      cases hdeed : deed.perform r j p with
      | error broken =>
          rw [hdeed] at h
          cases h
      | ok next =>
          rw [hdeed] at h
          obtain ⟨hanswers, hshared⟩ := ih h
          cases deed with
          | log e =>
              rw [Deed.perform] at hdeed
              split at hdeed <;> cases hdeed
              rw [List.filterMap_cons_none rfl]
              exact ⟨hanswers, by simpa using hshared⟩
          | answer response =>
              cases hdeed
              have hresponse : Deed.response? (.answer response) = some response := rfl
              rw [List.filterMap_cons_some hresponse]
              exact ⟨by simpa using hanswers, by simpa using hshared⟩
          | leave =>
              cases hdeed
              rw [List.filterMap_cons_none rfl]
              exact ⟨hanswers, by simp⟩

end Tasks

/-! ### Sessions -/

namespace Session

variable (settings : Settings) (c : Session σ)

/-- To log is not to answer, and not to leave. -/
theorem logs_deeds (events : List Event) :
    (events.map Deed.log).filterMap Deed.response? = [] ∧ Deed.leave ∉ events.map Deed.log := by
  constructor
  · rw [List.filterMap_map]
    exact List.filterMap_eq_nil_iff.2 fun e _ => rfl
  · simp

theorem responses_deedsBefore :
    (c.deedsBefore settings).filterMap Deed.response? = c.responses settings := by
  rw [deedsBefore, List.filterMap_append, (logs_deeds _).1, List.append_nil, responses]
  induction c.visits with
  | nil => rfl
  | cons v visits ih =>
      rw [List.flatMap_cons, List.filterMap_append, ih, deedsFor, List.filterMap_append,
        (logs_deeds _).1]
      rfl

theorem leave_notMem_deedsBefore : Deed.leave ∉ c.deedsBefore settings := by
  simp [deedsBefore, deedsFor]

/-- Before its last deed a task can break off, at that it cannot. -/
theorem perform_deeds (r : Recorder τ) (j : Journal) (p : Progress τ) :
    perform r j (c.deeds settings) p = (perform r j (c.deedsBefore settings) p).map
      fun p => { p with shared := p.shared.leave } := by
  rw [deeds, perform_append]
  cases perform r j (c.deedsBefore settings) p <;> rfl

variable {settings c} {r : Recorder τ} {j : Journal} {shared : ServiceState} {targets : τ}
  {p : Progress τ}

/-- A task that does not break off gives every response and takes the connection out of the
count. -/
theorem course_ok (h : perform r j (c.deeds settings) ⟨[], shared, targets⟩ = .ok p) :
    p.answers = c.responses settings ∧ p.shared = shared.leave := by
  rw [perform_deeds] at h
  cases hbefore : perform r j (c.deedsBefore settings) ⟨[], shared, targets⟩ with
  | error broken =>
      rw [hbefore] at h
      cases h
  | ok last =>
      rw [hbefore] at h
      cases h
      obtain ⟨hanswers, hshared⟩ := progress_of_perform hbefore
      rw [responses_deedsBefore, List.nil_append] at hanswers
      have hleave := hshared (leave_notMem_deedsBefore settings c)
      exact ⟨hanswers, congrArg ServiceState.leave hleave⟩

/-- A task that breaks off has given the first of the responses and left the connection in the
count. -/
theorem course_error (h : perform r j (c.deeds settings) ⟨[], shared, targets⟩ = .error p) :
    p.answers <+: c.responses settings ∧ p.shared = shared := by
  rw [perform_deeds] at h
  cases hbefore : perform r j (c.deedsBefore settings) ⟨[], shared, targets⟩ with
  | ok last =>
      rw [hbefore] at h
      cases h
  | error broken =>
      rw [hbefore] at h
      obtain rfl := Except.error.inj h
      -- what is done before the line that fails is a first part of the deeds, without the last
      obtain ⟨before, e, after, hdeeds, hdone, -⟩ := perform_eq_error_iff.1 hbefore
      obtain ⟨hanswers, hshared⟩ := progress_of_perform hdone
      have hleave := leave_notMem_deedsBefore settings c
      rw [hdeeds, List.mem_append, not_or] at hleave
      refine ⟨?_, hshared hleave.1⟩
      rw [hanswers, List.nil_append, ← responses_deedsBefore, hdeeds, List.filterMap_append]
      exact List.prefix_append _ _

end Session

/-- **What a failing log costs.**  A task that does not break off gives every response as it is
without a log and takes the connection out of the count.  One that does breaks off at a line for a
standard stream that cannot be written: it has given the responses that come before that line, and
the connection stays in the count.  No task breaks off whose lines all go to files, or while the
standard streams can be written to, whatever becomes of the files. -/
theorem task_course (r : Recorder τ) (j : Journal) (settings : Settings) (c : Session σ)
    (shared : ServiceState) (targets : τ) :
    (∀ p, perform r j (c.deeds settings) ⟨[], shared, targets⟩ = .ok p →
      p.answers = c.responses settings ∧ p.shared = shared.leave) ∧
    (∀ p, perform r j (c.deeds settings) ⟨[], shared, targets⟩ = .error p ↔
      ∃ before e after, c.deeds settings = before ++ .log e :: after ∧
        perform r j before ⟨[], shared, targets⟩ = .ok p ∧ j.Fails r p.targets e) ∧
    (∀ p, perform r j (c.deeds settings) ⟨[], shared, targets⟩ = .error p →
      p.answers <+: c.responses settings ∧ p.shared = shared) ∧
    (j.access.isVital = false → j.errors.isVital = false →
      ∃ p, perform r j (c.deeds settings) ⟨[], shared, targets⟩ = .ok p) ∧
    (r.KeepsStreams → ∃ p, perform r j (c.deeds settings) ⟨[], shared, targets⟩ = .ok p) :=
  ⟨fun _ => Session.course_ok, fun _ => perform_eq_error_iff, fun _ => Session.course_error,
    fun haccess herrors => exists_perform (Journal.not_fails_of_files haccess herrors r) _ _,
    fun hstreams => exists_perform (Journal.not_fails_of_keepsStreams hstreams j) _ _⟩

/-- Where the settings name two log files, no connection loses anything to the log. -/
theorem task_of_named_files {ρ : Type} {files : LogFiles ρ} (hfiles : files.OpensFiles)
    {settings : Settings} {m m' : ρ} {j : Journal}
    (hopen : Journal.openFrom files settings.logging m = (.ok j, m'))
    (haccess : settings.logging.accessLogFile ≠ none)
    (herrors : settings.logging.errorLogFile ≠ none) (r : Recorder τ) (c : Session σ)
    (shared : ServiceState) (targets : τ) :
    ∃ p, perform r j (c.deeds settings) ⟨[], shared, targets⟩ = .ok p ∧
      p.answers = c.responses settings ∧ p.shared = shared.leave := by
  obtain ⟨haccess, herrors⟩ := Journal.files_of_openFrom hfiles hopen haccess herrors
  obtain ⟨p, hp⟩ := exists_perform (Journal.not_fails_of_files haccess herrors r)
    (c.deeds settings) ⟨[], shared, targets⟩
  exact ⟨p, hp, Session.course_ok hp⟩

/-! ### A stream without room -/

/-- An environment by which nothing below a warning is logged, but access is. -/
def warningsOnly : List (String × String) := [("ASMCHECK__LOGGING__LEVEL", "warn")]

/-- The server of this environment that has taken no connection yet. -/
def quietServer : Running where
  settings :=
    { Settings.standard with logging := { Settings.standard.logging with level := "warn" } }
  journal := ⟨.warn, .stdout, .stderr⟩
  isWatching := true
  loop := ⟨.accepting ⟨0⟩, none, ⟨ServiceState.initial, none, 0⟩⟩

/-- A machine with this environment on which nothing can be written to the standard output, from
the start. -/
def fullPlatform : Platform Unit :=
  { Program.plainPlatform warningsOnly with
    recorder := ⟨fun sink _ m => if sink = .stdout then .error (.os Errno.noSpace) else .ok m⟩ }

/-- A connection with one request, for the liveness probe. -/
def probeSession : Session Machine where
  visits := [⟨Machine.host, ⟨⟨0, 0, 0⟩, 5⟩, ⟨"GET", ⟨none, "/healthz", none⟩, "1.1", [], [],
    .v4 ⟨127, 0, 0, 1⟩ 40000⟩, Machine.standard⟩]
  unanswered := []
  peer := "127.0.0.1:40000"
  ending := .closed

/-- The server starts where nothing can be written to the standard output: it has nothing to write
there before it answers a request. -/
theorem start_fullPlatform : Program.start fullPlatform [] () = (.ok quietServer, ()) := by
  have hstart : (Program.start fullPlatform [] ()).1.toOption = some quietServer := by
    decide +kernel
  cases hstarted : Program.start fullPlatform [] () with
  | mk started m =>
      rw [hstarted] at hstart
      cases started with
      | error halt => cases hstart
      | ok running => cases hstart; rfl

/-- **A stream without room costs an answer and a place.**  A server that logs warnings and access
starts with a standard output that nothing can be written to, and takes a connection.  A probe for
liveness is not answered, although its response is that all is well, and the connection stays in
the count.  With a standard output that can be written to, the probe is answered and the connection
leaves the count. -/
theorem full_stream_costs_answer :
    Program.start fullPlatform [] () = (.ok quietServer, ()) ∧
    ∃ taken events, quietServer.loop.step (.arrival probeSession.peer) = (taken, events) ∧
      Program.log fullPlatform quietServer.journal events () = (.ok (), ()) ∧
      taken.state.active = 1 ∧
      (probeSession.responses quietServer.settings).map (·.status) = [200] ∧
      perform fullPlatform.recorder quietServer.journal (probeSession.deeds quietServer.settings)
        ⟨[], taken.state, ()⟩ = .error ⟨[], taken.state, ()⟩ ∧
      (perform (Program.plainPlatform warningsOnly).recorder quietServer.journal
          (probeSession.deeds quietServer.settings) ⟨[], taken.state, ()⟩).toOption.map
        (fun p => (p.answers.map (·.status), p.shared.active)) = some ([200], 0) := by
  refine ⟨start_fullPlatform, _, _, rfl, ?_, ?_, ?_, ?_, ?_⟩
  · rfl
  · rfl
  · rfl
  · rfl
  · rfl

end AssemblyGate.Connection
