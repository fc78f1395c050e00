/-
**Which accepted settings crash the program.**

The settings are checked once, when they are loaded, and used in many places.  The lengths of time
among them can be anything that a word can hold: where they are multiplied, the product stops at the
largest word, and where they are waited for, any length is good.  Two values are used as they are
and were not checked: a program cannot be run by no threads, and the clock cannot count to every
deadline.  On a machine that can make as many threads as are asked for, nothing else in the settings
brings the program down.

What is logged on the way can also bring it down, or the task that waits for signals, where a
standard stream cannot be written to; what is said of the program as a whole is said of machines
whose streams can be.

Main definitions:

* `AssemblyGate.saturatingMul` — the product of two words, as far as a word can tell;
* `AssemblyGate.Drain.Ticks` — a clock that goes on while a server sleeps;
* `AssemblyGate.Platform.KeepsStreams` — a machine whose standard streams can be written to;
* `AssemblyGate.Platform.HandlesSignals` — a machine on which every signal can be handled;
* `AssemblyGate.Program.Crashes` — a run that ends with a crash.

Main results:

* `AssemblyGate.Settings.toNat_connectionWord` — the time of a connection does not overflow;
* `AssemblyGate.Drain.wait_eq_overflow_iff`, `AssemblyGate.Drain.wait_ne_endless` — what draining
  comes to;
* `AssemblyGate.Program.crashes_iff_of_load` — **which accepted settings crash the program**;
* `AssemblyGate.Program.accepted_settings_crash` — settings of both kinds are accepted.
-/
import AssemblyGate.Proofs.Journal.Interruption
import AssemblyGate.Proofs.Server.ConnectionTime
import AssemblyGate.Server.Program

set_option autoImplicit false

namespace AssemblyGate

/-! ### Times in words -/

/-- The product of two words, or the largest word where the product is none. -/
def saturatingMul (a b : UInt64) : UInt64 :=
  if a.toNat * b.toNat ≤ maxWord then a * b else UInt64.ofNat maxWord

theorem toNat_saturatingMul (a b : UInt64) :
    (saturatingMul a b).toNat = min maxWord (a.toNat * b.toNat) := by
  unfold saturatingMul
  split
  · rename_i hle
    rw [Nat.min_eq_right hle, UInt64.toNat_mul]
    exact Nat.mod_eq_of_lt (Nat.lt_succ_of_le hle)
  · rename_i hgt
    rw [Nat.min_eq_left (by omega)]
    rfl

/-- The time of a connection in milliseconds, computed on words. -/
def Settings.connectionWord (s : Settings) : UInt64 :=
  saturatingMul (max s.performance.readTimeout s.performance.writeTimeout) 1000

/-- Computing the time of a connection on words loses nothing. -/
theorem Settings.toNat_connectionWord (s : Settings) : s.connectionWord.toNat = s.connectionMs := by
  rw [connectionWord, toNat_saturatingMul, UInt64.toNat_max]
  rfl

/-! ### Draining -/

namespace Drain

/-- A clock that shows a pause more, at least, from one look to the next. -/
def Ticks (clock : Nat → Nat) : Prop := ∀ n, clock n + pause ≤ clock (n + 1)

theorem Ticks.le {clock : Nat → Nat} (h : Ticks clock) (n : Nat) :
    clock 0 + n * pause ≤ clock n := by
  induction n with
  | zero => simp
  | succ n ih =>
      have hnext := h n
      rw [Nat.succ_mul]
      omega

theorem deadline?_eq_none_iff {now graceSeconds : Nat} :
    deadline? now graceSeconds = none ↔ maxSeconds < now / 1000 + graceSeconds := by
  unfold deadline?
  split <;> simp <;> omega

theorem waitFrom_ne_overflow (counter clock : Nat → Nat) (deadline room n : Nat) :
    waitFrom counter clock deadline room n ≠ .overflow := by
  induction room generalizing n with
  | zero => simp [waitFrom]
  | succ room ih =>
      unfold waitFrom
      split
      · exact ih (n + 1)
      · simp

/-- A wait ends if there is room for the looks until its deadline. -/
theorem waitFrom_ne_endless {clock : Nat → Nat} (hticks : Ticks clock) (counter : Nat → Nat)
    {deadline room n : Nat} (hroom : deadline ≤ clock 0 + (n + room) * pause) :
    waitFrom counter clock deadline (room + 1) n ≠ .endless := by
  induction room generalizing n with
  | zero =>
      have hnow := hticks.le n
      simp only [Nat.add_zero] at hroom
      unfold waitFrom
      rw [if_neg (by omega)]
      simp
  | succ room ih =>
      unfold waitFrom
      split
      · refine ih ?_
        rwa [Nat.succ_add_eq_add_succ]
      · simp

/-- **A wait fails exactly when the clock cannot count to its deadline.** -/
theorem wait_eq_overflow_iff (counter clock : Nat → Nat) (graceSeconds : Nat) :
    wait counter clock graceSeconds = .overflow ↔
      maxSeconds < clock 0 / 1000 + graceSeconds := by
  rw [← deadline?_eq_none_iff]
  unfold wait
  cases deadline? (clock 0) graceSeconds with
  | none => simp
  | some deadline => simpa using waitFrom_ne_overflow counter clock deadline _ 0

/-- **No wait goes on for ever**, whatever becomes of the connections. -/
theorem wait_ne_endless {clock : Nat → Nat} (hticks : Ticks clock) (counter : Nat → Nat)
    (graceSeconds : Nat) : wait counter clock graceSeconds ≠ .endless := by
  unfold wait
  cases hdeadline : deadline? (clock 0) graceSeconds with
  | none => simp
  | some deadline =>
      obtain ⟨-, hlast⟩ := Option.ite_none_right_eq_some.1 hdeadline
      have hroom : deadline ≤ clock 0 + (0 + graceSeconds * 1000 / pause) * pause := by
        simp only [Option.some.injEq] at hlast
        simp only [pause]
        omega
      exact waitFrom_ne_endless hticks counter hroom

end Drain

/-! ### The program -/

/-- A machine whose standard streams can be written to. -/
def Platform.KeepsStreams {σ : Type} (p : Platform σ) : Prop :=
  ∀ (sink : Sink) (bytes : Bytes) (m : σ), sink.isVital = true →
    ∃ m', p.recorder.write sink bytes m = .ok m'

/-- A machine on which every signal can be handled. -/
def Platform.HandlesSignals {σ : Type} (p : Platform σ) : Prop :=
  ∀ signal : StopSignal, p.handle signal = .ok ()

theorem Platform.not_handlesSignals {σ : Type} {p : Platform σ} {signal : StopSignal}
    {fault : Fault} (h : p.handle signal = .error fault) : ¬p.HandlesSignals := by
  intro hhandles
  cases h.symm.trans (hhandles signal)

namespace Program

variable {σ : Type} {p : Platform σ}

/-- What ends with a crash. -/
def Crashes {α : Type} (ended : Except Halt α) : Prop := ∃ cause, ended = .error (.crash cause)

@[simp] theorem crashes_crash {α : Type} (cause : String) :
    Crashes (.error (.crash cause) : Except Halt α) := ⟨cause, rfl⟩

@[simp] theorem not_crashes_ok {α : Type} (a : α) : ¬Crashes (.ok a) := by simp [Crashes]

theorem workers_crashes_iff {s : Settings} :
    Crashes (workers s) ↔ s.server.workers = some 0 := by
  unfold workers
  split <;> simp_all

theorem exists_deliver (hstreams : p.KeepsStreams) (journal : Journal) (m : σ) (e : Event) :
    ∃ m', journal.deliver p.recorder m e = .ok m' :=
  Journal.exists_deliver_of_not_fails (Journal.not_fails_of_keepsStreams hstreams journal m e)

/-- Where the standard streams can be written to, whatever is to be logged can be. -/
theorem exists_log (hstreams : p.KeepsStreams) (journal : Journal) (events : List Event) (m : σ) :
    ∃ m', log p journal events m = (.ok (), m') := by
  suffices hdelivered : ∃ m', journal.deliverAll p.recorder events m = .ok m' by
    obtain ⟨m', hdelivered⟩ := hdelivered
    exact ⟨m', by rw [log, hdelivered]⟩
  induction events generalizing m with
  | nil => exact ⟨m, rfl⟩
  | cons e events ih =>
      obtain ⟨between, hbetween⟩ := exists_deliver hstreams journal m e
      obtain ⟨m', hrest⟩ := ih between
      refine ⟨m', ?_⟩
      rw [Journal.deliverAll, List.foldlM_cons, hbetween]
      exact hrest

/-- Where the standard streams can be written to, no task ends at a line. -/
theorem exists_note (hstreams : p.KeepsStreams) (journal : Journal) (e : Event) (m : σ) :
    ∃ m', note p journal e m = (true, m') := by
  obtain ⟨m', hdelivered⟩ := exists_deliver hstreams journal m e
  exact ⟨m', by rw [note, hdelivered]⟩

/-- A task waits for signals exactly where all of them can be handled. -/
theorem watch_eq_true_iff (hstreams : p.KeepsStreams) (journal : Journal) (m : σ) :
    (watch p journal m).1 = true ↔ p.HandlesSignals := by
  unfold watch
  cases hterminate : p.handle .terminate with
  | error fault => simpa using Platform.not_handlesSignals hterminate
  | ok =>
      cases hinterrupt : p.handle .interrupt with
      | error fault => simpa using Platform.not_handlesSignals hinterrupt
      | ok =>
          obtain ⟨m', hnote⟩ := exists_note hstreams journal (Notice.watching (p.process m)) m
          simp only [hnote, true_iff]
          intro signal
          cases signal with
          | terminate => exact hterminate
          | interrupt => exact hinterrupt

/-- Listening and reporting the start bring nothing down, the settings stay as they are, and
signals are waited for where they can be handled. -/
theorem serve_kept (hstreams : p.KeepsStreams) (s : Settings) (journal : Journal) (m : σ) :
    ¬Crashes (serve p s journal m).1 ∧
      ∀ running, (serve p s journal m).1 = .ok running →
        running.settings = s ∧ (running.isWatching = true ↔ p.HandlesSignals) := by
  unfold serve
  cases s.socketAddress? with
  | none => simp [Crashes]
  | some address =>
      dsimp only
      cases p.listen address m with
      | error fault => simp [Crashes]
      | ok m =>
          obtain ⟨m', hlog⟩ := exists_log hstreams journal (startEvents p s address m) m
          simp only [hlog]
          refine ⟨by simp, ?_⟩
          rintro running ⟨⟩
          exact ⟨rfl, watch_eq_true_iff hstreams journal m'⟩

variable {arguments : List String} {m : σ} {s : Settings}

/-- On the way to the first connection only one setting brings the program down. -/
theorem start_crashes_iff (hstreams : p.KeepsStreams)
    (hload : Settings.load (p.fileView m) (p.environment m)
      (arguments.headD Settings.defaultName) = .ok s) :
    Crashes (start p arguments m).1 ↔
      (∃ journal, (Journal.openOnce p.logFiles none s.logging m).1 = .ok journal) ∧
        s.server.workers = some 0 := by
  unfold start
  rw [hload]
  dsimp only
  cases Journal.openOnce p.logFiles none s.logging m with
  | mk opened m' =>
      cases opened with
      | error fault => simp [Crashes]
      | ok journal =>
          by_cases hnone : s.server.workers = some 0
          · simp [workers, hnone]
          · simpa [workers, hnone] using (serve_kept hstreams s journal m').1

theorem kept_of_start (hstreams : p.KeepsStreams)
    (hload : Settings.load (p.fileView m) (p.environment m)
      (arguments.headD Settings.defaultName) = .ok s)
    {running : Running} (hstart : (start p arguments m).1 = .ok running) :
    running.settings = s ∧ (running.isWatching = true ↔ p.HandlesSignals) := by
  unfold start at hstart
  rw [hload] at hstart
  dsimp only at hstart
  cases hopened : Journal.openOnce p.logFiles none s.logging m with
  | mk opened m' =>
      rw [hopened] at hstart
      cases opened with
      | error fault => simp at hstart
      | ok journal =>
          cases hworkers : workers s with
          | error halt => simp [hworkers] at hstart
          | ok threads =>
              simp only [hworkers] at hstart
              exact (serve_kept hstreams s journal m').2 running hstart

/-- The clock of a server that nothing happens to but its sleeps. -/
theorem ticks_drain (now : Nat) : Drain.Ticks fun n => now + n * Drain.pause := by
  intro n
  simp only [Nat.succ_mul, Nat.add_assoc, Nat.le_refl]

/-- On the way from a stop request to the end only one setting brings the program down. -/
theorem close_crashes_iff (hstreams : p.KeepsStreams) (now : Nat) (r : Running) :
    Crashes (close p now r m).1 ↔
      Drain.maxSeconds < now / 1000 + r.settings.performance.shutdownTimeout.toNat := by
  obtain ⟨loop, course, events, hstop, hcourse⟩ :
      ∃ loop course events, stop r.settings now r.loop = (loop, course, events) ∧
        course = drain r.settings now loop :=
    ⟨_, _, _, rfl, rfl⟩
  obtain ⟨m', hlog⟩ := exists_log hstreams r.journal events m
  have hoverflow := Drain.wait_eq_overflow_iff (fun _ => loop.state.active.toNat)
    (fun n => now + n * Drain.pause) r.settings.performance.shutdownTimeout.toNat
  have hends := Drain.wait_ne_endless (ticks_drain now)
    (fun _ => loop.state.active.toNat) r.settings.performance.shutdownTimeout.toNat
  rw [Nat.zero_mul, Nat.add_zero] at hoverflow
  rw [← hoverflow]
  unfold close
  rw [hstop]
  simp only [hlog]
  change course = Drain.wait _ _ _ at hcourse
  rw [← hcourse] at hends ⊢
  cases course with
  | ended result => simp
  | endless => exact absurd rfl hends
  | overflow => simp

/-- A signal brings the program down only where a task waits for it, and then for one setting. -/
theorem finish_crashes_iff (hstreams : p.KeepsStreams) (signal : StopSignal) (r : Running) :
    Crashes (finish p signal r m).1 ↔ r.isWatching = true ∧
      Drain.maxSeconds <
        p.clock m / 1000 + r.settings.performance.shutdownTimeout.toNat := by
  unfold finish
  cases r.isWatching with
  | true =>
      obtain ⟨m', hnote⟩ := exists_note hstreams r.journal (Notice.signalled signal.name) m
      simpa only [if_true, hnote, true_and] using close_crashes_iff hstreams (p.clock m) r
  | false => cases p.handle signal <;> simp [Crashes]

/-- **Which accepted settings crash the program.**  The time of a connection is computed without
overflow and is longer than the assembler's.  The worker threads cannot be made exactly if there
are to be none of them, where any other number of them can be; draining always ends, unless the
clock cannot count to its deadline.  And where the standard streams can be written to, the program
as a whole crashes for these two reasons and for no other: when its journal is open it cannot go on
without worker threads, and when a signal has come that is waited for it cannot go on without a
deadline. -/
theorem crashes_iff_of_load (arguments : List String) (m : σ) (hstreams : p.KeepsStreams)
    (hload : Settings.load (p.fileView m) (p.environment m)
      (arguments.headD Settings.defaultName) = .ok s) :
    (s.connectionWord.toNat = s.connectionMs ∧ s.assembler.timeoutMs < s.connectionWord) ∧
      (Crashes (workers s) ↔ s.server.workers = some 0) ∧
      (∀ counter clock, Drain.Ticks clock →
        Drain.wait counter clock s.performance.shutdownTimeout.toNat ≠ .endless ∧
        (Drain.wait counter clock s.performance.shutdownTimeout.toNat = .overflow ↔
          Drain.maxSeconds < clock 0 / 1000 + s.performance.shutdownTimeout.toNat)) ∧
      ∀ signal, Crashes (run p arguments signal m).1 ↔
        ((∃ journal, (Journal.openOnce p.logFiles none s.logging m).1 = .ok journal) ∧
          s.server.workers = some 0) ∨
        ((∃ running, (start p arguments m).1 = .ok running) ∧ p.HandlesSignals ∧
          Drain.maxSeconds <
            p.clock (start p arguments m).2 / 1000 + s.performance.shutdownTimeout.toNat) := by
  have hword := s.toNat_connectionWord
  have hlasts : s.assembler.timeoutMs.toNat < s.connectionMs := by
    simpa [Settings.outlasts] using Settings.outlasts_of_load hload
  refine ⟨⟨hword, UInt64.lt_iff_toNat_lt.2 (hword ▸ hlasts)⟩, workers_crashes_iff,
    fun counter clock hticks => ⟨Drain.wait_ne_endless hticks counter _,
      Drain.wait_eq_overflow_iff counter clock _⟩, fun signal => ?_⟩
  rw [← start_crashes_iff hstreams hload]
  have hkept : ∀ running, (start p arguments m).1 = .ok running →
      running.settings = s ∧ (running.isWatching = true ↔ p.HandlesSignals) :=
    fun running => kept_of_start hstreams hload
  unfold run
  cases hstart : start p arguments m with
  | mk started m' =>
      rw [hstart] at hkept
      cases started with
      | error halt => simp [Crashes]
      | ok running =>
          obtain ⟨hsettings, hwatching⟩ := hkept running rfl
          rw [← hsettings, ← hwatching]
          simpa using finish_crashes_iff hstreams signal running

/-! ### Settings that crash the program -/

/-- A machine with some variables set, on which everything goes well. -/
def plainPlatform (environment : List (String × String)) : Platform Unit where
  host := {
    makeStaging := fun _ m => (.ok "/tmp/asm-0", m)
    writeFile := fun _ _ m => (.ok (), m)
    run := fun _ _ m => (.ended (.exited 0) [], m)
    removeTree := fun _ m => m
    isFile := fun _ _ => true
    searchPath := fun _ => none }
  logFiles := {
    makeDirectory := fun _ m => (.ok (), m)
    isDirectory := fun _ _ => true
    openAtEnd := fun _ m => (.ok (.file 0), m) }
  recorder := ⟨fun _ _ m => .ok m⟩
  fileView := fun _ => Connection.bareView
  environment := fun _ => environment
  listen := fun _ m => .ok m
  handle := fun _ => .ok ()
  process := fun _ => "1"
  clock := fun _ => 0

theorem plainPlatform_keepsStreams (environment : List (String × String)) :
    (plainPlatform environment).KeepsStreams := fun _ _ _ _ => ⟨(), rfl⟩

/-- An environment that asks for no worker threads. -/
def noWorkers : List (String × String) := [("ASMCHECK__SERVER__WORKERS", "0")]

/-- An environment that gives the longest time for draining that a word can hold. -/
def longestGrace : List (String × String) :=
  [("ASMCHECK__PERFORMANCE__SHUTDOWN_TIMEOUT", "18446744073709551615")]

theorem exists_load {environment : List (String × String)} {α : Type} {f : Settings → α} {a : α}
    (h : (Settings.load Connection.bareView environment "config").toOption.map f = some a) :
    ∃ s, Settings.load Connection.bareView environment "config" = .ok s ∧ f s = a := by
  cases hs : Settings.load Connection.bareView environment "config" with
  | error e => simp [hs, Except.toOption] at h
  | ok s =>
      simp only [hs, Except.toOption, Option.map_some, Option.some.injEq] at h
      exact ⟨s, rfl, h⟩

theorem exists_load_noWorkers :
    ∃ s, Settings.load Connection.bareView noWorkers "config" = .ok s ∧
      (s.server.workers, s.logging.accessLogFile, s.logging.errorLogFile) =
        (some 0, none, none) :=
  exists_load (by decide +kernel)

theorem exists_load_longestGrace :
    ∃ s, Settings.load Connection.bareView longestGrace "config" = .ok s ∧
      s.performance.shutdownTimeout.toNat = maxWord :=
  exists_load (by decide +kernel)

/-- A program that is told to run by no threads crashes. -/
theorem crashes_iff_of_load_noWorkers :
    (plainPlatform noWorkers).KeepsStreams ∧
      ∃ s, Settings.load Connection.bareView noWorkers "config" = .ok s ∧
        Crashes (run (plainPlatform noWorkers) [] .terminate ()).1 := by
  obtain ⟨s, hload, hs⟩ := exists_load_noWorkers
  simp only [Prod.mk.injEq] at hs
  obtain ⟨hworkers, haccess, herrors⟩ := hs
  have hstreams := plainPlatform_keepsStreams noWorkers
  have hopens : ∃ journal, (Journal.openOnce (plainPlatform noWorkers).logFiles none
      s.logging ()).1 = .ok journal := by
    simp [Journal.openOnce, Journal.openFrom, LogFiles.openOr, haccess, herrors]
  have hcrashes := (crashes_iff_of_load [] () hstreams hload).2.2.2
  exact ⟨hstreams, s, hload, (hcrashes .terminate).2 (.inl ⟨hopens, hworkers⟩)⟩

/-- **Not all accepted settings can be used**: some ask for no worker threads, and some give a time
for draining that takes the clock past its end. -/
theorem accepted_settings_crash :
    (¬∀ view environment name s, Settings.load view environment name = .ok s →
      ¬Crashes (workers s)) ∧
    ¬∀ view environment name s, Settings.load view environment name = .ok s →
      ∀ now loop, drain s now loop ≠ .overflow := by
  constructor
  · intro h
    obtain ⟨s, hload, hs⟩ := exists_load_noWorkers
    simp only [Prod.mk.injEq] at hs
    exact h _ _ _ s hload (workers_crashes_iff.2 hs.1)
  · intro h
    obtain ⟨s, hload, hs⟩ := exists_load_longestGrace
    refine h _ _ _ s hload 0 (AcceptLoop.start none ServiceState.initial) ?_
    refine (Drain.wait_eq_overflow_iff _ _ _).2 ?_
    have hlarge : Drain.maxSeconds < maxWord := by decide
    omega

end Program

end AssemblyGate
