/-
**The two time limits of a connection.**

The assembler has its time limit from the moment at which a request reaches it; the connection has
one from its own beginning.  The settings are checked so that the first is the shorter one.  This
orders the lengths of the two and not their ends: a request that comes late, or behind others that
were slow, is dropped with the connection and gets no answer.

Main definitions:

* `AssemblyGate.Connection.reaches` — when a request reaches the assembler;
* `AssemblyGate.Connection.IsOpen` — a connection on which another request can follow;
* `AssemblyGate.Connection.Slow` — a request whose assembler does not end within its limit;
* `AssemblyGate.Connection.IsStopped` — a request that is answered because its assembler was
  stopped.

Main results:

* `AssemblyGate.Connection.serve_slow` — serving a connection up to a slow request;
* `AssemblyGate.Connection.isStopped_iff` — a slow request is answered if it comes early enough;
* `AssemblyGate.Connection.slow_requests_answered` — **which slow requests are answered on an
  accepted configuration**;
* `AssemblyGate.Connection.slow_request_dropped` — with the default settings one is not.
-/
import AssemblyGate.Server.Connection
import AssemblyGate.Settings.Load
import Mathlib.Data.List.Infix

set_option autoImplicit false

namespace AssemblyGate

theorem Settings.outlasts_of_load {view : FileView} {environment : List (String × String)}
    {name : String} {s : Settings} (h : Settings.load view environment name = .ok s) :
    s.outlasts = true := by
  unfold Settings.load at h
  split at h
  · simp at h
  unfold Settings.ofLayers at h
  split at h
  · simp at h
  unfold Settings.checked at h
  split at h
  · rename_i houtlasts
    exact Except.ok.inj h ▸ houtlasts
  · simp at h

/-- The assembler's time limit is below the time that a connection may last. -/
theorem Settings.timeout_lt_of_load {view : FileView} {environment : List (String × String)}
    {name : String} {s : Settings} (h : Settings.load view environment name = .ok s) :
    s.assembler.timeoutMs.toNat < s.connectionSpan := by
  have hlasts : s.assembler.timeoutMs.toNat < s.connectionMs := by
    simpa [Settings.outlasts] using Settings.outlasts_of_load h
  exact Nat.lt_of_lt_of_le hlasts (Nat.min_le_right _ _)

namespace Connection

/-! ### Serving in parts -/

/-- When the latest answer was given, the last one first. -/
def latest (done : List Answered) : Nat := (done.head?.map Answered.given).getD 0

/-- Every answer that has been given stays. -/
theorem suffix_serveFrom (lasts limit free : Nat) (done : List Answered) (arrivals : List Arrival) :
    done <:+ (serveFrom lasts limit free done arrivals).1 := by
  induction arrivals generalizing free done with
  | nil => exact List.suffix_rfl
  | cons arrival rest ih =>
      simp only [serveFrom]
      split
      · exact (List.suffix_cons _ _).trans (ih _ _)
      · exact List.suffix_rfl

/-- On a connection that is still open every request has been answered. -/
theorem length_serveFrom {lasts limit free : Nat} {done : List Answered} {arrivals : List Arrival}
    (h : (serveFrom lasts limit free done arrivals).2 = .closed) :
    (serveFrom lasts limit free done arrivals).1.length = arrivals.length + done.length := by
  induction arrivals generalizing free done with
  | nil => simp [serveFrom]
  | cons arrival rest ih =>
      simp only [serveFrom] at h ⊢
      split at h
      · rename_i hin
        rw [if_pos hin, ih h]
        simp
        omega
      · simp at h

/-- A connection that is still open goes on from its latest answer. -/
theorem serveFrom_append {lasts limit : Nat} {done : List Answered} {before : List Arrival}
    (h : (serveFrom lasts limit (latest done) done before).2 = .closed) (rest : List Arrival) :
    serveFrom lasts limit (latest done) done (before ++ rest) =
      serveFrom lasts limit (latest (serveFrom lasts limit (latest done) done before).1)
        (serveFrom lasts limit (latest done) done before).1 rest := by
  induction before generalizing done with
  | nil => rfl
  | cons arrival before ih =>
      simp only [serveFrom, List.cons_append] at h ⊢
      split at h
      · rename_i hin
        simp only [if_pos hin]
        exact @ih (⟨max (latest done) arrival.complete + (effort limit arrival.needs).1,
          (effort limit arrival.needs).2⟩ :: done) h
      · simp at h

/-! ### Slow requests -/

/-- When a request reaches the assembler: when it is complete and everything before it has been
answered. -/
def reaches (s : Settings) (before : List Arrival) (arrival : Arrival) : Nat :=
  max (((serve s before).1.getLast?.map Answered.given).getD 0) arrival.complete

/-- The given requests have been answered, and another one can follow on the same connection. -/
structure IsOpen (s : Settings) (before : List Arrival) : Prop where
  answered : (serve s before).2 = .closed
  carriesMore : before = [] ∨ isKeptAlive s = true

/-- The assembler does not end within its limit. -/
def Slow (s : Settings) (arrival : Arrival) : Prop :=
  ∀ n, arrival.needs = some n → s.assembler.timeoutMs.toNat ≤ n

/-- A request is answered, while the connection lasts, because its assembler was stopped. -/
def IsStopped (s : Settings) (before : List Arrival) (arrival : Arrival) (after : List Arrival) :
    Prop :=
  ∃ given < s.connectionSpan,
    (serve s (before ++ arrival :: after)).1[before.length]? = some ⟨given, true⟩

theorem effort_of_slow {s : Settings} {arrival : Arrival} (h : Slow s arrival) :
    effort s.assembler.timeoutMs.toNat arrival.needs = (s.assembler.timeoutMs.toNat, true) := by
  unfold effort
  split
  · rename_i n hn
    rw [if_neg (Nat.not_lt.2 (h n hn))]
  · rfl

theorem isOpen_nil (s : Settings) : IsOpen s [] := ⟨by rw [serve_nil], .inl rfl⟩

theorem serve_eq {s : Settings} {arrivals requests : List Arrival}
    (hcarried : carried s arrivals = requests) :
    serve s arrivals =
      ((serveFrom s.connectionSpan s.assembler.timeoutMs.toNat (latest []) [] requests).1.reverse,
        (serveFrom s.connectionSpan s.assembler.timeoutMs.toNat (latest []) [] requests).2) := by
  subst hcarried
  rfl

theorem IsOpen.carried_eq {s : Settings} {before : List Arrival} (h : IsOpen s before) :
    carried s before = before := by
  rcases h.carriesMore with rfl | hkept
  · exact carried_nil s
  · exact if_pos hkept

theorem IsOpen.exists_carried_eq {s : Settings} {before : List Arrival} (h : IsOpen s before)
    (arrival : Arrival) (after : List Arrival) :
    ∃ more, carried s (before ++ arrival :: after) = before ++ arrival :: more := by
  cases hkept : isKeptAlive s with
  | true => exact ⟨after, if_pos hkept⟩
  | false =>
      obtain rfl : before = [] := h.carriesMore.resolve_right (by simp [hkept])
      exact ⟨[], by simp [carried, hkept]⟩

theorem IsOpen.length_serve {s : Settings} {before : List Arrival} (h : IsOpen s before) :
    (serve s before).1.length = before.length := by
  have hanswered := h.answered
  rw [serve_eq h.carried_eq] at hanswered ⊢
  have hlength := length_serveFrom hanswered
  simpa [latest] using hlength

/-- Serving a connection up to a slow request: it is answered at the end of its limit if the
connection lasts so long, and nothing is answered from there on otherwise. -/
theorem serve_slow {s : Settings} {before : List Arrival} {arrival : Arrival}
    (hopen : IsOpen s before) (hslow : Slow s arrival) (after : List Arrival) :
    if reaches s before arrival + s.assembler.timeoutMs.toNat < s.connectionSpan then
      ∃ more, (serve s (before ++ arrival :: after)).1 =
        (serve s before).1 ++
          ⟨reaches s before arrival + s.assembler.timeoutMs.toNat, true⟩ :: more
    else serve s (before ++ arrival :: after) = ((serve s before).1, .overdue) := by
  have hserved := serve_eq hopen.carried_eq
  obtain ⟨followers, hfollowers⟩ := hopen.exists_carried_eq arrival after
  have hclosed : (serveFrom s.connectionSpan s.assembler.timeoutMs.toNat (latest []) [] before).2
      = .closed := by
    have hanswered := hopen.answered
    rwa [hserved] at hanswered
  have happend := serveFrom_append hclosed (arrival :: followers)
  have hreaches : reaches s before arrival =
      max (latest (serveFrom s.connectionSpan s.assembler.timeoutMs.toNat (latest []) [] before).1)
        arrival.complete := by
    simp [reaches, hserved, latest]
  simp only [serveFrom, effort_of_slow hslow, ← hreaches] at happend
  split
  · -- answers are only ever added behind the ones that have been given
    rename_i hin
    rw [if_pos hin] at happend
    obtain ⟨more, hmore⟩ := suffix_serveFrom s.connectionSpan s.assembler.timeoutMs.toNat
      (reaches s before arrival + s.assembler.timeoutMs.toNat)
      (⟨reaches s before arrival + s.assembler.timeoutMs.toNat, true⟩ ::
        (serveFrom s.connectionSpan s.assembler.timeoutMs.toNat (latest []) [] before).1) followers
    refine ⟨more.reverse, ?_⟩
    rw [serve_eq hfollowers, happend, ← hmore, hserved]
    simp
  · rename_i hout
    rw [if_neg hout] at happend
    rw [serve_eq hfollowers, happend, hserved]

/-- **A slow request is answered exactly when it reaches the assembler early enough.** -/
theorem isStopped_iff {s : Settings} {before : List Arrival} {arrival : Arrival}
    (hopen : IsOpen s before) (hslow : Slow s arrival) (after : List Arrival) :
    IsStopped s before arrival after ↔
      reaches s before arrival + s.assembler.timeoutMs.toNat < s.connectionSpan := by
  have hserve := serve_slow hopen hslow after
  have hlength := hopen.length_serve
  split at hserve
  · rename_i hin
    obtain ⟨more, hmore⟩ := hserve
    refine ⟨fun _ => hin, fun _ => ⟨_, hin, ?_⟩⟩
    rw [hmore, ← hlength, List.getElem?_append_right (Nat.le_refl _)]
    simp
  · rename_i hout
    refine ⟨?_, fun hin => absurd hin hout⟩
    rintro ⟨given, -, hgiven⟩
    rw [hserve, ← hlength] at hgiven
    simp at hgiven

/-- **What the check of the settings is good for**: on every accepted configuration, a slow request
on an open connection is answered exactly when it reaches the assembler early enough.  One that is
first and complete at once is; and wherever the assembler has any time at all, one that is complete
late, while the connection is still open, is not. -/
theorem slow_requests_answered {view : FileView} {environment : List (String × String)}
    {name : String} {s : Settings} (hload : Settings.load view environment name = .ok s) :
    (∀ before arrival after, IsOpen s before → Slow s arrival →
      (IsStopped s before arrival after ↔
        reaches s before arrival + s.assembler.timeoutMs.toNat < s.connectionSpan)) ∧
    (∀ needs after, Slow s ⟨0, needs⟩ → IsStopped s [] ⟨0, needs⟩ after) ∧
    (0 < s.assembler.timeoutMs.toNat →
      ∃ complete < s.connectionSpan, ∀ after, ¬IsStopped s [] ⟨complete, none⟩ after) := by
  have hlasts := Settings.timeout_lt_of_load hload
  have hfirst : ∀ complete needs, reaches s [] ⟨complete, needs⟩ = complete := by
    simp [reaches]
  refine ⟨fun before arrival after hopen hslow => isStopped_iff hopen hslow after, ?_, ?_⟩
  · intro needs after hslow
    rw [isStopped_iff (isOpen_nil s) hslow, hfirst]
    omega
  · -- complete so late that the assembler's time ends together with the connection's
    intro hpositive
    refine ⟨s.connectionSpan - s.assembler.timeoutMs.toNat, by omega, fun after => ?_⟩
    have hslow : Slow s ⟨s.connectionSpan - s.assembler.timeoutMs.toNat, none⟩ := by simp [Slow]
    rw [isStopped_iff (isOpen_nil s) hslow, hfirst]
    omega

/-! ### The default settings -/

/-- A machine without a file of settings. -/
def bareView : FileView := ⟨"/", fun _ => false, fun _ => none⟩

theorem exists_load_bareView :
    ∃ s, Settings.load bareView [] "config" = .ok s ∧ s.assembler.timeoutMs.toNat = 10000 ∧
      s.connectionSpan = 30000 := by
  have hload : (Settings.load bareView [] "config").toOption.map
      (fun s => (s.assembler.timeoutMs.toNat, s.connectionSpan)) = some (10000, 30000) := by
    decide +kernel
  cases hs : Settings.load bareView [] "config" with
  | error e => simp [hs, Except.toOption] at hload
  | ok s =>
      simp only [hs, Except.toOption, Option.map_some, Option.some.injEq, Prod.mk.injEq] at hload
      exact ⟨s, rfl, hload⟩

/-- With the default settings, a request that is complete at once is answered. -/
theorem slow_requests_answered_default :
    ∃ s, Settings.load bareView [] "config" = .ok s ∧ Slow s ⟨0, none⟩ ∧
      IsStopped s [] ⟨0, none⟩ [] := by
  obtain ⟨s, hload, -, -⟩ := exists_load_bareView
  have hslow : Slow s ⟨0, none⟩ := by simp [Slow]
  exact ⟨s, hload, hslow, (slow_requests_answered hload).2.1 none [] hslow⟩

/-- Not every slow request on an open connection is answered: with the default settings, one that
is complete after 25 of the 30 seconds is dropped. -/
theorem slow_request_dropped :
    ¬∀ (view : FileView) (environment : List (String × String)) (name : String) (s : Settings),
      Settings.load view environment name = .ok s →
      ∀ before arrival after, IsOpen s before → arrival.complete < s.connectionSpan →
        Slow s arrival → IsStopped s before arrival after := by
  intro h
  obtain ⟨s, hload, hlimit, hlasts⟩ := exists_load_bareView
  have hslow : Slow s ⟨25000, none⟩ := by simp [Slow]
  have hstopped :=
    h _ _ _ s hload [] ⟨25000, none⟩ [] (isOpen_nil s) (by simp [hlasts]) hslow
  have hdropped : serve s [⟨25000, none⟩] = ([], .overdue) := by
    simp [serve, carried, serveFrom, effort, hlimit, hlasts]
  obtain ⟨given, -, hgiven⟩ := hstopped
  rw [List.nil_append, hdropped] at hgiven
  simp at hgiven

end Connection

end AssemblyGate
