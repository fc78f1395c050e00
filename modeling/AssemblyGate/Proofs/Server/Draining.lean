/-
**A server drains in time, and leaves for a reason.**

A server that drains looks at the counter of its connections and at the clock, and sleeps between
two looks.  It goes on looking as long as there are connections and the deadline has not come, so
the look with which it ends is the first at which one of the two is no longer so.  What bounds the
number of looks is the clock alone: it goes on by a pause for each sleep, whatever becomes of the
connections.

The report is made from a further look at the counter, which may have changed by then.

Main definitions:

* `AssemblyGate.Drain.EndsAt` — the look with which a wait ends;
* `AssemblyGate.Drain.Paces` — a clock that goes on while a server sleeps;
* `AssemblyGate.Drain.deadlineOn?` — the deadline on a clock of a given fineness.

Main results:

* `AssemblyGate.Drain.waitFrom_of_endsAt`, `AssemblyGate.Drain.exists_endsAt` — a wait ends at the
  first look at which it may, and there is one as soon as the deadline has come;
* `AssemblyGate.Drain.wait_course` — **what a wait comes to**, for every counter and every clock.
-/
import AssemblyGate.Server.Drain

set_option autoImplicit false

namespace AssemblyGate.Drain

variable {counter clock : Nat → Nat} {deadline : Nat}

/-! ### The last look -/

/-- A look with which a wait ends that began with the given one: no connection is left or the
deadline has come, and neither was so before. -/
structure EndsAt (counter clock : Nat → Nat) (deadline first n : Nat) : Prop where
  first_le : first ≤ n
  leaves : counter n = 0 ∨ deadline ≤ clock n
  stays : ∀ k, first ≤ k → k < n → 0 < counter k ∧ clock k < deadline

/-- A wait ends where it may, if there is room for the looks up to there. -/
theorem waitFrom_of_endsAt {room first n : Nat} (h : EndsAt counter clock deadline first n)
    (hroom : n < first + room) :
    waitFrom counter clock deadline room first = .ended ⟨n, counter (n + 1)⟩ := by
  induction room generalizing first with
  | zero =>
      have hfirst := h.first_le
      omega
  | succ room ih =>
      unfold waitFrom
      rcases Nat.eq_or_lt_of_le h.first_le with rfl | hlater
      · have hleaves := h.leaves
        rw [if_neg (by omega)]
      · rw [if_pos (h.stays first (Nat.le_refl first) hlater)]
        exact ih ⟨hlater, h.leaves, fun k hk => h.stays k (Nat.le_of_succ_le hk)⟩ (by omega)

/-- Once the deadline has come there is a look to end with. -/
theorem exists_endsAt {first last : Nat} (hle : first ≤ last) (hdue : deadline ≤ clock last) :
    ∃ n ≤ last, EndsAt counter clock deadline first n := by
  obtain ⟨room, rfl⟩ := Nat.exists_eq_add_of_le hle
  induction room generalizing first with
  | zero =>
      refine ⟨first, Nat.le_refl first, Nat.le_refl first, .inr hdue, fun k hk hlt => ?_⟩
      omega
  | succ room ih =>
      by_cases hstays : 0 < counter first ∧ clock first < deadline
      · have hshift : first + 1 + room = first + (room + 1) := by omega
        obtain ⟨n, hn, hends⟩ := ih (Nat.le_add_right (first + 1) room) (hshift ▸ hdue)
        refine ⟨n, hshift ▸ hn, Nat.le_of_succ_le hends.first_le, hends.leaves, fun k hk hlt => ?_⟩
        rcases Nat.eq_or_lt_of_le hk with rfl | hlater
        · exact hstays
        · exact hends.stays k hlater hlt
      · refine ⟨first, by omega, Nat.le_refl first, by omega, fun k hk hlt => ?_⟩
        omega

/-! ### Clocks -/

/-- A clock of which some ticks make a millisecond, and which shows a pause more, at least, from one
look to the next. -/
def Paces (ticks : Nat) (clock : Nat → Nat) : Prop := ∀ n, clock n + pause * ticks ≤ clock (n + 1)

theorem Paces.le {ticks : Nat} (h : Paces ticks clock) (n : Nat) :
    clock 0 + n * (pause * ticks) ≤ clock n := by
  induction n with
  | zero => simp
  | succ n ih =>
      have hnext := h n
      rw [Nat.succ_mul]
      omega

/-- The time to which a server waits, on a clock of which some ticks make a millisecond, if the
clock can count so far. -/
def deadlineOn? (ticks now graceSeconds : Nat) : Option Nat :=
  if now / (1000 * ticks) + graceSeconds ≤ maxSeconds then
    some (now + graceSeconds * (1000 * ticks))
  else none

theorem deadlineOn?_one (now graceSeconds : Nat) :
    deadlineOn? 1 now graceSeconds = deadline? now graceSeconds := rfl

theorem deadlineOn?_eq_some {ticks now graceSeconds : Nat}
    (h : deadlineOn? ticks now graceSeconds = some deadline) :
    deadline = now + graceSeconds * (1000 * ticks) := by
  obtain ⟨-, hdeadline⟩ := Option.ite_none_right_eq_some.1 h
  exact (Option.some.inj hdeadline).symm

theorem looks_eq (graceSeconds : Nat) : looks graceSeconds = 20 * graceSeconds + 1 := by
  unfold looks pause
  omega

/-- After twenty pauses for each second the deadline has come. -/
theorem Paces.due {ticks start graceSeconds : Nat} (h : Paces ticks clock)
    (hstart : start ≤ clock 0) (hdeadline : deadlineOn? ticks start graceSeconds = some deadline) :
    deadline ≤ clock (20 * graceSeconds) := by
  have hpauses : 20 * graceSeconds * (pause * ticks) = graceSeconds * (1000 * ticks) := by
    rw [pause, Nat.mul_comm 20, Nat.mul_assoc, ← Nat.mul_assoc 20]
  have hclock := h.le (20 * graceSeconds)
  rw [deadlineOn?_eq_some hdeadline]
  omega

/-! ### The report -/

/-- What is said of a wait after which no connection is left. -/
def allClosed : Event := .note .info "[Shutdown] All connections closed, exiting"

/-- What is said of a wait after which connections are left. -/
def stillOpen (remaining : Nat) : Event :=
  .note .warn
    ("[Shutdown] Grace period elapsed with " ++ toString remaining ++ " connections still open")

theorem drained_zero : Notice.drained 0 = allClosed := rfl

theorem drained_of_ne {remaining : Nat} (h : remaining ≠ 0) :
    Notice.drained remaining = stillOpen remaining := by
  rw [Notice.drained, if_neg h]
  rfl

/-- It is said that all connections are closed exactly when they are. -/
theorem drained_eq_allClosed_iff {remaining : Nat} :
    Notice.drained remaining = allClosed ↔ remaining = 0 := by
  constructor
  · intro h
    refine Decidable.byContradiction fun hne => ?_
    rw [drained_of_ne hne] at h
    cases h
  · rintro rfl
    rfl

/-! ### The whole wait -/

/-- **What a wait comes to.**  Let a server begin to drain at a time from which the clock can count
to the deadline, and let the clock show a pause more from one look to the next.  Then the wait ends,
however many looks it is allowed to make, after twenty sleeps at most for each second.  It ends with
a look that finds no connection or a clock at the deadline, and at all looks before there were
connections and time was left; with no connection at the first look there is no sleep at all.  It is
reported by what the counter says at one more look: that all connections are closed if it says none,
and otherwise how many are still open, each as far as the journal takes messages of its level. -/
theorem wait_course (counter : Nat → Nat) {clock : Nat → Nat} {ticks start graceSeconds : Nat}
    {deadline : Nat} (hclock : Paces ticks clock) (hstart : start ≤ clock 0)
    (hdeadline : deadlineOn? ticks start graceSeconds = some deadline) :
    ∃ result : Result,
      (∀ room, looks graceSeconds ≤ room →
        waitFrom counter clock deadline room 0 = .ended result) ∧
      (ticks = 1 → start = clock 0 → wait counter clock graceSeconds = .ended result) ∧
      result.sleeps ≤ 20 * graceSeconds ∧
      (counter result.sleeps = 0 ∨ deadline ≤ clock result.sleeps) ∧
      (∀ n < result.sleeps, 0 < counter n ∧ clock n < deadline) ∧
      (counter 0 = 0 → result.sleeps = 0) ∧
      result.remaining = counter (result.sleeps + 1) ∧
      ∀ active, ∃ report, events active (.ended result) = [Notice.draining active, report] ∧
        (report = allClosed ↔ result.remaining = 0) ∧
        (result.remaining ≠ 0 → report = stillOpen result.remaining) ∧
        ∀ journal : Journal, (journal.route report).isSome =
          journal.enabled (if result.remaining = 0 then .info else .warn) := by
  obtain ⟨n, hn, hends⟩ : ∃ n ≤ 20 * graceSeconds, EndsAt counter clock deadline 0 n :=
    exists_endsAt (Nat.zero_le _) (hclock.due hstart hdeadline)
  have hwait : ∀ room, looks graceSeconds ≤ room →
      waitFrom counter clock deadline room 0 = .ended ⟨n, counter (n + 1)⟩ := by
    intro room hroom
    rw [looks_eq] at hroom
    exact waitFrom_of_endsAt hends (by omega)
  refine ⟨⟨n, counter (n + 1)⟩, hwait, ?_, hn, hends.leaves,
    fun k hk => hends.stays k (Nat.zero_le k) hk, ?_, rfl, fun active => ?_⟩
  · rintro rfl rfl
    rw [deadlineOn?_one] at hdeadline
    rw [wait, hdeadline]
    exact hwait _ (Nat.le_refl _)
  · intro hidle
    refine Nat.eq_zero_of_not_pos fun hlater => ?_
    have hpositive := (hends.stays 0 (Nat.le_refl 0) hlater).1
    omega
  · refine ⟨Notice.drained (counter (n + 1)), rfl, drained_eq_allClosed_iff, drained_of_ne,
      fun journal => ?_⟩
    rw [Journal.route_isSome]
    by_cases hnone : counter (n + 1) = 0
    · simp only [hnone, drained_zero]
      rfl
    · simp only [drained_of_ne hnone, if_neg hnone]
      rfl

/-- A clock that shows nanoseconds and is always a little late. -/
def lateClock (n : Nat) : Nat := 7 + n * 50000123

/-- Three connections that end one after the other are waited for. -/
theorem wait_course_three :
    Paces 1000000 lateClock ∧ 5 ≤ lateClock 0 ∧ deadlineOn? 1000000 5 1 = some 1000000005 ∧
      ∃ result : Result, waitFrom (3 - ·) lateClock 1000000005 21 0 = .ended result ∧
        result.sleeps ≤ 20 ∧ result.sleeps ≠ 0 ∧ events 3 (.ended result) =
          [Notice.draining 3, allClosed] := by
  have hclock : Paces 1000000 lateClock := by
    intro n
    simp only [lateClock, pause]
    omega
  obtain ⟨result, hwait, -, hsleeps, hleaves, -, -, hremaining, hreport⟩ :=
    wait_course (3 - ·) hclock (show 5 ≤ lateClock 0 by decide)
      (show deadlineOn? 1000000 5 1 = some 1000000005 by decide)
  have hresult : waitFrom (3 - ·) lateClock 1000000005 21 0 = .ended ⟨3, 0⟩ := by decide
  have hwait := hwait 21 (by decide)
  obtain rfl : (⟨3, 0⟩ : Result) = result := Course.ended.inj (hresult.symm.trans hwait)
  obtain ⟨report, hevents, hclosed, -⟩ := hreport 3
  exact ⟨hclock, by decide, by decide, ⟨3, 0⟩, hwait, hsleeps, by decide,
    hclosed.2 rfl ▸ hevents⟩

end AssemblyGate.Drain
