/-
**A stop request is never lost.**

A stop request sets a flag and then tells everyone who is waiting; whoever begins to wait later is
not told.  The accept loop takes its ticket first and looks at the flag after that.  So a request
that is complete was either early, and then the flag is seen, or late, and then the ticket is due:
there is no moment in between.

Main definitions:

* `AssemblyGate.Server.Heeds` — what holds of the loop and the requests in every state;
* `AssemblyGate.Server.Shut` — a server that nobody can come to any more.

Main results:

* `AssemblyGate.Server.Heeds.step` — every step keeps it;
* `AssemblyGate.Server.Shut.step` — a server that is shut stays so;
* `AssemblyGate.Server.no_stop_lost` — **a loop that has been asked to stop is not left waiting**.
-/
import AssemblyGate.Proofs.Server.Counting

set_option autoImplicit false

namespace AssemblyGate

/-! ### The loop's own steps -/

namespace AcceptLoop

variable {l : AcceptLoop} {ticket : Ticket}

theorem proceed_of_left (h : l.stage = .left) : l.proceed.stage = .left := by
  rw [proceed, h]
  exact h

/-- A ticket is taken at the beginning. -/
theorem stage_proceed_eq_registered (h : l.proceed.stage = .registered ticket) :
    ticket = l.state.wait := by
  unfold proceed at h
  split at h
  · exact (Stage.registered.inj h).symm
  · dsimp only at h
    split at h <;> simp at h
  · split at h <;> simp_all
  · simp_all

/-- The loop waits when it has found the flag down, and as long as its ticket is not due. -/
theorem stage_proceed_eq_accepting (h : l.proceed.stage = .accepting ticket) :
    (l.stage = .registered ticket ∧ l.state.stopping = false) ∨
      (l.stage = .accepting ticket ∧ ticket.isDue l.state = false) := by
  unfold proceed at h
  split at h
  · simp at h
  · rename_i earlier hbefore
    dsimp only at h
    split at h
    · simp at h
    · rename_i hflag
      obtain rfl := Stage.accepting.inj h
      exact .inl ⟨hbefore, by simpa using hflag⟩
  · rename_i earlier hbefore
    split at h
    · simp at h
    · rename_i hdue
      obtain rfl := Stage.accepting.inj (hbefore.symm.trans h)
      exact .inr ⟨hbefore, by simpa using hdue⟩
  · simp_all

end AcceptLoop

namespace Server

variable {ι : Type} {limit : Option UInt64}

/-! ### What every step keeps -/

/-- The loop and the stop requests have heard of each other. -/
structure Heeds (s : Server ι) : Prop where
  /-- A request that has begun has set the flag. -/
  flagged : ∀ call, s.calls call ≠ .idle → s.loop.state.stopping = true
  /-- The ticket is not from the future. -/
  seen_le : ∀ ticket, s.loop.stage = .registered ticket ∨ s.loop.stage = .accepting ticket →
    ticket.seen ≤ s.loop.state.announcements
  /-- Once the flag has been looked at, a request is complete only when the ticket is due. -/
  due : ∀ ticket call, s.loop.stage = .accepting ticket → s.calls call = .completed →
    ticket.isDue s.loop.state = true
  /-- Nobody is in the door of a loop that takes no connections. -/
  accepting : s.isDeciding = true → ∃ ticket, s.loop.stage = .accepting ticket

theorem heeds_start : Heeds (start limit : Server ι) where
  flagged := by simp [start]
  seen_le := by simp [start, AcceptLoop.start]
  due := by simp [start, AcceptLoop.start]
  accepting := by simp [start, AcceptLoop.start, isDeciding]

variable {s t : Server ι} {act : Act ι}

/-- What happens in the door leaves the loop and the requests as they are. -/
theorem Heeds.withDoor (h : Heeds s) {door : Door}
    (hstopping : door.state.stopping = s.loop.state.stopping)
    (hannouncements : door.state.announcements = s.loop.state.announcements)
    (haccepting : door.inDoor.isSome = true → ∃ ticket, s.loop.stage = .accepting ticket) :
    Heeds (s.withDoor door) where
  flagged call hcall := hstopping.trans (h.flagged call hcall)
  seen_le ticket hstage := by
    have hseen := h.seen_le ticket hstage
    rwa [← hannouncements] at hseen
  due ticket call hstage hcall := by
    have hdue := h.due ticket call hstage hcall
    rwa [Ticket.isDue, ← hannouncements] at hdue
  accepting := haccepting

/-- The next step of the loop keeps what holds: a ticket that is taken is as old as the
announcements are, and a loop that begins to wait has found that no request has begun. -/
theorem Heeds.proceed (h : Heeds s) (hfree : s.isDeciding = false) :
    Heeds (s.withLoop s.loop.proceed) := by
  have hdoor : (s.withLoop s.loop.proceed).isDeciding = false := by
    simpa [isDeciding, withLoop] using hfree
  have hstate : (s.withLoop s.loop.proceed).loop.state = s.loop.state := by
    simp [withLoop, AcceptLoop.state]
  refine ⟨?_, ?_, ?_, fun hdeciding => absurd hdeciding (by simp [hdoor])⟩
  · intro call hcall
    rw [hstate]
    exact h.flagged call hcall
  · rintro ticket (hstage | hstage)
    · rw [hstate, AcceptLoop.stage_proceed_eq_registered hstage]
      exact Nat.le_refl _
    · rw [hstate]
      rcases AcceptLoop.stage_proceed_eq_accepting hstage with ⟨hbefore, -⟩ | ⟨hbefore, -⟩
      · exact h.seen_le ticket (.inl hbefore)
      · exact h.seen_le ticket (.inr hbefore)
  · intro ticket call hstage hcall
    rw [hstate]
    rcases AcceptLoop.stage_proceed_eq_accepting hstage with ⟨-, hflag⟩ | ⟨hbefore, -⟩
    · -- a request that is complete has set the flag, and the loop would have left
      have hcalled : s.calls call = .completed := hcall
      have hstopping := h.flagged call (by simp [hcalled])
      simp [hflag] at hstopping
    · exact h.due ticket call hbefore hcall

/-! ### The loop after a stop request -/

/-- Where the loop can be once a stop request is complete. -/
theorem Heeds.cases_of_completed (h : Heeds s) {call : ι} (hcall : s.calls call = .completed) :
    ((s.loop.stage = .new ∨ ∃ ticket, s.loop.stage = .registered ticket) ∧
        s.loop.state.stopping = true) ∨
      (∃ ticket, s.loop.stage = .accepting ticket ∧ ticket.isDue s.loop.state = true) ∨
      s.loop.stage = .left := by
  have hflag : s.loop.state.stopping = true := h.flagged call (by simp [hcall])
  cases hstage : s.loop.stage with
  | new => exact .inl ⟨.inl rfl, hflag⟩
  | registered ticket => exact .inl ⟨.inr ⟨ticket, rfl⟩, hflag⟩
  | accepting ticket => exact .inr (.inl ⟨ticket, rfl, h.due ticket call hstage hcall⟩)
  | left => exact .inr (.inr rfl)

/-- Two steps are enough to leave from any of these places. -/
theorem Heeds.proceed_proceed (h : Heeds s) {call : ι} (hcall : s.calls call = .completed) :
    s.loop.proceed.proceed.stage = .left := by
  rcases h.cases_of_completed hcall with
    ⟨hnew | ⟨ticket, hregistered⟩, hflag⟩ | ⟨ticket, hwaits, hdue⟩ | hleft
  · have hfirst : s.loop.proceed.stage = .registered s.loop.state.wait := by
      simp [AcceptLoop.proceed, hnew]
    have hstate : s.loop.proceed.state = s.loop.state := by simp [AcceptLoop.state]
    rw [AcceptLoop.proceed, hfirst, hstate, hflag]
    rfl
  · exact AcceptLoop.proceed_of_left (by simp [AcceptLoop.proceed, hregistered, hflag])
  · exact AcceptLoop.proceed_of_left (by simp [AcceptLoop.proceed, hwaits, hdue])
  · exact AcceptLoop.proceed_of_left (AcceptLoop.proceed_of_left hleft)

/-! ### Every step -/

variable [DecidableEq ι]

/-- The first step of a request sets the flag. -/
theorem Heeds.mark (h : Heeds s) {call : ι} :
    Heeds { s.withLoop (s.loop.withState ServiceState.markStopping) with
      calls := Function.update s.calls call .marked } := by
  refine ⟨fun _ _ => rfl, h.seen_le, fun ticket other hstage hother => ?_, h.accepting⟩
  have hne : other ≠ call := by
    rintro rfl
    simp at hother
  exact h.due ticket other hstage (by simpa [hne] using hother)

/-- The second step makes every ticket due that has been taken. -/
theorem Heeds.announce (h : Heeds s) {call : ι} (hmarked : s.calls call = .marked) :
    Heeds { s.withLoop (s.loop.withState ServiceState.announce) with
      calls := Function.update s.calls call .completed } := by
  refine ⟨fun other hother => ?_, fun ticket hstage => ?_, fun ticket other hstage _ => ?_,
    h.accepting⟩
  · change s.loop.state.stopping = true
    by_cases hcall : other = call
    · exact h.flagged call (by simp [hmarked])
    · exact h.flagged other (by simpa [hcall] using hother)
  · exact (h.seen_le ticket hstage).trans (Nat.le_succ _)
  · have hseen := h.seen_le ticket (.inr hstage)
    simpa [Ticket.isDue, withLoop, AcceptLoop.withState, AcceptLoop.state, ServiceState.announce,
      Nat.lt_succ_iff] using hseen

/-- **Every step keeps it.** -/
theorem Heeds.step (h : Heeds s) (hstep : Step s act t) : Heeds t := by
  cases hstep with
  | proceed hfree => exact h.proceed hfree
  | failure fault hstage hfree =>
      rw [AcceptLoop.step_failure]
      exact h
  | arrive peer hstage hfree =>
      have hnone := inDoor_eq_none hfree
      rw [Door.arrive_eq hnone]
      exact h.withDoor rfl rfl fun _ => ⟨_, hstage⟩
  | letIn hsettle hplace =>
      obtain ⟨before, -, -, rfl⟩ := Door.settle?_eq_served hsettle
      have hdoor : Heeds (s.withDoor { s.loop.door with
          inDoor := none, inside := s.loop.door.inside + 1 }) := h.withDoor rfl rfl (by simp)
      exact ⟨hdoor.flagged, hdoor.seen_le, hdoor.due, hdoor.accepting⟩
  | sendAway hsettle =>
      obtain ⟨-, -, rfl⟩ := Door.settle?_eq_rejected hsettle
      exact h.withDoor rfl rfl (by simp)
  | finish => exact ⟨h.flagged, h.seen_le, h.due, h.accepting⟩
  | depart hplace hover hdepart =>
      obtain ⟨-, hstate, hinDoor⟩ := Door.depart?_eq_some hdepart
      have hdoor := h.withDoor (by rw [hstate]; rfl) (by rw [hstate]; rfl)
        (fun hdeciding => h.accepting (by rwa [hinDoor] at hdeciding))
      exact ⟨hdoor.flagged, hdoor.seen_le, hdoor.due, hdoor.accepting⟩
  | mark => exact h.mark
  | announce hmarked => exact h.announce hmarked

theorem heeds_of_reachable (h : Reachable limit s) : Heeds s :=
  Runs.induction (fun _ _ _ hs hstep => hs.step hstep) h heeds_start

/-! ### A server that has been left -/

/-- The loop has left, and nobody is in the door. -/
structure Shut (s : Server ι) : Prop where
  left : s.loop.stage = .left
  isDeciding_eq : s.isDeciding = false

/-- Whether an act takes a connection, fails to, or decides about one. -/
def Act.isAtDoor : Act ι → Bool
  | .failure _ | .arrive _ | .settle _ => true
  | .proceed | .finish .. | .depart _ | .mark _ | .announce _ => false

/-- Nothing happens at the door of a server that is shut. -/
theorem Shut.isAtDoor_eq (h : Shut s) (hstep : Step s act t) : act.isAtDoor = false := by
  have hnone := inDoor_eq_none h.isDeciding_eq
  cases hstep with
  | failure fault hstage hfree => simp [h.left] at hstage
  | arrive peer hstage hfree => simp [h.left] at hstage
  | letIn hsettle => simp [Door.settle?, hnone] at hsettle
  | sendAway hsettle => simp [Door.settle?, hnone] at hsettle
  | proceed | finish | depart | mark | announce => rfl

/-- **A server that is shut stays so**, and its connections only become fewer. -/
theorem Shut.step (h : Shut s) (hstep : Step s act t) :
    Shut t ∧ t.connections ⊆ s.connections := by
  have hdoor := h.isAtDoor_eq hstep
  cases hstep with
  | failure | arrive | letIn | sendAway => simp [Act.isAtDoor] at hdoor
  | proceed =>
      refine ⟨⟨?_, by simpa [isDeciding, withLoop] using h.isDeciding_eq⟩, Finset.Subset.refl _⟩
      exact AcceptLoop.proceed_of_left h.left
  | finish => exact ⟨⟨h.left, h.isDeciding_eq⟩, Finset.Subset.refl _⟩
  | depart hplace hover hdepart =>
      obtain ⟨-, -, hinDoor⟩ := Door.depart?_eq_some hdepart
      refine ⟨⟨h.left, ?_⟩, Finset.erase_subset _ _⟩
      have hfree := h.isDeciding_eq
      rwa [isDeciding, ← hinDoor] at hfree
  | mark | announce => exact ⟨⟨h.left, h.isDeciding_eq⟩, Finset.Subset.refl _⟩

theorem Shut.runs (h : Shut s) (hrun : Runs s t) : Shut t ∧ t.connections ⊆ s.connections := by
  refine Runs.induction (P := fun t => Shut t ∧ t.connections ⊆ s.connections) ?_ hrun
    ⟨h, Finset.Subset.refl _⟩
  rintro u act v ⟨hu, hsubset⟩ hstep
  obtain ⟨hv, hfewer⟩ := hu.step hstep
  exact ⟨hv, hfewer.trans hsubset⟩

/-- **A loop that has been asked to stop is not left waiting.**  Once a stop request is complete,
the loop has not looked at the flag yet and the flag is set, or its ticket is due, or it has left;
so its own next two steps take it out, and no connection has to come for that.  When it has left,
nothing happens at the door any more, and the connections and their count only become fewer. -/
theorem no_stop_lost {now : Server ι} (h : Reachable limit now) :
    (∀ call, now.calls call = .completed →
      (((now.loop.stage = .new ∨ ∃ ticket, now.loop.stage = .registered ticket) ∧
          now.loop.state.stopping = true) ∨
        (∃ ticket, now.loop.stage = .accepting ticket ∧ ticket.isDue now.loop.state = true) ∨
        now.loop.stage = .left) ∧
      now.loop.proceed.proceed.stage = .left) ∧
    (now.loop.stage = .left → ∀ later, Runs now later →
      later.loop.isListening = false ∧
      (∀ peer, later.loop.step (.arrival peer) = (later.loop, [])) ∧
      (∀ act next, Step later act next → act.isAtDoor = false) ∧
      later.connections ⊆ now.connections ∧ later.active ≤ now.active) := by
  have hheeds := heeds_of_reachable h
  refine ⟨fun call hcall => ⟨hheeds.cases_of_completed hcall, hheeds.proceed_proceed hcall⟩,
    fun hleft later hlater => ?_⟩
  have hshut : Shut now := by
    refine ⟨hleft, Bool.eq_false_iff.2 fun hdeciding => ?_⟩
    obtain ⟨ticket, hticket⟩ := hheeds.accepting hdeciding
    simp [hleft] at hticket
  obtain ⟨hlast, hsubset⟩ := hshut.runs hlater
  refine ⟨by simp [AcceptLoop.isListening, hlast.left],
    fun peer => by simp [AcceptLoop.step, hlast.left],
    fun act next hstep => hlast.isAtDoor_eq hstep, hsubset, ?_⟩
  rw [UInt64.le_iff_toNat_le, (accounted_of_reachable h).active_eq,
    (accounted_of_reachable (h.trans hlater)).active_eq, counted_of_free hshut.isDeciding_eq,
    counted_of_free hlast.isDeciding_eq]
  exact Finset.card_le_card hsubset

/-! ### Two requests -/

/-- A server that is asked to stop before its loop begins. -/
def askedFirst : Server Unit where
  loop := ⟨.left, none, ⟨⟨0, true, 1⟩, none, 0⟩⟩
  connections := ∅
  endings := fun _ => none
  calls := Function.update (Function.update (fun _ => .idle) () .marked) () .completed

theorem reachable_askedFirst : Reachable none askedFirst := by
  have hmarked : Reachable none _ :=
    (Relation.ReflTransGen.refl (a := (start none : Server Unit))).tail ⟨.mark (), .mark rfl⟩
  have hannounced : Reachable none _ := hmarked.step (.announce rfl : Step _ (.announce ()) _)
  exact (hannounced.step (.proceed rfl)).step (.proceed rfl)

/-- A server that is asked to stop while a connection stands in its door. -/
def askedLate : Server Unit where
  loop := ⟨.accepting ⟨0⟩, none, ⟨⟨1, true, 1⟩, some 0, 0⟩⟩
  connections := ∅
  endings := fun _ => none
  calls := Function.update (Function.update (fun _ => .idle) () .marked) () .completed

theorem reachable_askedLate : Reachable none askedLate := by
  have haccepting : Reachable none _ :=
    ((Relation.ReflTransGen.refl (a := (start none : Server Unit))).tail
      ⟨_, .proceed rfl⟩).tail ⟨_, .proceed rfl⟩
  have hcame : Reachable none _ := haccepting.step (.arrive "visitor" rfl rfl)
  have hmarked : Reachable none _ := hcame.step (.mark rfl : Step _ (.mark ()) _)
  exact hmarked.step (.announce rfl : Step _ (.announce ()) _)

/-- Both requests are heard, and the first server is shut. -/
theorem no_stop_lost_asked :
    Reachable none askedLate ∧ askedLate.calls () = .completed ∧
      askedLate.loop.proceed.proceed.stage = .left ∧
      Reachable none askedFirst ∧ askedFirst.loop.stage = .left ∧
      askedFirst.loop.isListening = false ∧
      ∀ act next, Step askedFirst act next → act.isAtDoor = false := by
  obtain ⟨hheard, -⟩ := no_stop_lost reachable_askedLate
  obtain ⟨-, hshut⟩ := no_stop_lost reachable_askedFirst
  obtain ⟨hclosed, -, hquiet, -⟩ := hshut rfl askedFirst .refl
  exact ⟨reachable_askedLate, rfl, (hheard () rfl).2, reachable_askedFirst, rfl, hclosed, hquiet⟩

end Server

end AssemblyGate
