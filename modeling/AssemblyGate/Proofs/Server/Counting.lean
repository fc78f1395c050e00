/-
**The count of connections.**

A connection counts itself before it knows whether there is a place for it, and takes itself out
again if there is none; the others take themselves out when they are over.  However these steps are
mixed, the counter is the number of connections that were let in and not taken out yet, with one
more while a connection is in the door.

The limit is compared with the count that the connection in the door has found.  Others may leave
while it stands there, but nobody can enter, so this count is never too small.

Main definitions:

* `AssemblyGate.Server.Accounted` — what holds of the counter in every state;
* `AssemblyGate.Server.Undecided` — steps during which the connection in the door stays there.

Main results:

* `AssemblyGate.Server.Accounted.step` — every step keeps the count right;
* `AssemblyGate.Server.connections_accounted` — **the counter is right, the limit is kept, and the
  right connections are sent away**, in every state.
-/
import AssemblyGate.Proofs.Server.Schedule

set_option autoImplicit false

namespace AssemblyGate

/-! ### The door -/

theorem ServiceState.toNat_enter {s : ServiceState} (h : s.active.toNat < maxWord) :
    s.enter.active.toNat = s.active.toNat + 1 := by
  rw [ServiceState.enter, UInt64.toNat_add]
  exact Nat.mod_eq_of_lt (Nat.succ_lt_succ h)

theorem ServiceState.toNat_leave {s : ServiceState} (h : 0 < s.active.toNat) :
    s.leave.active.toNat + 1 = s.active.toNat := by
  have hle : (1 : UInt64) ≤ s.active := by
    rw [UInt64.le_iff_toNat_le]
    exact h
  rw [ServiceState.leave, UInt64.toNat_sub_of_le _ _ hle]
  exact Nat.sub_add_cancel h

theorem Door.arrive_eq {d : Door} (h : d.inDoor = none) :
    d.arrive = { d with state := d.state.enter, inDoor := some d.state.active } := by
  simp [Door.arrive, h]

theorem Door.settle?_eq_served {limit : Option UInt64} {d e : Door}
    (h : d.settle? limit = some (.served, e)) :
    ∃ before, d.inDoor = some before ∧ Admission.hasRoom limit before = true ∧
      e = { d with inDoor := none, inside := d.inside + 1 } := by
  unfold Door.settle? at h
  split at h
  · simp at h
  · rename_i before hbefore
    split at h
    · rename_i hroom
      obtain ⟨-, rfl⟩ := Prod.mk.inj (Option.some.inj h)
      exact ⟨before, hbefore, hroom, rfl⟩
    · simp at h

theorem Door.settle?_eq_rejected {limit : Option UInt64} {d e : Door} {before : UInt64}
    (h : d.settle? limit = some (.rejected before, e)) :
    d.inDoor = some before ∧ Admission.hasRoom limit before = false ∧
      e = { d with state := d.state.leave, inDoor := none } := by
  unfold Door.settle? at h
  split at h
  · simp at h
  · rename_i found hfound
    split at h
    · simp at h
    · rename_i hroom
      obtain ⟨hverdict, rfl⟩ := Prod.mk.inj (Option.some.inj h)
      obtain rfl := Verdict.rejected.inj hverdict
      exact ⟨hfound, by simpa using hroom, rfl⟩

theorem Door.depart?_eq_some {d e : Door} (h : d.depart? = some e) :
    d.inside = e.inside + 1 ∧ e.state = d.state.leave ∧ e.inDoor = d.inDoor := by
  unfold Door.depart? at h
  split at h
  · simp at h
  · rename_i n hn
    obtain rfl := Option.some.inj h
    exact ⟨hn, rfl, rfl⟩

theorem Admission.hasRoom_eq_false_iff {limit : Option UInt64} {before : UInt64} :
    hasRoom limit before = false ↔ ∃ most, limit = some most ∧ most.toNat ≤ before.toNat := by
  cases limit with
  | none => simp [hasRoom]
  | some most => simp [hasRoom, UInt64.le_iff_toNat_le]

namespace Server

variable {ι : Type} {limit : Option UInt64}

/-- The number of connections that are to be counted. -/
def counted (s : Server ι) : Nat := s.connections.card + s.isDeciding.toNat

theorem counted_of_free {s : Server ι} (hfree : s.isDeciding = false) :
    s.counted = s.connections.card := by
  simp [counted, hfree]

/-- What an act does to this number. -/
def Act.weight : Act ι → Int
  | .arrive _ => 1
  | .settle (.rejected _) | .depart _ => -1
  | .proceed | .failure _ | .settle .served | .finish .. | .mark _ | .announce _ => 0

/-- The books of a server are right. -/
structure Accounted (limit : Option UInt64) (s : Server ι) : Prop where
  limit_eq : s.loop.limit = limit
  inside_eq : s.loop.door.inside = s.connections.card
  active_eq : s.active.toNat = s.counted
  /-- Since the connection in the door has counted itself, nobody has entered. -/
  card_le_before : ∀ before, s.loop.door.inDoor = some before →
    s.connections.card ≤ before.toNat
  card_le_limit : ∀ most, limit = some most → s.connections.card ≤ most.toNat

theorem accounted_start : Accounted limit (start limit : Server ι) where
  limit_eq := rfl
  inside_eq := rfl
  active_eq := rfl
  card_le_before := by simp [start, AcceptLoop.start]
  card_le_limit := by simp [start]

variable [DecidableEq ι] {s t : Server ι} {act : Act ι}

/-! ### What a step does to the count -/

/-- The connection in the door is one of those inside, or gone, when it has been decided about. -/
theorem Step.counted_eq (h : Step s act t) : (t.counted : Int) = s.counted + act.weight := by
  cases h with
  | proceed | failure | finish | mark | announce =>
      simp [counted, isDeciding, withLoop, Act.weight, AcceptLoop.withState]
  | arrive peer hstage hfree =>
      have hnone := inDoor_eq_none hfree
      simp [counted, isDeciding, withDoor, withLoop, Act.weight, Door.arrive_eq hnone, hnone]
  | letIn hsettle hplace =>
      obtain ⟨before, hbefore, -, rfl⟩ := Door.settle?_eq_served hsettle
      simp [counted, isDeciding, withDoor, withLoop, Act.weight, hbefore,
        Finset.card_insert_of_notMem hplace]
  | sendAway hsettle =>
      obtain ⟨hbefore, -, rfl⟩ := Door.settle?_eq_rejected hsettle
      simp only [counted, isDeciding, withDoor, withLoop, Act.weight, hbefore, Option.isSome_none,
        Option.isSome_some, Bool.toNat_false, Bool.toNat_true]
      omega
  | depart hplace hover hdepart =>
      obtain ⟨-, -, hdoor⟩ := Door.depart?_eq_some hdepart
      have hcard := Finset.card_erase_add_one hplace
      simp only [counted, isDeciding, withDoor, withLoop, Act.weight, hdoor]
      omega

/-- The counter does not wrap: there is always room for one more, and whoever is taken out has been
counted. -/
theorem Step.active_eq (h : Step s act t) (hs : s.active.toNat = s.counted) :
    (t.active.toNat : Int) = s.active.toNat + act.weight := by
  cases h with
  | proceed | failure | finish | mark | announce =>
      simp [active, AcceptLoop.state, withLoop, Act.weight, AcceptLoop.withState,
        ServiceState.markStopping, ServiceState.announce]
  | arrive peer hstage hfree =>
      have hnone := inDoor_eq_none hfree
      have hroom : s.loop.door.state.active.toNat < maxWord := by
        rw [counted_of_free hfree] at hs
        exact hs ▸ card_lt_maxWord s.connections
      have henter := ServiceState.toNat_enter hroom
      simp only [active, AcceptLoop.state, withDoor, withLoop, Act.weight, Door.arrive_eq hnone]
      omega
  | letIn hsettle hplace =>
      obtain ⟨before, -, -, rfl⟩ := Door.settle?_eq_served hsettle
      simp [active, AcceptLoop.state, withDoor, withLoop, Act.weight]
  | sendAway hsettle =>
      obtain ⟨hbefore, -, rfl⟩ := Door.settle?_eq_rejected hsettle
      have hpositive : 0 < s.loop.door.state.active.toNat := by
        have hcounted : 0 < s.counted := by simp [counted, isDeciding, hbefore]
        exact hs ▸ hcounted
      have hleave := ServiceState.toNat_leave hpositive
      simp only [active, AcceptLoop.state, withDoor, withLoop, Act.weight]
      omega
  | depart hplace hover hdepart =>
      obtain ⟨-, hstate, -⟩ := Door.depart?_eq_some hdepart
      have hpositive : 0 < s.loop.door.state.active.toNat := by
        have hcard : 0 < s.connections.card := Finset.card_pos.2 ⟨_, hplace⟩
        have hcounted : 0 < s.counted := Nat.lt_of_lt_of_le hcard (Nat.le_add_right _ _)
        exact hs ▸ hcounted
      have hleave := ServiceState.toNat_leave hpositive
      simp only [active, AcceptLoop.state, withDoor, withLoop, Act.weight, hstate]
      omega

/-- **Every step keeps the books right.** -/
theorem Accounted.step (h : Accounted limit s) (hstep : Step s act t) : Accounted limit t := by
  have hcounter : t.active.toNat = t.counted := by
    have hactive := hstep.active_eq h.active_eq
    have hcounted := hstep.counted_eq
    have hs := h.active_eq
    omega
  cases hstep with
  | proceed | failure =>
      exact ⟨by simpa [withLoop] using h.limit_eq, by simpa [withLoop] using h.inside_eq, hcounter,
        by simpa [withLoop] using h.card_le_before, h.card_le_limit⟩
  | arrive peer hstage hfree =>
      have hnone := inDoor_eq_none hfree
      refine ⟨h.limit_eq, ?_, hcounter, ?_, h.card_le_limit⟩
      · simpa [withDoor, withLoop, Door.arrive_eq hnone] using h.inside_eq
      · intro before hbefore
        -- what it finds is the count itself, with nobody else in the door
        have hfound : s.active = before := by
          rw [withDoor, withLoop, Door.arrive_eq hnone] at hbefore
          exact Option.some.inj hbefore
        rw [← hfound, h.active_eq, counted_of_free hfree]
        exact Nat.le_refl _
  | @letIn door place hsettle hplace =>
      obtain ⟨before, hbefore, hroom, rfl⟩ := Door.settle?_eq_served hsettle
      have hcard := Finset.card_insert_of_notMem hplace
      refine ⟨h.limit_eq, ?_, hcounter, by simp [withDoor, withLoop], ?_⟩
      · simpa [withDoor, withLoop, hcard] using h.inside_eq
      · intro most hmost
        have hle := h.card_le_before before hbefore
        have hlt : before.toNat < most.toNat := by
          rw [h.limit_eq, hmost] at hroom
          simpa [Admission.hasRoom, UInt64.lt_iff_toNat_lt] using hroom
        change (insert place s.connections).card ≤ most.toNat
        omega
  | sendAway hsettle =>
      obtain ⟨-, -, rfl⟩ := Door.settle?_eq_rejected hsettle
      exact ⟨h.limit_eq, h.inside_eq, hcounter, by simp [withDoor, withLoop], h.card_le_limit⟩
  | finish => exact ⟨h.limit_eq, h.inside_eq, hcounter, h.card_le_before, h.card_le_limit⟩
  | @depart door place ending hplace hover hdepart =>
      obtain ⟨hinside, -, hdoor⟩ := Door.depart?_eq_some hdepart
      have hcard := Finset.card_erase_add_one hplace
      have hle : (s.connections.erase place).card ≤ s.connections.card := by omega
      refine ⟨h.limit_eq, ?_, hcounter, ?_,
        fun most hmost => hle.trans (h.card_le_limit most hmost)⟩
      · have hs := h.inside_eq
        change door.inside = (s.connections.erase place).card
        omega
      · intro before hbefore
        exact hle.trans (h.card_le_before before (hdoor ▸ hbefore))
  | mark | announce =>
      exact ⟨h.limit_eq, h.inside_eq, hcounter, h.card_le_before, h.card_le_limit⟩

theorem accounted_of_reachable (h : Reachable limit s) : Accounted limit s :=
  Runs.induction (fun _ _ _ hs hstep => hs.step hstep) h accounted_start

/-! ### From counting to deciding -/

/-- Steps during which the connection in the door is not decided about. -/
def Undecided : Server ι → Server ι → Prop :=
  Relation.ReflTransGen fun s t => ∃ act, Step s act t ∧ ∀ verdict, act ≠ .settle verdict

theorem Undecided.runs (h : Undecided s t) : Runs s t :=
  Relation.ReflTransGen.mono (fun _ _ ⟨act, hstep, _⟩ => ⟨act, hstep⟩) _ _ h

/-- A connection in the door knows the count that it has found until it is decided about. -/
theorem Undecided.inDoor_eq (h : Undecided s t) (hs : s.isDeciding = true) :
    t.loop.door.inDoor = s.loop.door.inDoor := by
  induction h with
  | refl => rfl
  | @tail t u _ hmove ih =>
      obtain ⟨act, hstep, hact⟩ := hmove
      have ht : t.isDeciding = true := by rw [isDeciding, ih]; exact hs
      rw [← ih]
      cases hstep with
      | proceed hfree | failure _ _ hfree | arrive _ _ hfree => simp [ht] at hfree
      | letIn | sendAway => exact absurd rfl (hact _)
      | finish | mark | announce => rfl
      | depart _ _ hdepart => exact (Door.depart?_eq_some hdepart).2.2

/-- **The counter is right in every state**: it is the number of connections that were let in and
have not taken themselves out yet, with one more exactly while a connection is in the door; every
step changes it by what it is to change it by, so it never wraps; a connection that is over can take
itself out; no more are inside than the limit allows; and a connection is sent away exactly when, at
the moment at which it counted itself, the limit was reached. -/
theorem connections_accounted {now : Server ι} (h : Reachable limit now) :
    now.active.toNat = now.connections.card + (if now.isDeciding then 1 else 0) ∧
    (∀ act next, Step now act next → (next.active.toNat : Int) = now.active.toNat + act.weight) ∧
    (∀ place ending, place ∈ now.connections → now.endings place = some ending →
      ∃ next, Step now (.depart place) next) ∧
    (∀ most, limit = some most → now.connections.card ≤ most.toNat) ∧
    (∀ peer came later verdict next, Step now (.arrive peer) came → Undecided came later →
      Step later (.settle verdict) next →
      ((∃ before, verdict = .rejected before) ↔
        ∃ most, limit = some most ∧ most.toNat ≤ now.connections.card)) := by
  have hbooks := accounted_of_reachable h
  refine ⟨?_, fun act next hstep => hstep.active_eq hbooks.active_eq, ?_, hbooks.card_le_limit, ?_⟩
  · rw [hbooks.active_eq, counted]
    cases now.isDeciding <;> rfl
  · intro place ending hplace hover
    -- the door has not forgotten those that are inside
    have hinside : now.loop.door.inside ≠ 0 := by
      rw [hbooks.inside_eq]
      exact Finset.card_ne_zero_of_mem hplace
    obtain ⟨n, hn⟩ := Nat.exists_eq_succ_of_ne_zero hinside
    have hdepart : now.loop.door.depart? =
        some { now.loop.door with state := now.loop.door.state.leave, inside := n } := by
      simp [Door.depart?, hn]
    exact ⟨_, .depart hplace hover hdepart⟩
  · intro peer came later verdict next hcame hwait hsettled
    have hlimit : later.loop.limit = limit :=
      (accounted_of_reachable ((h.step hcame).trans hwait.runs)).limit_eq
    -- the connection still knows the count from before it came
    have hknown : later.loop.door.inDoor = some now.active := by
      cases hcame with
      | arrive _ _ hfree =>
          have hnone := inDoor_eq_none hfree
          have hfound : (now.withDoor now.loop.door.arrive).loop.door.inDoor = some now.active := by
            rw [withDoor, withLoop, Door.arrive_eq hnone]
            rfl
          rw [hwait.inDoor_eq (by rw [isDeciding, hfound]; rfl), hfound]
    have hcard : now.active.toNat = now.connections.card := by
      cases hcame with
      | arrive _ _ hfree => exact hbooks.active_eq.trans (counted_of_free hfree)
    rw [← hcard, ← Admission.hasRoom_eq_false_iff]
    cases hsettled with
    | letIn hsettle =>
        obtain ⟨before, hbefore, hroom, -⟩ := Door.settle?_eq_served hsettle
        obtain rfl := Option.some.inj (hknown.symm.trans hbefore)
        rw [hlimit] at hroom
        simp [hroom]
    | sendAway hsettle =>
        obtain ⟨hbefore, hroom, -⟩ := Door.settle?_eq_rejected hsettle
        obtain rfl := Option.some.inj (hknown.symm.trans hbefore)
        rw [hlimit] at hroom
        simp [hroom]

/-- A server with room for one connection that serves one. -/
def full : Server Unit where
  loop := ⟨.accepting ⟨0⟩, some 1, ⟨⟨1, false, 0⟩, none, 1⟩⟩
  connections := insert 0 ∅
  endings := Function.update (fun _ => none) 0 none
  calls := fun _ => .idle

theorem reachable_full : Reachable (some 1) full := by
  have haccepting : Reachable (some 1) _ :=
    ((Relation.ReflTransGen.refl (a := (start (some 1) : Server Unit))).tail
      ⟨_, .proceed rfl⟩).tail ⟨_, .proceed rfl⟩
  have hcame : Reachable (some 1) _ := haccepting.step (.arrive "first" rfl rfl)
  exact hcame.step (.letIn rfl (Finset.notMem_empty 0))

/-- With room for one, the second of two connections is sent away, even if the first one leaves
while the second stands in the door. -/
theorem connections_accounted_full :
    ∃ came later next : Server Unit, Reachable (some 1) full ∧ Step full (.arrive "second") came ∧
      Undecided came later ∧ later.connections = ∅ ∧ Step later (.settle (.rejected 1)) next ∧
      full.active.toNat = 1 ∧ full.connections.card ≤ 1 ∧
      ∃ most, some (1 : UInt64) = some most ∧ most.toNat ≤ full.connections.card := by
  have hcame := Step.arrive (s := full) "second" rfl rfl
  have hover := Step.finish (s := full.withDoor full.loop.door.arrive) .overdue
    (Finset.mem_insert_self 0 ∅) rfl
  obtain ⟨later, hwait, hempty, hfull⟩ : ∃ later,
      Undecided (full.withDoor full.loop.door.arrive) later ∧ later.connections = ∅ ∧
      later.loop.door.settle? later.loop.limit = some (.rejected 1, ⟨⟨0, false, 0⟩, none, 0⟩) :=
    ⟨_, (Relation.ReflTransGen.single ⟨_, hover, by simp⟩).tail
      ⟨_, .depart (Finset.mem_insert_self 0 ∅) rfl rfl, by simp⟩, rfl, rfl⟩
  have hsent := Step.sendAway hfull
  obtain ⟨hactive, -, -, hlimit, hdecided⟩ := connections_accounted reachable_full
  exact ⟨_, later, _, reachable_full, hcame, hwait, hempty, hsent, hactive, hlimit 1 rfl,
    (hdecided _ _ _ _ _ hcame hwait hsent).1 ⟨1, rfl⟩⟩

end Server

end AssemblyGate
