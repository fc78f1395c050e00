/-
**What calls hold, and give back.**

A call of the assembler makes a directory and starts a process.  Both are in its custody from the
moment at which they are there, and there are many ways out of a call: an error at each of its
steps, the end of its time, an ordinary end, and being dropped by whoever waits for it.  Whichever
way it takes, a call gives back what it holds on its way out, the process before the directory.

Directories and processes are kept by the machine in tables, and what is true of custody is true of
any table: a call takes a place that is free, changes what is in its own place, and gives the place
back.  So no two calls hold one place, and the places that nobody holds are as they were.

Main definitions:

* `AssemblyGate.Custody.Change`, `AssemblyGate.Custody.Kept` — what a holder does to a table, and
  what is true of a table with holders;
* `AssemblyGate.Custody.Site` — the entries of directories, and the processes of calls;
* `AssemblyGate.Custody.Progress`, `AssemblyGate.Custody.Held` — how far a call has come, and what
  it holds there;
* `AssemblyGate.Custody.Leaves` — **the ways out of a call**;
* `AssemblyGate.Custody.Step`, `AssemblyGate.Custody.Moves` — one step of a call, and of any of
  them.

Main results:

* `AssemblyGate.Custody.Kept.change` — a change by one of the holders keeps a table in order;
* `AssemblyGate.Custody.Step.entries_change`, `AssemblyGate.Custody.Step.children_change` — a step
  of a call is a change of both tables;
* `AssemblyGate.Custody.orderly_of_runs` — both tables are in order after any steps of any calls.
-/
import AssemblyGate.Assembler.Run
import Mathlib.Logic.Function.Basic
import Mathlib.Logic.Relation

set_option autoImplicit false

namespace AssemblyGate.Custody

/-! ### Tables with holders -/

section Tables

variable {ι κ α : Type}

/-- What a holder does to a table in one step.  It holds one place at most; `fits` says which
contents are its own. -/
inductive Change [DecidableEq κ] (fits : α → Prop) (table : κ → Option α) :
    Option κ → (κ → Option α) → Option κ → Prop
  | rest {place : Option κ} : Change fits table place table place
  | take {place : κ} {content : α} : table place = none → fits content →
      Change fits table none (Function.update table place (some content)) (some place)
  | alter {place : κ} {content : α} : fits content →
      Change fits table (some place) (Function.update table place (some content)) (some place)
  | giveBack {place : κ} :
      Change fits table (some place) (Function.update table place none) none

/-- A table with holders, compared to what it was when there were none. -/
structure Kept (fits : ι → α → Prop) (before table : κ → Option α) (holds : ι → Option κ) :
    Prop where
  untouched : ∀ place, (∀ i, holds i ≠ some place) → table place = before place
  wasFree : ∀ i place, holds i = some place → before place = none
  filled : ∀ i place, holds i = some place → ∃ content, table place = some content ∧ fits i content
  apart : ∀ i j place, holds i = some place → holds j = some place → i = j

variable {fits : ι → α → Prop} {before table table' : κ → Option α} {holds : ι → Option κ} {i : ι}
  {place' : Option κ}

theorem kept_of_none (h : ∀ i, holds i = none) : Kept fits table table holds :=
  ⟨fun _ _ => rfl, by simp [h], by simp [h], by simp [h]⟩

/-- A place that is free is nobody's, and was free before. -/
theorem Kept.of_free (h : Kept fits before table holds) {place : κ} (hfree : table place = none) :
    (∀ j, holds j ≠ some place) ∧ before place = none := by
  have hnobody : ∀ j, holds j ≠ some place := by
    intro j hplace
    obtain ⟨content, hcontent, -⟩ := h.filled j place hplace
    simp [hfree] at hcontent
  exact ⟨hnobody, by rw [← h.untouched place hnobody, hfree]⟩

variable [DecidableEq κ]

/-- What one holder does leaves the places of the others alone. -/
theorem Kept.frame (h : Kept fits before table holds)
    (hchange : Change (fits i) table (holds i) table' place') {j : ι} {place : κ} (hj : j ≠ i)
    (hplace : holds j = some place) : table' place = table place := by
  generalize hheld : holds i = held at hchange
  have hother : ∀ own, held = some own → place ≠ own := by
    rintro own rfl rfl
    exact hj (h.apart j i place hplace hheld)
  cases hchange with
  | rest => rfl
  | take hfree _ =>
      refine Function.update_of_ne ?_ _ _
      rintro rfl
      exact (h.of_free hfree).1 j hplace
  | alter => exact Function.update_of_ne (hother _ rfl) _ _
  | giveBack => exact Function.update_of_ne (hother _ rfl) _ _

/-- What a holder holds after a change was free before, has contents of its own, and is nobody
else's. -/
theorem Kept.own (h : Kept fits before table holds)
    (hchange : Change (fits i) table (holds i) table' place') {place : κ}
    (hplace : place' = some place) :
    before place = none ∧ (∃ content, table' place = some content ∧ fits i content) ∧
      ∀ j, j ≠ i → holds j ≠ some place := by
  generalize hheld : holds i = held at hchange
  subst hplace
  have hshared : ∀ own, held = some own → ∀ j, j ≠ i → holds j ≠ some own := by
    rintro own rfl j hj hown
    exact hj (h.apart j i own hown hheld)
  cases hchange with
  | rest => exact ⟨h.wasFree i place hheld, h.filled i place hheld, hshared place rfl⟩
  | take hfree hfits =>
      obtain ⟨hnobody, hbefore⟩ := h.of_free hfree
      exact ⟨hbefore, ⟨_, Function.update_self _ _ _, hfits⟩, fun j _ => hnobody j⟩
  | alter hfits =>
      exact ⟨h.wasFree i place hheld, ⟨_, Function.update_self _ _ _, hfits⟩, hshared place rfl⟩

/-- What nobody holds after a change is as it was before there were holders. -/
theorem Kept.untouched_change (h : Kept fits before table holds)
    (hchange : Change (fits i) table (holds i) table' place') {place : κ}
    (hown : place' ≠ some place) (hothers : ∀ j, j ≠ i → holds j ≠ some place) :
    table' place = before place := by
  generalize hheld : holds i = held at hchange
  have hbefore : held ≠ some place → table place = before place := by
    intro hne
    refine h.untouched place fun j => ?_
    by_cases hj : j = i
    · rw [hj, hheld]
      exact hne
    · exact hothers j hj
  cases hchange with
  | rest => exact hbefore hown
  | take =>
      rw [Function.update_of_ne (fun heq => hown (congrArg some heq.symm)), hbefore (by simp)]
  | alter =>
      rw [Function.update_of_ne (fun heq => hown (congrArg some heq.symm)), hbefore hown]
  | @giveBack own =>
      by_cases heq : place = own
      · subst heq
        rw [Function.update_self, h.wasFree i place hheld]
      · rw [Function.update_of_ne heq, hbefore fun hsome => heq (Option.some.inj hsome).symm]

/-- **A change by one of the holders keeps a table in order.** -/
theorem Kept.change [DecidableEq ι] (h : Kept fits before table holds)
    (hchange : Change (fits i) table (holds i) table' place') :
    Kept fits before table' (Function.update holds i place') := by
  constructor
  · intro place hnobody
    refine h.untouched_change hchange (by simpa using hnobody i) fun j hj => ?_
    simpa [Function.update_of_ne hj] using hnobody j
  · intro j place hplace
    by_cases hj : j = i
    · subst hj
      exact (h.own hchange (by simpa using hplace)).1
    · rw [Function.update_of_ne hj] at hplace
      exact h.wasFree j place hplace
  · intro j place hplace
    by_cases hj : j = i
    · subst hj
      exact (h.own hchange (by simpa using hplace)).2.1
    · rw [Function.update_of_ne hj] at hplace
      rw [h.frame hchange hj hplace]
      exact h.filled j place hplace
  · intro j k place hplace hplace'
    by_cases hj : j = i
    · subst hj
      rw [Function.update_self] at hplace
      refine (Decidable.byContradiction fun hk => ?_)
      rw [Function.update_of_ne (Ne.symm hk)] at hplace'
      exact (h.own hchange hplace).2.2 k (Ne.symm hk) hplace'
    · rw [Function.update_of_ne hj] at hplace
      by_cases hk : k = i
      · subst hk
        rw [Function.update_self] at hplace'
        exact absurd hplace ((h.own hchange hplace').2.2 j hj)
      · rw [Function.update_of_ne hk] at hplace'
        exact h.apart j k place hplace hplace'

end Tables

/-! ### What the machine keeps -/

/-- A process that a call has started.  One that has ended is kept until somebody has waited for
it. -/
structure Child (ι : Type) where
  owner : ι
  isRunning : Bool

/-- The entries of all directories, by their paths and with what they hold, and the processes of
calls, by their numbers. -/
structure Site (ι τ : Type) where
  entries : String → Option τ
  children : Nat → Option (Child ι)

namespace Site

variable {ι τ : Type}

/-- Make, change or remove an entry. -/
def setEntry (site : Site ι τ) (path : String) (entry : Option τ) : Site ι τ :=
  { site with entries := Function.update site.entries path entry }

/-- Start, change or remove a process. -/
def setChild (site : Site ι τ) (number : Nat) (child : Option (Child ι)) : Site ι τ :=
  { site with children := Function.update site.children number child }

@[simp] theorem setEntry_entries (site : Site ι τ) (path : String) (entry : Option τ) :
    (site.setEntry path entry).entries = Function.update site.entries path entry := rfl

@[simp] theorem setEntry_children (site : Site ι τ) (path : String) (entry : Option τ) :
    (site.setEntry path entry).children = site.children := rfl

@[simp] theorem setChild_entries (site : Site ι τ) (number : Nat) (child : Option (Child ι)) :
    (site.setChild number child).entries = site.entries := rfl

@[simp] theorem setChild_children (site : Site ι τ) (number : Nat) (child : Option (Child ι)) :
    (site.setChild number child).children = Function.update site.children number child := rfl

end Site

/-! ### The steps of a call -/

/-- How a call ends: with an outcome, or dropped by whoever waits for it. -/
inductive Exit
  | returned (outcome : Except AssembleError Outcome)
  | dropped

/-- What a call has in its custody. -/
structure Held where
  area : Option StagingArea
  child : Option Nat

/-- How far a call has come: the source is being written, it has been written, the process runs, it
has been waited for but its words have not all been read, or the call is on its way out. -/
inductive Progress
  | waiting
  | writing (area : StagingArea)
  | staged (area : StagingArea)
  | running (area : StagingArea) (child : Nat)
  | collected (area : StagingArea)
  | leaving (held : Held) (exit : Exit)

namespace Progress

/-- What a call holds. -/
def held : Progress → Held
  | waiting => ⟨none, none⟩
  | writing area | staged area | collected area => ⟨some area, none⟩
  | running area child => ⟨some area, some child⟩
  | leaving held _ => held

/-- The directory that a call holds. -/
def directory? (progress : Progress) : Option String :=
  progress.held.area.map StagingArea.directory

/-- The process that a call holds. -/
def child? (progress : Progress) : Option Nat := progress.held.child

/-- The area of a call that waits for its assembler. -/
def awaits? : Progress → Option StagingArea
  | running area _ | collected area => some area
  | waiting | writing _ | staged _ | leaving .. => none

/-- Whether a call waits for something, so that it can be dropped. -/
def isSuspended : Progress → Bool
  | waiting | writing _ | running .. | collected _ => true
  | staged _ | leaving .. => false

/-- A call that has ended. -/
def IsOver (progress : Progress) : Prop := ∃ exit, progress = leaving ⟨none, none⟩ exit

end Progress

section Steps

variable {ι τ : Type} (a : AssemblerSettings) (source : String)

/-- **The ways out of a call.** -/
inductive Leaves : Progress → Exit → Prop
  | tooLarge : a.maxSourceBytes.toNat < source.utf8ByteSize →
      Leaves .waiting
        (.returned (.error (.sourceTooLarge source.utf8ByteSize a.maxSourceBytes.toNat)))
  | notMade (cause : Fault) : source.utf8ByteSize ≤ a.maxSourceBytes.toNat →
      Leaves .waiting (.returned (.error (.staging cause)))
  | notWritten (area : StagingArea) (cause : Fault) :
      Leaves (.writing area) (.returned (.error (.staging cause)))
  | notStarted (area : StagingArea) (cause : Fault) :
      Leaves (.staged area) (.returned (Assembler.conclude a area (.notStarted cause)))
  | notCollected {progress : Progress} {area : StagingArea} (cause : Fault) :
      progress.awaits? = some area →
      Leaves progress (.returned (Assembler.conclude a area (.notCollected cause)))
  | overdue {progress : Progress} {area : StagingArea} : progress.awaits? = some area →
      Leaves progress (.returned (Assembler.conclude a area .overdue))
  | ended (area : StagingArea) (status : ExitStatus) (stderr : Bytes) :
      Leaves (.collected area) (.returned (Assembler.conclude a area (.ended status stderr)))
  | dropped {progress : Progress} : progress.isSuspended = true → Leaves progress .dropped

/-- One step of a call.  On its way out it gives back what it holds, the process first; before, it
or its process changes what is in its directory, and the process ends when it likes. -/
inductive Step (call : ι) : Site ι τ × Progress → Site ι τ × Progress → Prop
  | make {site : Site ι τ} (area : StagingArea) (content : τ) :
      source.utf8ByteSize ≤ a.maxSourceBytes.toNat → site.entries area.directory = none →
      Step call (site, .waiting) (site.setEntry area.directory (some content), .writing area)
  | touch {site : Site ι τ} {progress : Progress} {area : StagingArea} (content : τ) :
      progress.held.area = some area →
      Step call (site, progress) (site.setEntry area.directory (some content), progress)
  | written {site : Site ι τ} {area : StagingArea} :
      Step call (site, .writing area) (site, .staged area)
  | launch {site : Site ι τ} {area : StagingArea} (child : Nat) : site.children child = none →
      Step call (site, .staged area) (site.setChild child (some ⟨call, true⟩), .running area child)
  | expire {site : Site ι τ} {progress : Progress} {child : Nat} :
      progress.held.child = some child →
      Step call (site, progress) (site.setChild child (some ⟨call, false⟩), progress)
  | collect {site : Site ι τ} {area : StagingArea} {child : Nat} :
      site.children child = some ⟨call, false⟩ →
      Step call (site, .running area child) (site.setChild child none, .collected area)
  | leave {site : Site ι τ} {progress : Progress} {exit : Exit} : Leaves a source progress exit →
      Step call (site, progress) (site, .leaving progress.held exit)
  | kill {site : Site ι τ} {area : Option StagingArea} {child : Nat} {exit : Exit} :
      Step call (site, .leaving ⟨area, some child⟩ exit)
        (site.setChild child none, .leaving ⟨area, none⟩ exit)
  | clear {site : Site ι τ} {area : StagingArea} {exit : Exit} :
      Step call (site, .leaving ⟨some area, none⟩ exit)
        (site.setEntry area.directory none, .leaving ⟨none, none⟩ exit)

variable {a source} {call : ι} {site site' : Site ι τ} {progress progress' : Progress}

/-- A step of a call changes the entries at its own directory only. -/
theorem Step.entries_change (h : Step a source call (site, progress) (site', progress')) :
    Change (fun _ => True) site.entries progress.directory? site'.entries
      progress'.directory? := by
  cases h with
  | make area content _ hfree => exact .take hfree trivial
  | touch content harea =>
      rw [Progress.directory?, harea]
      exact .alter trivial
  | written | launch | expire | collect | leave | kill => exact .rest
  | clear => exact .giveBack

/-- A step of a call changes the processes at its own one only. -/
theorem Step.children_change (h : Step a source call (site, progress) (site', progress')) :
    Change (fun child => child.owner = call) site.children progress.child? site'.children
      progress'.child? := by
  cases h with
  | launch child hfree => exact .take hfree rfl
  | expire hchild =>
      rw [Progress.child?, hchild]
      exact .alter rfl
  | collect | kill => exact .giveBack
  | make | touch | written | leave | clear => exact .rest

end Steps

/-! ### All calls -/

/-- All calls, and the machine that they share. -/
structure Scene (ι τ : Type) where
  site : Site ι τ
  progress : ι → Progress

namespace Scene

variable {ι τ : Type}

/-- Before the first step of any call. -/
structure IsIdle (scene : Scene ι τ) : Prop where
  waiting : ∀ call, scene.progress call = .waiting
  childless : ∀ number, scene.site.children number = none

/-- Both tables are in order: the entries and the processes, compared to a scene before. -/
structure Orderly (start now : Scene ι τ) : Prop where
  entries : Kept (fun _ _ => True) start.site.entries now.site.entries
    (Progress.directory? ∘ now.progress)
  children : Kept (fun call child => child.owner = call) start.site.children now.site.children
    (Progress.child? ∘ now.progress)

theorem IsIdle.orderly {start : Scene ι τ} (h : start.IsIdle) : Orderly start start :=
  ⟨kept_of_none (by simp [h.waiting, Progress.directory?, Progress.held]),
    kept_of_none (by simp [h.waiting, Progress.child?, Progress.held])⟩

/-- Where no call holds anything, the machine is as it was. -/
theorem Orderly.site_eq {start now : Scene ι τ} (h : Orderly start now)
    (hnothing : ∀ call, (now.progress call).held = ⟨none, none⟩) : now.site = start.site := by
  have hentries : now.site.entries = start.site.entries := by
    funext path
    exact h.entries.untouched path fun call => by simp [Progress.directory?, hnothing]
  have hchildren : now.site.children = start.site.children := by
    funext number
    exact h.children.untouched number fun call => by simp [Progress.child?, hnothing]
  calc now.site = ⟨now.site.entries, now.site.children⟩ := rfl
    _ = ⟨start.site.entries, start.site.children⟩ := by rw [hentries, hchildren]

end Scene

section Scenes

variable {ι τ : Type} [DecidableEq ι] (settings : ι → AssemblerSettings) (sources : ι → String)

/-- A step of one of the calls. -/
inductive Moves (now : Scene ι τ) (call : ι) : Scene ι τ → Prop
  | mk {site : Site ι τ} {progress : Progress} :
      Step (settings call) (sources call) call (now.site, now.progress call) (site, progress) →
      Moves now call ⟨site, Function.update now.progress call progress⟩

/-- Steps of calls in any order. -/
abbrev Runs : Scene ι τ → Scene ι τ → Prop :=
  Relation.ReflTransGen fun now next => ∃ call, Moves settings sources now call next

variable {settings sources} {start now next : Scene ι τ} {call : ι}

/-- Every step keeps both tables in order. -/
theorem Scene.Orderly.step (h : Scene.Orderly start now)
    (hmove : Moves settings sources now call next) : Scene.Orderly start next := by
  obtain @⟨site, p, hstep⟩ := hmove
  constructor
  · rw [Function.comp_update]
    exact h.entries.change hstep.entries_change
  · rw [Function.comp_update]
    exact h.children.change hstep.children_change

/-- **Both tables are in order after any steps of any calls.** -/
theorem orderly_of_runs (hstart : start.IsIdle) (hrun : Runs settings sources start now) :
    Scene.Orderly start now := by
  induction hrun with
  | refl => exact hstart.orderly
  | tail _ hmove ih =>
      obtain ⟨call, hmove⟩ := hmove
      exact ih.step hmove

end Scenes

end AssemblyGate.Custody
