/-
**Calls leave nothing behind.**

However calls end, and in whatever order their steps come, a call that has ended has no process, and
the entries that belong to no call under way are the ones that were there before: nothing is added,
nothing is lost, and nothing is changed in them.

An assembly as it is run is such a call.  It starts the assembler through a launcher, waits for it
and lets go of it, and this is all that has to be known of the machine: what each of these does to
the entries and to the processes.

Main definitions:

* `AssemblyGate.Launcher` — starting a process, waiting for it, and letting go of it;
* `AssemblyGate.Custody.Follows` — a machine that does to entries and processes what calls do;
* `AssemblyGate.Custody.assembleAll` — one assembly after the other.

Main results:

* `AssemblyGate.Custody.assemble_steps` — an assembly is a run of steps, to its end;
* `AssemblyGate.Custody.view_assemble` — it leaves entries and processes as they were;
* `AssemblyGate.Custody.calls_leave_nothing` — **calls leave nothing behind**.
-/
import AssemblyGate.Proofs.Assembler.Custody

set_option autoImplicit false

namespace AssemblyGate

/-! ### Launchers -/

/-- What waiting for a process comes to. -/
inductive Awaited
  | failed (cause : Fault)
  | overdue
  | ended (status : ExitStatus) (stderr : Bytes)

/-- How the attempt to run a command has ended. -/
def Awaited.run : Awaited → Run
  | failed cause => .notCollected cause
  | overdue => .overdue
  | ended status stderr => .ended status stderr

/-- A way to run commands. -/
structure Launcher (σ : Type) where
  /-- Start a process. -/
  spawn : Invocation → σ → Except Fault Nat × σ
  /-- Wait for a process for at most the given number of milliseconds. -/
  await : Nat → Nat → σ → Awaited × σ
  /-- Let go of a process, which kills it if it still runs. -/
  release : Nat → σ → σ

/-- Run a command for at most the given number of milliseconds. -/
def Launcher.run {σ : Type} (l : Launcher σ) (command : Invocation) (milliseconds : Nat) (s : σ) :
    Run × σ :=
  match l.spawn command s with
  | (.error cause, s) => (.notStarted cause, s)
  | (.ok child, s) =>
      let (awaited, s) := l.await child milliseconds s
      (awaited.run, l.release child s)

theorem Launcher.run_of_notSpawned {σ : Type} {l : Launcher σ} {command : Invocation} {s s' : σ}
    {cause : Fault} (hspawn : l.spawn command s = (.error cause, s')) (milliseconds : Nat) :
    l.run command milliseconds s = (.notStarted cause, s') := by
  simp [run, hspawn]

theorem Launcher.run_of_awaited {σ : Type} {l : Launcher σ} {command : Invocation} {s s' s'' : σ}
    {child milliseconds : Nat} {awaited : Awaited} (hspawn : l.spawn command s = (.ok child, s'))
    (hawait : l.await child milliseconds s' = (awaited, s'')) :
    l.run command milliseconds s = (awaited.run, l.release child s'') := by
  simp [run, hspawn, hawait]

namespace Custody

section Launching

variable {ι τ σ : Type}

/-- A machine that does to entries and processes what calls do.  A directory that is made was not
there; a file is written, and a process writes, inside the directory that it belongs to; a process
that has been waited for is gone; what is removed or let go of is gone. -/
structure Follows (l : Launcher σ) (host : Host σ) (view : σ → Site ι τ) (call : ι) : Prop where
  runs : host.run = l.run
  notMade : ∀ parent s fault s', host.makeStaging parent s = (.error fault, s') → view s' = view s
  made : ∀ parent s directory s', host.makeStaging parent s = (.ok directory, s') →
    (view s).entries directory = none ∧
      ∃ content, view s' = (view s).setEntry directory (some content)
  wrote : ∀ (area : StagingArea) bytes s result s', (view s).entries area.directory ≠ none →
    host.writeFile area.source bytes s = (result, s') →
    ∃ content, view s' = (view s).setEntry area.directory (some content)
  removed : ∀ directory s, view (host.removeTree directory s) = (view s).setEntry directory none
  notSpawned : ∀ command s cause s', l.spawn command s = (.error cause, s') → view s' = view s
  spawned : ∀ command s child s', l.spawn command s = (.ok child, s') →
    (view s).children child = none ∧ view s' = (view s).setChild child (some ⟨call, true⟩)
  awaited : ∀ a (area : StagingArea) s child s' milliseconds result s'',
    (view s).entries area.directory ≠ none →
    l.spawn (Assembler.invocation a area) s = (.ok child, s') →
    l.await child milliseconds s' = (result, s'') →
    ∃ content left, view s'' =
        ((view s').setEntry area.directory (some content)).setChild child left ∧
      ∀ status stderr, result = .ended status stderr → left = none
  released : ∀ child s, view (l.release child s) = (view s).setChild child none

/-- The steps of a call that nothing else disturbs. -/
abbrev Steps (a : AssemblerSettings) (source : String) (call : ι) :
    Site ι τ × Progress → Site ι τ × Progress → Prop :=
  Relation.ReflTransGen (Step a source call)

variable {l : Launcher σ} {host : Host σ} {view : σ → Site ι τ} {call : ι} {a : AssemblerSettings}
  {source : String}

theorem setChild_setChild (site : Site ι τ) (child : Nat) (first second : Option (Child ι)) :
    (site.setChild child first).setChild child second = site.setChild child second := by
  simp [Site.setChild]

/-- From a running process on, a call comes to its end whatever the process leaves of itself. -/
theorem steps_of_running {site : Site ι τ} {area : StagingArea} {child : Nat} {result : Awaited}
    {left : Option (Child ι)}
    (hended : ∀ status stderr, result = .ended status stderr → left = none) :
    Steps a source call (site, .running area child)
      ((site.setChild child none).setEntry area.directory none,
        .leaving ⟨none, none⟩ (.returned (Assembler.conclude a area result.run))) := by
  cases left with
  | none =>
      have hleaves : Leaves a source (.collected area)
          (.returned (Assembler.conclude a area result.run)) := by
        cases result with
        | failed cause => exact .notCollected cause rfl
        | overdue => exact .overdue rfl
        | ended status stderr => exact .ended area status stderr
      have hcollected : Steps a source call (site, .running area child)
          (site.setChild child none, .collected area) := by
        rw [← setChild_setChild site child (some ⟨call, false⟩) none]
        exact (Relation.ReflTransGen.single (.expire rfl)).tail (.collect (by simp))
      exact (hcollected.tail (.leave hleaves)).tail .clear
  | some process =>
      -- the process has not been waited for, so it did not end in time
      have hleaves : Leaves a source (.running area child)
          (.returned (Assembler.conclude a area result.run)) := by
        cases result with
        | failed cause => exact .notCollected cause rfl
        | overdue => exact .overdue rfl
        | ended status stderr => exact absurd (hended status stderr rfl) (by simp)
      exact ((Relation.ReflTransGen.single (.leave hleaves)).tail .kill).tail .clear

/-- From a staged source on, the rest of an assembly is a run of steps. -/
theorem steps_of_staged (h : Follows l host view call) (area : StagingArea) {s : σ}
    (hthere : (view s).entries area.directory ≠ none) (milliseconds : Nat) :
    Steps a source call (view s, .staged area)
      (view (host.removeTree area.directory
          (host.run (Assembler.invocation a area) milliseconds s).2),
        .leaving ⟨none, none⟩ (.returned (Assembler.conclude a area
          (host.run (Assembler.invocation a area) milliseconds s).1))) := by
  rw [h.removed, h.runs]
  cases hspawn : l.spawn (Assembler.invocation a area) s with
  | mk spawned s' =>
      cases spawned with
      | error cause =>
          rw [Launcher.run_of_notSpawned hspawn, h.notSpawned _ _ _ _ hspawn]
          exact (Relation.ReflTransGen.single (.leave (.notStarted area cause))).tail .clear
      | ok child =>
          obtain ⟨hfree, hlaunched⟩ := h.spawned _ _ _ _ hspawn
          cases hawait : l.await child milliseconds s' with
          | mk result s'' =>
              obtain ⟨content, left, hview, hended⟩ :=
                h.awaited a area s child s' milliseconds result s'' hthere hspawn hawait
              rw [Launcher.run_of_awaited hspawn hawait, h.released, hview, setChild_setChild,
                hlaunched]
              exact ((Relation.ReflTransGen.single (.launch child hfree)).tail
                (.touch content rfl)).trans (steps_of_running hended)

/-- **An assembly is a run of steps**, from its beginning to its end. -/
theorem assemble_steps (h : Follows l host view call) (s : σ) :
    Steps a source call (view s, .waiting)
      (view (Assembler.assemble host a source s).state,
        .leaving ⟨none, none⟩ (.returned (Assembler.assemble host a source s).outcome)) := by
  unfold Assembler.assemble
  split
  · rename_i hlarge
    exact .single (.leave (.tooLarge hlarge))
  rename_i hfits
  have hfits : source.utf8ByteSize ≤ a.maxSourceBytes.toNat := Nat.not_lt.1 hfits
  unfold StagingArea.create
  cases hmake : host.makeStaging a.stagingDir s with
  | mk made s₁ =>
      cases made with
      | error fault =>
          dsimp only
          rw [h.notMade _ _ _ _ hmake]
          exact .single (.leave (.notMade fault hfits))
      | ok directory =>
          dsimp only
          obtain ⟨hfree, content, hmade⟩ := h.made _ _ _ _ hmake
          have hthere : (view s₁).entries directory ≠ none := by simp [hmade]
          have hwriting : Steps a source call (view s, .waiting)
              (view s₁, .writing ⟨directory⟩) := by
            rw [hmade]
            exact .single (.make ⟨directory⟩ content hfits hfree)
          cases hwrite : host.writeFile (StagingArea.source ⟨directory⟩)
              (Utf8.encode source.toList) s₁ with
          | mk wrote s₂ =>
              obtain ⟨content', hwrote⟩ := h.wrote ⟨directory⟩ _ _ _ _ hthere hwrite
              have htouched : Steps a source call (view s, .waiting)
                  (view s₂, .writing ⟨directory⟩) := by
                rw [hwrote]
                exact hwriting.tail (.touch content' rfl)
              cases wrote with
              | error fault =>
                  dsimp only
                  rw [h.removed]
                  exact (htouched.tail (.leave (.notWritten ⟨directory⟩ fault))).tail .clear
              | ok =>
                  have hthere' : (view s₂).entries directory ≠ none := by simp [hwrote]
                  exact (htouched.tail .written).trans (steps_of_staged h ⟨directory⟩ hthere' _)

/-- A call on its way out comes to its end. -/
theorem exists_steps_of_leaving (site : Site ι τ) (held : Held) (exit : Exit) :
    ∃ site', Steps a source call (site, .leaving held exit)
      (site', .leaving ⟨none, none⟩ exit) := by
  have hclear : ∀ (site : Site ι τ) (area : Option StagingArea), ∃ site',
      Steps a source call (site, .leaving ⟨area, none⟩ exit)
        (site', .leaving ⟨none, none⟩ exit) := by
    intro site area
    cases area with
    | none => exact ⟨site, .refl⟩
    | some area => exact ⟨_, .single .clear⟩
  obtain ⟨area, child⟩ := held
  cases child with
  | none => exact hclear site area
  | some child =>
      obtain ⟨site', hsteps⟩ := hclear (site.setChild child none) area
      exact ⟨site', .head .kill hsteps⟩

/-! ### One call after the other -/

variable [DecidableEq ι]

/-- The steps of a call are steps of the scene that it belongs to. -/
theorem runs_of_steps (settings : ι → AssemblerSettings) (sources : ι → String)
    (now : Scene ι τ) {after : Site ι τ × Progress}
    (h : Steps (settings call) (sources call) call (now.site, now.progress call) after) :
    Runs settings sources now ⟨after.1, Function.update now.progress call after.2⟩ := by
  induction h with
  | refl => rw [Function.update_eq_self]
  | @tail between after _ hstep ih =>
      refine ih.tail ⟨call, ?_⟩
      have hmove : Moves settings sources
          ⟨between.1, Function.update now.progress call between.2⟩ call
          ⟨after.1, Function.update (Function.update now.progress call between.2) call after.2⟩ :=
        .mk (by simpa using hstep)
      rwa [Function.update_idem] at hmove

/-- **An assembly leaves entries and processes as they were.** -/
theorem view_assemble (h : Follows l host view call) {s : σ}
    (hnone : ∀ number, (view s).children number = none) :
    view (Assembler.assemble host a source s).state = view s := by
  let start : Scene ι τ := ⟨view s, fun _ => .waiting⟩
  have hstart : start.IsIdle := ⟨fun _ => rfl, hnone⟩
  have hrun := runs_of_steps (fun _ => a) (fun _ => source) start (assemble_steps h s)
  refine (orderly_of_runs hstart hrun).site_eq fun other => ?_
  by_cases hother : other = call
  · subst hother
    simp [Progress.held]
  · simp [Function.update_of_ne hother, start, Progress.held]

end Launching

/-- One assembly after the other, each with its own settings. -/
def assembleAll {σ : Type} (host : Host σ) (requests : List (AssemblerSettings × String)) (s : σ) :
    σ :=
  requests.foldl (fun s request => (Assembler.assemble host request.1 request.2 s).state) s

theorem view_assembleAll {ι τ σ : Type} [DecidableEq ι] {l : Launcher σ} {host : Host σ}
    {view : σ → Site ι τ} {call : ι} (h : Follows l host view call)
    (requests : List (AssemblerSettings × String)) {s : σ}
    (hnone : ∀ number, (view s).children number = none) :
    view (assembleAll host requests s) = view s := by
  induction requests generalizing s with
  | nil => rfl
  | cons request requests ih =>
      have hfirst : view (Assembler.assemble host request.1 request.2 s).state = view s :=
        view_assemble h hnone
      exact (ih (by simpa [hfirst] using hnone)).trans hfirst

/-! ### Nothing is left behind -/

/-- **Calls leave nothing behind.**  After any steps of any calls, a call on its way out can come to
its end, and one that has ended has no process; an entry at which no call under way has its
directory is as it was, with what it holds; the directories of calls under way were not there
before, and no other call touches them; and once no call holds anything, all entries are the ones
that were there before.  On a machine that does what calls do, one assembly after the other leaves
all entries as they were, whatever they come to. -/
theorem calls_leave_nothing {ι τ : Type} [DecidableEq ι] (settings : ι → AssemblerSettings)
    (sources : ι → String) {start now : Scene ι τ} (hstart : start.IsIdle)
    (hrun : Runs settings sources start now) :
    (∀ call held exit, now.progress call = .leaving held exit →
      ∃ next, Runs settings sources now next ∧
        next.progress call = .leaving ⟨none, none⟩ exit) ∧
    (∀ call, (now.progress call).IsOver → ∀ number child,
      now.site.children number = some child → child.owner ≠ call) ∧
    (∀ path, (∀ call, (now.progress call).directory? ≠ some path) →
      now.site.entries path = start.site.entries path) ∧
    (∀ call path, (now.progress call).directory? = some path →
      start.site.entries path = none ∧
      ∀ other next, other ≠ call → Moves settings sources now other next →
        next.site.entries path = now.site.entries path) ∧
    ((∀ call, (now.progress call).held = ⟨none, none⟩) → now.site = start.site) ∧
    ∀ (σ : Type) (l : Launcher σ) (host : Host σ) (view : σ → Site ι τ) (call : ι),
      Follows l host view call → ∀ requests s, (∀ number, (view s).children number = none) →
        view (assembleAll host requests s) = view s := by
  have horderly := orderly_of_runs hstart hrun
  refine ⟨?_, ?_, horderly.entries.untouched, ?_, horderly.site_eq,
    fun σ l host view call h requests s => view_assembleAll h requests⟩
  · intro call held exit hleaving
    obtain ⟨site', hsteps⟩ := exists_steps_of_leaving now.site held exit
    rw [← hleaving] at hsteps
    exact ⟨_, runs_of_steps settings sources now hsteps, by simp⟩
  · rintro call ⟨exit, hover⟩ number child hchild rfl
    by_cases hheld : ∃ holder, (now.progress holder).child? = some number
    · -- the process belongs to the call that holds it, and this one holds nothing
      obtain ⟨holder, hholder⟩ := hheld
      obtain ⟨content, hcontent, howner⟩ := horderly.children.filled holder number hholder
      obtain rfl : child = content := Option.some.inj (hchild.symm.trans hcontent)
      rw [← howner, hover] at hholder
      simp [Progress.child?, Progress.held] at hholder
    · have huntouched := horderly.children.untouched number fun holder hholder =>
        hheld ⟨holder, hholder⟩
      rw [hstart.childless, hchild] at huntouched
      simp at huntouched
  · intro call path hpath
    refine ⟨horderly.entries.wasFree call path hpath, fun other next hother hmove => ?_⟩
    obtain ⟨hstep⟩ := hmove
    exact horderly.entries.frame hstep.entries_change (Ne.symm hother) hpath

/-! ### A call that is dropped -/

/-- Settings of an assembler that has a second for every source. -/
def briefSettings : AssemblerSettings := ⟨"as", [], "C", 1000, 65536, none, "input.S"⟩

/-- The areas of two calls. -/
def firstArea : StagingArea := ⟨"/tmp/asm-000000"⟩

@[inherit_doc firstArea]
def secondArea : StagingArea := ⟨"/tmp/asm-111111"⟩

/-- Two calls that have not begun, and a directory that is none of theirs. -/
def twoCalls : Scene Bool Unit where
  site := ⟨fun path => if path = "/tmp/notes" then some () else none, fun _ => none⟩
  progress _ := .waiting

theorem twoCalls_isIdle : twoCalls.IsIdle := ⟨fun _ => rfl, fun _ => rfl⟩

/-- A machine with room for one directory and one process, on which no process ends by itself. -/
def slowLauncher : Launcher (Site Bool Unit) where
  spawn _ s :=
    if (s.children 7).isNone then (.ok 7, s.setChild 7 (some ⟨false, true⟩))
    else (.error (.os 11), s)
  await _ _ s := (.overdue, s)
  release child s := s.setChild child none

/-- The same machine as the service sees it. -/
def slowHost : Host (Site Bool Unit) where
  makeStaging _ s :=
    if (s.entries firstArea.directory).isNone then
      (.ok firstArea.directory, s.setEntry firstArea.directory (some ()))
    else (.error (.os 17), s)
  writeFile _ _ s := (.ok (), s)
  run := slowLauncher.run
  removeTree directory s := s.setEntry directory none
  isFile _ _ := true
  searchPath _ := none

theorem setEntry_eq_self {site : Site Bool Unit} {path : String} (h : site.entries path ≠ none) :
    site.setEntry path (some ()) = site := by
  obtain ⟨content, hcontent⟩ := Option.ne_none_iff_exists'.1 h
  simp [Site.setEntry, ← hcontent]

theorem follows_slowHost : Follows slowLauncher slowHost (fun s => s) false where
  runs := rfl
  notMade := by
    intro parent s fault s' hmake
    simp only [slowHost] at hmake
    split at hmake <;> simp_all
  made := by
    intro parent s directory s' hmake
    simp only [slowHost] at hmake
    split at hmake
    · rename_i hfree
      simp only [Prod.mk.injEq, Except.ok.injEq] at hmake
      obtain ⟨rfl, rfl⟩ := hmake
      exact ⟨by simpa using hfree, (), rfl⟩
    · simp at hmake
  wrote := by
    intro area bytes s result s' hthere hwrite
    obtain rfl : s = s' := congrArg Prod.snd hwrite
    exact ⟨(), (setEntry_eq_self hthere).symm⟩
  removed _ _ := rfl
  notSpawned := by
    intro command s cause s' hspawn
    simp only [slowLauncher] at hspawn
    split at hspawn <;> simp_all
  spawned := by
    intro command s child s' hspawn
    simp only [slowLauncher] at hspawn
    split at hspawn
    · rename_i hfree
      simp only [Prod.mk.injEq, Except.ok.injEq] at hspawn
      obtain ⟨rfl, rfl⟩ := hspawn
      exact ⟨by simpa using hfree, rfl⟩
    · simp at hspawn
  awaited := by
    intro a area s child s' milliseconds result s'' hthere hspawn hawait
    obtain ⟨rfl, rfl⟩ := Prod.mk.inj hawait
    have hthere' : s'.entries area.directory ≠ none := by
      simp only [slowLauncher] at hspawn
      split at hspawn
      · obtain ⟨-, rfl⟩ := Prod.mk.inj hspawn
        exact hthere
      · simp at hspawn
    refine ⟨(), s'.children child, ?_, by simp⟩
    rw [setEntry_eq_self hthere']
    simp [Site.setChild]
  released _ _ := rfl

/-- The first call is dropped while its assembler runs, and leaves nothing; the assembler of the
second call is killed when its time is over.  Then everything is as it was, also on a machine that
makes the same calls one after the other. -/
theorem calls_leave_nothing_dropped :
    ∃ now later : Scene Bool Unit, twoCalls.IsIdle ∧
      Runs (fun _ => briefSettings) (fun _ => "nop") twoCalls now ∧
      now.progress false = .leaving ⟨none, none⟩ .dropped ∧
      now.progress true = .running secondArea 8 ∧
      (∀ number child, now.site.children number = some child → child.owner ≠ false) ∧
      now.site.entries firstArea.directory = none ∧
      Runs (fun _ => briefSettings) (fun _ => "nop") twoCalls later ∧
      later.progress true = .leaving ⟨none, none⟩ (.returned (.error (.timeout 1000))) ∧
      later.site = twoCalls.site ∧
      assembleAll slowHost [(briefSettings, "nop"), (briefSettings, "ret")] twoCalls.site =
        twoCalls.site := by
  have hfits : "nop".utf8ByteSize ≤ briefSettings.maxSourceBytes.toNat := by decide +kernel
  have hfirst : Runs (fun _ => briefSettings) (fun _ => "nop") twoCalls _ :=
    ((Relation.ReflTransGen.single ⟨false, .mk (.make firstArea () hfits rfl)⟩).tail
      ⟨false, .mk .written⟩).tail ⟨false, .mk (.launch 7 rfl)⟩
  have hboth := ((hfirst.tail ⟨true, .mk (.make secondArea () hfits rfl)⟩).tail
    ⟨true, .mk .written⟩).tail ⟨true, .mk (.launch 8 rfl)⟩
  have hnow := ((hboth.tail ⟨false, .mk (.leave (.dropped rfl))⟩).tail ⟨false, .mk .kill⟩).tail
    ⟨false, .mk .clear⟩
  have hlater := ((hnow.tail ⟨true, .mk (.leave (.overdue rfl))⟩).tail ⟨true, .mk .kill⟩).tail
    ⟨true, .mk .clear⟩
  obtain ⟨-, hchildless, hentries, -⟩ := calls_leave_nothing _ _ twoCalls_isIdle hnow
  obtain ⟨-, -, -, -, hsite, hone⟩ := calls_leave_nothing _ _ twoCalls_isIdle hlater
  refine ⟨_, _, twoCalls_isIdle, hnow, rfl, rfl, hchildless false ⟨_, rfl⟩, ?_, hlater, rfl, ?_, ?_⟩
  · refine hentries firstArea.directory fun call => ?_
    cases call <;> decide +kernel
  · refine hsite fun call => ?_
    cases call <;> rfl
  · exact hone _ _ _ _ _ follows_slowHost _ _ fun _ => rfl

end Custody

end AssemblyGate
