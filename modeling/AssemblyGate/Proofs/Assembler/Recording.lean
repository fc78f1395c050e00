/-
**A machine that keeps a record.**

Beside any machine there is one that does the same and keeps a record of the calls that change
something.  What is answered on the two is the same, so the record tells what the service does to
the machine: for an assembly, at most one directory and at most one process, in one of five courses.

Main definitions:

* `AssemblyGate.Host.Views` — a machine that does what another does, seen through a function of its
  condition;
* `AssemblyGate.Host.Call`, `AssemblyGate.Host.recorded` — a call, and the machine that keeps a
  record;
* `AssemblyGate.Assembler.Course` — **the courses of an assembly**, as the calls that are made.

Main results:

* `AssemblyGate.Assembler.map_assemble` — an assembly is the same on a machine and on one that it
  views;
* `AssemblyGate.Assembler.course_assemble` — an assembly takes one of its courses.
-/
import AssemblyGate.Assembler.Availability
import AssemblyGate.Proofs.Assembler.Cleanup

set_option autoImplicit false

namespace AssemblyGate

variable {σ τ : Type}

/-! ### Machines that do the same -/

/-- A machine does what another one does, as far as the other one's condition can be seen. -/
structure Host.Views (outer : Host τ) (inner : Host σ) (view : τ → σ) : Prop where
  makeStaging : ∀ parent t,
    inner.makeStaging parent (view t) = Prod.map id view (outer.makeStaging parent t)
  writeFile : ∀ path bytes t,
    inner.writeFile path bytes (view t) = Prod.map id view (outer.writeFile path bytes t)
  run : ∀ command milliseconds t,
    inner.run command milliseconds (view t) = Prod.map id view (outer.run command milliseconds t)
  removeTree : ∀ directory t,
    inner.removeTree directory (view t) = view (outer.removeTree directory t)
  isFile : ∀ t, inner.isFile (view t) = outer.isFile t
  searchPath : ∀ t, inner.searchPath (view t) = outer.searchPath t

/-- What an assembly came to, with another view of the condition it left. -/
def Assembler.Done.map (view : τ → σ) (done : Assembler.Done τ) : Assembler.Done σ :=
  ⟨done.outcome, done.events, view done.state⟩

variable {outer : Host τ} {inner : Host σ} {view : τ → σ}

theorem StagingArea.map_create (h : outer.Views inner view) (parent : Option String)
    (text : String) (t : τ) :
    StagingArea.create inner parent text (view t) =
      Prod.map id view (StagingArea.create outer parent text t) := by
  unfold StagingArea.create
  rw [h.makeStaging]
  rcases outer.makeStaging parent t with ⟨fault | directory, made⟩
  case error => rfl
  dsimp only [Prod.map_apply, id]
  rw [h.writeFile]
  rcases outer.writeFile (StagingArea.source ⟨directory⟩) (Utf8.encode text.toList) made
    with ⟨fault | ⟨⟩, written⟩
  case error =>
    dsimp only [Prod.map_apply, id]
    rw [h.removeTree]
  rfl

namespace Assembler

/-- **An assembly is the same on a machine and on one that it views.** -/
theorem map_assemble (h : outer.Views inner view) (a : AssemblerSettings) (source : String)
    (t : τ) : assemble inner a source (view t) = (assemble outer a source t).map view := by
  unfold assemble
  split
  · rfl
  rw [StagingArea.map_create h]
  rcases StagingArea.create outer a.stagingDir source t with ⟨cause | area, staged⟩
  case error => rfl
  rcases hrun : outer.run (invocation a area) a.timeoutMs.toNat staged with ⟨run, ended⟩
  have hinner : inner.run (invocation a area) a.timeoutMs.toNat (view staged)
      = (run, view ended) := by
    rw [h.run, hrun]
    rfl
  simp [hinner, hrun, h.removeTree, Done.map]

theorem isAvailable_eq (h : outer.Views inner view) (binary : String) (t : τ) :
    isAvailable inner binary (view t) = isAvailable outer binary t := by
  unfold isAvailable
  rw [h.isFile, h.searchPath]

end Assembler

/-! ### Keeping a record -/

/-- A call that may change something.  The start of a process is recorded with the condition that
it found. -/
inductive Host.Call (σ : Type)
  | make (parent : Option String)
  | write (path : String) (bytes : Bytes)
  | spawn (command : Invocation) (found : σ)
  | await (child : Nat)
  | release (child : Nat)
  | remove (directory : String)

namespace Host.Call

/-- Whether a call makes a directory. -/
def isMake : Host.Call σ → Bool
  | make _ => true
  | _ => false

/-- Whether a call starts a process. -/
def isSpawn : Host.Call σ → Bool
  | spawn _ _ => true
  | _ => false

end Host.Call

/-- A launcher that keeps a record of its calls. -/
def Launcher.recorded (l : Launcher σ) : Launcher (σ × List (Host.Call σ)) where
  spawn command t :=
    let (spawned, s) := l.spawn command t.1
    (spawned, s, t.2 ++ [.spawn command t.1])
  await child milliseconds t :=
    let (awaited, s) := l.await child milliseconds t.1
    (awaited, s, t.2 ++ [.await child])
  release child t := (l.release child t.1, t.2 ++ [.release child])

namespace Host

/-- A machine whose commands are run by a launcher. -/
def launching (host : Host σ) (l : Launcher σ) : Host σ := { host with run := l.run }

/-- The machine that does the same and keeps a record of its calls. -/
def recorded (host : Host σ) (l : Launcher σ) : Host (σ × List (Host.Call σ)) where
  makeStaging parent t :=
    let (made, s) := host.makeStaging parent t.1
    (made, s, t.2 ++ [.make parent])
  writeFile path bytes t :=
    let (wrote, s) := host.writeFile path bytes t.1
    (wrote, s, t.2 ++ [.write path bytes])
  run := l.recorded.run
  removeTree directory t := (host.removeTree directory t.1, t.2 ++ [.remove directory])
  isFile t := host.isFile t.1
  searchPath t := host.searchPath t.1

/-- To keep a record changes nothing else. -/
theorem recorded_views (host : Host σ) (l : Launcher σ) :
    (host.recorded l).Views (host.launching l) Prod.fst where
  makeStaging _ _ := rfl
  writeFile _ _ _ := rfl
  run command milliseconds t := by
    change l.run command milliseconds t.1 = Prod.map id Prod.fst (l.recorded.run ..)
    rcases hspawn : l.spawn command t.1 with ⟨cause | child, started⟩ <;>
      simp [Launcher.run, Launcher.recorded, hspawn]
  removeTree _ _ := rfl
  isFile _ := rfl
  searchPath _ := rfl

end Host

/-! ### The calls of an assembly -/

namespace Assembler

/-- **The courses of an assembly**, as the calls that are made: it is refused, or it gets as far as
the directory, the source, the start of the assembler, or its end. -/
inductive Course (host : Host σ) (l : Launcher σ) (a : AssemblerSettings) (source : String)
    (s : σ) : List (Host.Call σ) → Prop
  | refused : a.maxSourceBytes.toNat < source.utf8ByteSize → Course host l a source s []
  | notMade : source.utf8ByteSize ≤ a.maxSourceBytes.toNat →
      Course host l a source s [.make a.stagingDir]
  | notWritten (area : StagingArea) : source.utf8ByteSize ≤ a.maxSourceBytes.toNat →
      Course host l a source s
        [.make a.stagingDir, .write area.source (Utf8.encode source.toList),
          .remove area.directory]
  | notStarted {area : StagingArea} {staged : σ} :
      source.utf8ByteSize ≤ a.maxSourceBytes.toNat →
      StagingArea.create host a.stagingDir source s = (.ok area, staged) →
      Course host l a source s
        [.make a.stagingDir, .write area.source (Utf8.encode source.toList),
          .spawn (invocation a area) staged, .remove area.directory]
  | started {area : StagingArea} {staged : σ} (child : Nat) :
      source.utf8ByteSize ≤ a.maxSourceBytes.toNat →
      StagingArea.create host a.stagingDir source s = (.ok area, staged) →
      Course host l a source s
        [.make a.stagingDir, .write area.source (Utf8.encode source.toList),
          .spawn (invocation a area) staged, .await child, .release child,
          .remove area.directory]

variable {host : Host σ} {l : Launcher σ} {a : AssemblerSettings} {source : String} {s : σ}
  {calls : List (Host.Call σ)}

/-- No directory is made twice. -/
theorem Course.countP_isMake (h : Course host l a source s calls) :
    calls.countP Host.Call.isMake ≤ 1 := by
  cases h <;> simp [List.countP_cons, Host.Call.isMake]

/-- No process is started twice. -/
theorem Course.countP_isSpawn (h : Course host l a source s calls) :
    calls.countP Host.Call.isSpawn ≤ 1 := by
  cases h <;> simp [List.countP_cons, Host.Call.isSpawn]

/-- For a source that is within its limit, some call is made. -/
theorem Course.ne_nil (h : Course host l a source s calls)
    (hfits : source.utf8ByteSize ≤ a.maxSourceBytes.toNat) : calls ≠ [] := by
  cases h with
  | refused hlarge => exact absurd hlarge (Nat.not_lt.2 hfits)
  | notMade | notWritten | notStarted | started => simp

/-- A process is started with the command for a staging area that holds the source. -/
theorem Course.of_spawn_mem (h : Course host l a source s calls) {command : Invocation} {found : σ}
    (hmem : .spawn command found ∈ calls) :
    ∃ area, StagingArea.create host a.stagingDir source s = (.ok area, found) ∧
      command = invocation a area := by
  cases h with
  | refused | notMade | notWritten => simp at hmem
  | @notStarted area staged _ hcreate | @started area staged _ _ hcreate =>
      obtain ⟨rfl, rfl⟩ : command = invocation a area ∧ found = staged := by simpa using hmem
      exact ⟨area, hcreate, rfl⟩

/-- A file is written with the source. -/
theorem Course.of_write_mem (h : Course host l a source s calls) {path : String} {bytes : Bytes}
    (hmem : .write path bytes ∈ calls) : bytes = Utf8.encode source.toList := by
  cases h with
  | refused | notMade => simp at hmem
  | notWritten | notStarted | started =>
      obtain ⟨-, rfl⟩ : _ ∧ bytes = Utf8.encode source.toList := by simpa using hmem
      rfl

/-- **An assembly takes one of its courses.** -/
theorem course_assemble (host : Host σ) (l : Launcher σ) (a : AssemblerSettings) (source : String)
    (s : σ) : Course host l a source s (assemble (host.recorded l) a source (s, [])).state.2 := by
  unfold assemble
  split
  · rename_i hlarge
    exact .refused hlarge
  rename_i hfits
  have hfits : source.utf8ByteSize ≤ a.maxSourceBytes.toNat := Nat.not_lt.1 hfits
  -- the record is read off the results of the calls one after the other
  rcases hmake : host.makeStaging a.stagingDir s with ⟨fault | directory, made⟩
  case error =>
    simpa [StagingArea.create, Host.recorded, hmake] using Course.notMade hfits
  rcases hwrite : host.writeFile (StagingArea.source ⟨directory⟩) (Utf8.encode source.toList) made
    with ⟨fault | ⟨⟩, staged⟩
  case error =>
    simpa [StagingArea.create, Host.recorded, hmake, hwrite] using
      Course.notWritten ⟨directory⟩ hfits
  have hcreate : StagingArea.create host a.stagingDir source s = (.ok ⟨directory⟩, staged) := by
    simp [StagingArea.create, hmake, hwrite]
  rcases hspawn : l.spawn (invocation a ⟨directory⟩) staged with ⟨cause | child, started⟩
  case error =>
    simpa [StagingArea.create, Host.recorded, Launcher.run, Launcher.recorded, hmake, hwrite,
      hspawn] using Course.notStarted hfits hcreate
  simpa [StagingArea.create, Host.recorded, Launcher.run, Launcher.recorded, hmake, hwrite,
    hspawn] using Course.started child hfits hcreate

end Assembler

end AssemblyGate
