/-
**Readiness and running.**

The readiness probe looks for a regular file where the assembler is looked for when it is run, and
does not ask who may run it.  If anyone may run the file that it finds, that file is also what the
search for the program comes to, and no submission to the same machine is refused because no program
is found: staging its source takes nothing away.  A file that nobody may run makes the probe answer
and every submission fail.

Main definitions:

* `AssemblyGate.Machine.Excuse` — why a command is not started although there is a program.

Main results:

* `AssemblyGate.Validation.notStarted_of_unavailable` — which submissions are told that the
  assembler is unavailable;
* `AssemblyGate.Service.ready_finds_program` — **what readiness promises**.
-/
import AssemblyGate.Proofs.Posix.ProgramSearch
import AssemblyGate.Proofs.Service.Confidentiality
import Mathlib

set_option autoImplicit false

namespace AssemblyGate

/-- Why a command is not started although there is a program for it: a word of the command cannot be
handed over, the look-up of an earlier place ends the search, or the program itself cannot be
run. -/
inductive Machine.Excuse (m : Machine) (i : Invocation) (program : ByteText) : Fault → Prop
  | unspeakable : isUnspeakable i = true → Excuse m i program .nulInArgument
  | barred {e : Errno} : m.Bars (m.placesOf i.program) e → Excuse m i program (.os e)
  | broken {e e' : Errno} : m.image program (i.arguments.map ByteText.ofString) = .error e' →
      (¬Machine.Passes e' → e = e') → Excuse m i program (.os e)

/-- A command for which there is a program is not started for one of these reasons. -/
theorem Machine.excuse_of_run {m : Machine} {i : Invocation} {limit : Nat} {cause : Fault}
    {program : ByteText} (h : m.first? Node.isRunnable i.program = some program)
    (hrun : (m.run i limit).1 = .notStarted cause) : m.Excuse i program cause := by
  rcases notStarted_of_run hrun with ⟨hspeak, rfl⟩ | ⟨e, hstarted, rfl⟩
  · exact .unspeakable hspeak
  rcases started_of_first? h with ⟨e', hbars, hstarted'⟩ | hfound
  · obtain rfl : e = e' := Except.error.inj (hstarted.symm.trans hstarted')
    exact .barred hbars
  cases himage : m.image program (i.arguments.map ByteText.ofString) with
  | error e' =>
      refine .broken himage fun hpasses => ?_
      have hsame := hfound fun e'' he'' => Except.error.inj (himage.symm.trans he'') ▸ hpasses
      exact Except.error.inj (hstarted.symm.trans (hsame.trans himage))
  | ok image =>
      have hsame := hfound fun e'' he'' => by cases himage.symm.trans he''
      cases hstarted.symm.trans (hsame.trans himage)

namespace Validation

variable {σ : Type}

/-- A submission that is told that the assembler is unavailable has been staged, and its command was
not started. -/
theorem notStarted_of_unavailable {host : Host σ} {settings : Settings} {r : Request} {s : σ}
    (hstatus : (validate host settings r s).response.status = 500)
    (hbody : (validate host settings r s).response.body =
      Utf8.encode (Answer.errorObject "assembler unavailable").render) :
    ∃ source area staged cause, Stages host settings r s source area staged ∧
      runs host settings area staged = .notStarted cause := by
  -- no other obstacle has the same status and the same body
  rcases finishes_or_stops host settings r s with
    ⟨area, status, stderr, hfinishes⟩ | ⟨response, hstops⟩
  · obtain ⟨message, -, -, hresponse⟩ := validate_of_finishes hfinishes
    rw [hresponse] at hstatus
    cases hstatus
  rw [(validate_of_stops hstops).1] at hstatus hbody
  cases hstops with
  | notStarted hstages hrun => exact ⟨_, _, _, _, hstages, hrun⟩
  | declaredOver | bodyOver | bodyBroken | noSource => exact absurd hstatus (by decide)
  | sourceOver | overdue =>
      rw [status_error] at hstatus
      cases hstatus
  | notMade | notWritten | notCollected =>
      rw [Answer.error, Answer.finish_jsonDraft] at hbody
      exact absurd hbody (by decide +kernel)

/-- Staging a source takes nothing away. -/
theorem Stages.grows {settings : Settings} {r : Request} {m staged : Machine} {source : String}
    {area : StagingArea} (h : Stages Machine.host settings r m source area staged) :
    m.Grows staged := by
  obtain ⟨made, hmake, hwrite⟩ := h.creates
  simp only [Machine.host] at hmake
  exact (Machine.Grows.makeStaging hmake).trans (.writeFile hwrite)

end Validation

namespace Service

open Assembler (isAvailable invocation)
open Validation (Stages runs)

/-- The readiness probe answers with 200 exactly where the assembler is found. -/
theorem status_ready_iff {σ : Type} {host : Host σ} {settings : Settings} {probe : Request}
    (hprobe : destinationOf settings probe = .readiness) (timing : Timing) (s : σ) :
    (handle host settings timing probe s).response.status = 200 ↔
      isAvailable host settings.assembler.binary s = true := by
  have hfound : (Answer.health 200 "ok").response.status = 200 := rfl
  have hmissing : (Answer.health 503 "assembler unavailable").response.status = 503 := rfl
  rw [EndsIn.response_probed timing (.probed hprobe)]
  cases isAvailable host settings.assembler.binary s with
  | true => exact iff_of_true hfound rfl
  | false => exact iff_of_false (fun h => absurd (hmissing.symm.trans h) (by decide)) (by decide)

/-- **What readiness promises.**  The readiness probe answers with 200 where the assembler is found.
Then a regular file stands at one of the places of the assembler, and if anyone may run the first of
them, it is the first one that can be run.  If any of them can be run, every command for the
assembler comes to what the first such file comes to, unless the look-up of an earlier place ends
the search, or the file fails in a way that is passed over; and a submission to the same machine
that is told that the assembler is unavailable was staged where there still is such a file.  If none
can be run, no command for the assembler runs anything. -/
theorem ready_finds_program (settings : Settings) (m : Machine) :
    (∀ (timing : Timing) (probe : Request), destinationOf settings probe = .readiness →
      ((handle Machine.host settings timing probe m).response.status = 200 ↔
        isAvailable Machine.host settings.assembler.binary m = true)) ∧
    (isAvailable Machine.host settings.assembler.binary m = true →
      ∃ file, m.first? Node.isFile settings.assembler.binary = some file ∧
        (m.isSuch Node.isRunnable file = true →
          m.first? Node.isRunnable settings.assembler.binary = some file)) ∧
    (∀ program, m.first? Node.isRunnable settings.assembler.binary = some program →
      (∀ i : Invocation, i.program = settings.assembler.binary →
        (∃ e, m.Bars (m.placesOf i.program) e ∧ m.started i = .error e) ∨
        ((∀ e, m.image program (i.arguments.map ByteText.ofString) = .error e →
            ¬Machine.Passes e) →
          m.started i = m.image program (i.arguments.map ByteText.ofString))) ∧
      ∀ (timing : Timing) (post : Request), IsSubmission settings post →
        (handle Machine.host settings timing post m).response.status = 500 →
        (handle Machine.host settings timing post m).response.body =
          Utf8.encode (Answer.errorObject "assembler unavailable").render →
        ∃ source area staged cause there, Stages Machine.host settings post m source area staged ∧
          runs Machine.host settings area staged = .notStarted cause ∧
          staged.first? Node.isRunnable settings.assembler.binary = some there ∧
          staged.Excuse (invocation settings.assembler area) there cause) ∧
    (m.first? Node.isRunnable settings.assembler.binary = none →
      ∀ i : Invocation, i.program = settings.assembler.binary → ∃ e, m.started i = .error e) := by
  refine ⟨fun timing probe hprobe => status_ready_iff hprobe timing m, ?_, ?_, ?_⟩
  · intro havailable
    obtain ⟨file, hfile⟩ := Machine.exists_first?_of_isAvailable havailable
    exact ⟨file, hfile, Machine.first?_isRunnable_of_isFile hfile⟩
  · intro program hprogram
    refine ⟨fun i hi => Machine.started_of_first? (hi ▸ hprogram), ?_⟩
    intro timing post hpost hstatus hbody
    rw [response_handle, destinationOf_eq_validation_iff.2 hpost] at hstatus hbody
    obtain ⟨source, area, staged, cause, hstages, hrun⟩ :=
      Validation.notStarted_of_unavailable hstatus hbody
    -- it need not be the same file: a place in front of it may lead through the staging area
    obtain ⟨there, hthere⟩ := Machine.exists_first?_of_grows hstages.grows hprogram
    exact ⟨source, area, staged, cause, there, hstages, hrun, hthere,
      Machine.excuse_of_run hthere hrun⟩
  · exact fun hnone i hi => Machine.started_of_none (hi ▸ hnone)

/-! ### A machine with one tool -/

/-- A machine with one tool, which its mode lets be run or not, and with staging areas; it has made
so many files, changes and areas. -/
def toolMachine (mode : Nat) (areas : List (ByteText × Node)) (files changes stagings : Nat) :
    Machine where
  root := .directory 0o755
    [("opt".toList, .directory 0o755 [("as".toList, .file ⟨1, mode, 0⟩ [])]),
      ("tmp".toList, .directory 0o777 areas)]
  current := []
  environment := [("PATH", "/opt")]
  nextFile := files + 1
  changes := changes
  stagings := stagings
  clock := 0
  stdout := []
  stderr := []

/-- The machine before anything is staged. -/
def toolIdle (mode : Nat) : Machine := toolMachine mode [] 1 0 0

/-- A staging area with the given files. -/
def toolArea (files : List (ByteText × Node)) : List (ByteText × Node) :=
  [("asm-000001".toList, .directory 0o700 files)]

/-- The machine with a submission staged. -/
def toolStaged (mode : Nat) : Machine :=
  toolMachine mode (toolArea [("input.S".toList, .file ⟨2, 0o644, 2⟩ (bytesOf "nop"))]) 2 3 1

theorem makeStaging_toolIdle (mode : Nat) :
    (toolIdle mode).makeStaging "/tmp" =
      (.ok "/tmp/asm-000001", toolMachine mode (toolArea []) 1 1 1) := by
  have hname : (toolIdle mode).stagingPath "/tmp" = "/tmp/asm-000001" := by
    have hfirst : (toolIdle 0).stagingPath "/tmp" = "/tmp/asm-000001" := by decide +kernel
    exact hfirst
  have hbytes : ByteText.ofString "/tmp/asm-000001" = "/tmp/asm-000001".toList := by
    decide +kernel
  have hmake : Machine.makeDirectory (toolMachine mode [] 1 0 1) "/tmp/asm-000001".toList
      Machine.stagingMode = .ok (toolMachine mode (toolArea []) 1 1 1) := by cbv
  unfold toolMachine at hmake
  simp only [Machine.makeStaging, hname, hbytes]
  rw [if_neg (by decide)]
  simp only [toolIdle, toolMachine, hmake]

theorem writeFile_toolMachine (mode : Nat) :
    Machine.host.writeFile "/tmp/asm-000001/input.S" (bytesOf "nop")
      (toolMachine mode (toolArea []) 1 1 1) = (.ok (), toolStaged mode) := by
  have hnul : Machine.hasNul "/tmp/asm-000001/input.S" = false := by decide
  have hbytes : ByteText.ofString "/tmp/asm-000001/input.S" = "/tmp/asm-000001/input.S".toList := by
    decide +kernel
  have hopen : (toolMachine mode (toolArea []) 1 1 1).openFile "/tmp/asm-000001/input.S".toList
      ⟨true, false, Machine.usualFileMode⟩ = .ok (.file 2,
        toolMachine mode (toolArea [("input.S".toList, .file ⟨2, 0o644, 1⟩ [])]) 2 2 1) := by cbv
  have happend : (toolMachine mode (toolArea [("input.S".toList, .file ⟨2, 0o644, 1⟩ [])]) 2 2
      1).append 2 (bytesOf "nop") = toolStaged mode := by cbv
  simp only [Machine.host, Machine.withPath, hnul, hbytes, Machine.write, hopen, happend]
  rfl

theorem stages_toolIdle (mode : Nat) :
    Stages Machine.host (Settings.standard.withTool nativeTool) nopSubmission (toolIdle mode)
      "nop" ⟨"/tmp/asm-000001"⟩ (toolStaged mode) := by
  have hfits : "nop".utf8ByteSize ≤ Settings.standard.assembler.maxSourceBytes.toNat := by
    decide +kernel
  have hparent : (toolIdle mode).temporaryDirectory = "/tmp" := rfl
  have hsource : StagingArea.source ⟨"/tmp/asm-000001"⟩ = "/tmp/asm-000001/input.S" := by
    decide +kernel
  have hmake : Machine.host.makeStaging none (toolIdle mode) =
      (.ok "/tmp/asm-000001", toolMachine mode (toolArea []) 1 1 1) := by
    simp only [Machine.host, Option.getD_none, hparent, makeStaging_toolIdle]
  refine ⟨reaches_nopSubmission nativeTool, hfits, _, hmake, ?_⟩
  rw [hsource]
  exact writeFile_toolMachine mode

/-- A request of the readiness probe. -/
def readinessProbe : Request where
  method := "GET"
  target := ⟨none, "/readyz", none⟩
  version := "1.1"
  headers := []
  frames := []
  peer := .v4 ⟨127, 0, 0, 1⟩ 40000

theorem destinationOf_readinessProbe (tool : ToolSettings) :
    destinationOf (Settings.standard.withTool tool) readinessProbe = .readiness := by
  have hplace : destination Settings.standard.health "GET" "/readyz" = .readiness := by decide
  exact hplace

/-- Where the search for the tool fails, a submission is told that it is unavailable. -/
theorem unavailable_toolIdle (mode : Nat) (e : Errno) (timing : Timing)
    (h : ∀ arguments,
      (toolStaged mode).search (some "/opt".toList) "as".toList arguments = .error e) :
    runs Machine.host (Settings.standard.withTool nativeTool) ⟨"/tmp/asm-000001"⟩
        (toolStaged mode) = .notStarted (.os e) ∧
      (handle Machine.host (Settings.standard.withTool nativeTool) timing nopSubmission
        (toolIdle mode)).response =
          (Answer.error 500 "assembler unavailable").response.withCommonHeaders
            (signature Settings.standard) := by
  have hrun : runs Machine.host (Settings.standard.withTool nativeTool) ⟨"/tmp/asm-000001"⟩
      (toolStaged mode) = .notStarted (.os e) := by
    have hspeak : Machine.isUnspeakable (invocation
        (Settings.standard.withTool nativeTool).assembler ⟨"/tmp/asm-000001"⟩) = false := by
      decide +kernel
    have hpath : ((toolStaged mode).getVariable "PATH").map ByteText.ofString =
        some "/opt".toList := rfl
    have hname : ByteText.ofString (invocation (Settings.standard.withTool nativeTool).assembler
        ⟨"/tmp/asm-000001"⟩).program = "as".toList := rfl
    simp only [runs, Machine.host, Machine.run, hspeak, hpath, hname, h]
    rfl
  refine ⟨hrun, ?_⟩
  rw [response_handle,
    destinationOf_eq_validation_iff.2 (isSubmission_nopSubmission nativeTool), answerAt,
    (Validation.validate_of_stops (.notStarted (stages_toolIdle mode) hrun)).1]
  rfl

/-- Where anyone may run the tool it is what is found, also by a submission that fails because the
tool is no program. -/
theorem ready_finds_program_executable :
    destinationOf (Settings.standard.withTool nativeTool) readinessProbe = .readiness ∧
      (handle Machine.host (Settings.standard.withTool nativeTool) ⟨⟨0, 0, 0⟩, 5⟩ readinessProbe
        (toolIdle 0o755)).response.status = 200 ∧
      (toolIdle 0o755).first? Node.isRunnable "as" = some "/opt/as".toList ∧
      (handle Machine.host (Settings.standard.withTool nativeTool) ⟨⟨0, 0, 0⟩, 5⟩ nopSubmission
        (toolIdle 0o755)).response.status = 500 ∧
      ∃ area staged cause there,
        runs Machine.host (Settings.standard.withTool nativeTool) area staged = .notStarted cause ∧
        staged.first? Node.isRunnable "as" = some there ∧
        staged.Excuse (invocation (Settings.standard.withTool nativeTool).assembler area) there
          cause := by
  have hprobe := destinationOf_readinessProbe nativeTool
  obtain ⟨hready, hfiles, hprograms, -⟩ :=
    ready_finds_program (Settings.standard.withTool nativeTool) (toolIdle 0o755)
  have havailable : isAvailable Machine.host "as" (toolIdle 0o755) = true := by cbv
  obtain ⟨file, hfile, hrunnable⟩ := hfiles havailable
  have hfound : (toolIdle 0o755).first? Node.isFile "as" = some "/opt/as".toList := by cbv
  obtain rfl : file = "/opt/as".toList := Option.some.inj (hfile.symm.trans hfound)
  have hprogram := hrunnable (by cbv)
  have hanswer := (unavailable_toolIdle 0o755 Errno.execFormat ⟨⟨0, 0, 0⟩, 5⟩
    fun arguments => by cbv).2
  have hstatus : (handle Machine.host (Settings.standard.withTool nativeTool) ⟨⟨0, 0, 0⟩, 5⟩
      nopSubmission (toolIdle 0o755)).response.status = 500 := by
    rw [hanswer]
    rfl
  obtain ⟨-, area, staged, cause, there, -, hrun, hthere, hexcuse⟩ :=
    (hprograms _ hprogram).2 _ _ (isSubmission_nopSubmission nativeTool) hstatus
      (by rw [hanswer]; rfl)
  exact ⟨hprobe, (hready _ _ hprobe).2 havailable, hprogram, hstatus, area, staged, cause, there,
    hrun, hthere, hexcuse⟩

/-- **A file that nobody may run makes the probe answer.**  On a machine where it is all that is
found under the name of the assembler, the readiness probe answers with 200, and a submission is
told that the assembler is unavailable, for there is nothing that can be run. -/
theorem ready_without_program :
    (toolIdle 0o644).first? Node.isRunnable "as" = none ∧
      destinationOf (Settings.standard.withTool nativeTool) readinessProbe = .readiness ∧
      (handle Machine.host (Settings.standard.withTool nativeTool) ⟨⟨0, 0, 0⟩, 5⟩ readinessProbe
        (toolIdle 0o644)).response.status = 200 ∧
      IsSubmission (Settings.standard.withTool nativeTool) nopSubmission ∧
      (handle Machine.host (Settings.standard.withTool nativeTool) ⟨⟨0, 0, 0⟩, 5⟩ nopSubmission
        (toolIdle 0o644)).response =
          (Answer.error 500 "assembler unavailable").response.withCommonHeaders
            (signature Settings.standard) ∧
      runs Machine.host (Settings.standard.withTool nativeTool) ⟨"/tmp/asm-000001"⟩
        (toolStaged 0o644) = .notStarted (.os Errno.access) := by
  obtain ⟨hrun, hanswer⟩ := unavailable_toolIdle 0o644 Errno.access ⟨⟨0, 0, 0⟩, 5⟩
    fun arguments => by cbv
  have hprobe := destinationOf_readinessProbe nativeTool
  have havailable : isAvailable Machine.host "as" (toolIdle 0o644) = true := by cbv
  exact ⟨by cbv, hprobe, (status_ready_iff hprobe _ _).2 havailable,
    isSubmission_nopSubmission nativeTool, hanswer, hrun⟩

end Service

end AssemblyGate
