/-
**Nothing about the paths of the service reaches a client.**

A response tells how far a request got, and what the assembler said apart from the two paths.  It
does not tell what the assembler is called and how it is run, where sources are staged, what the
staging areas are named, or what the machine had to say about a failure.  Two runs of the service on
one request may differ in all of that; if they end in the same way, their responses are the same
byte for byte.

Main definitions:

* `AssemblyGate.ToolSettings`, `AssemblyGate.Settings.withTool` — the settings that a response must
  not depend on, and settings with others in their place;
* `AssemblyGate.Service.Ending` — the ways in which a run ends, without a word about paths;
* `AssemblyGate.Service.Unmistakable` — a staging area whose name occurs nowhere but in its paths;
* `AssemblyGate.Service.EndsIn` — the way in which a run ends.

Main results:

* `AssemblyGate.Service.endsIn_or_finishes` — every run ends in one of the ways, or with an
  assembler that has said something;
* `AssemblyGate.Service.response_eq_of_endsIn` — **runs that end in the same way answer the same**.
-/
import AssemblyGate.Proofs.Assembler.Interleaving
import AssemblyGate.Proofs.Service.Effects
import AssemblyGate.Proofs.Settings.Conversion

set_option autoImplicit false

namespace AssemblyGate

/-! ### What a response must not depend on -/

/-- The settings that say how the assembler is run. -/
structure ToolSettings where
  binary : String
  flags : List String
  locale : String
  stagingDir : Option String

/-- The same settings with another tool. -/
def Settings.withTool (settings : Settings) (tool : ToolSettings) : Settings :=
  { settings with
    assembler := { settings.assembler with
      binary := tool.binary, flags := tool.flags, locale := tool.locale
      stagingDir := tool.stagingDir } }

namespace AssembleError

/-- The kinds of errors. -/
inductive Kind
  | sourceTooLarge
  | staging
  | spawn
  | wait
  | timeout
deriving DecidableEq

/-- The kind of an error, whatever it says. -/
def kind : AssembleError → Kind
  | .sourceTooLarge .. => .sourceTooLarge
  | .staging _ => .staging
  | .spawn .. => .spawn
  | .wait _ => .wait
  | .timeout _ => .timeout

/-- Errors of one kind have the same status. -/
theorem status_congr {e e' : AssembleError} (h : e.kind = e'.kind) : e.status = e'.status := by
  cases e <;> cases e' <;> first | rfl | cases h

/-- Errors of one kind have the same text for the client. -/
theorem publicReason_congr {e e' : AssembleError} (h : e.kind = e'.kind) :
    e.publicReason = e'.publicReason := by
  cases e <;> cases e' <;> first | rfl | cases h

end AssembleError

namespace Service

open Validation (Reaches Stages Finishes bodyLimit intake takes_intake_iff)

variable {σ σ' : Type}

/-! ### How a run ends -/

/-- The ways in which a run ends: the assembler is not reached, a probe looks for it, no outcome is
produced, or it ends and has said something. -/
inductive Ending
  | unreached
  | probed (available : Bool)
  | failed (kind : AssembleError.Kind)
  | ended (status : ExitStatus) (speech : Speech)

/-- A staging area whose name is drawn, in a directory given from the root, and occurs neither in
that directory nor in what a client is to see. -/
structure Unmistakable (area : StagingArea) (shown : List Char) (parent name : String) : Prop where
  placed : area.directory = Path.join parent name
  rooted : Path.isAbsolute parent = true
  drawn : StagingName name
  apart : ¬name.toList <:+: parent.toList
  unsaid : ¬name.toList <:+: shown

/-- The way in which a run ends. -/
inductive EndsIn (host : Host σ) (settings : Settings) (r : Request) (s : σ) : Ending → Prop
  | unreached : destinationOf settings r ≠ .readiness →
      ¬(IsSubmission settings r ∧ ∃ source, Reaches settings r source) →
      EndsIn host settings r s .unreached
  | probed : destinationOf settings r = .readiness →
      EndsIn host settings r s (.probed (Assembler.isAvailable host settings.assembler.binary s))
  | failed {source : String} {e : AssembleError} : IsSubmission settings r →
      Reaches settings r source →
      (Assembler.assemble host settings.assembler source s).outcome = .error e →
      EndsIn host settings r s (.failed e.kind)
  | ended {source : String} {area : StagingArea} {staged : σ} {status : ExitStatus}
      {speech : Speech} {parent name : String} : IsSubmission settings r →
      Stages host settings r s source area staged →
      Validation.runs host settings area staged
        = .ended status (speech.bytes (Mention.path area)) →
      Unmistakable area (speech.shown settings.assembler.placeholder) parent name →
      EndsIn host settings r s (.ended status speech)

/-- Every run ends in one of these ways, or the assembler has ended within its time; then its words
are to be told apart into literal pieces and mentions of the paths. -/
theorem endsIn_or_finishes (host : Host σ) (settings : Settings) (r : Request) (s : σ) :
    (∃ ending, EndsIn host settings r s ending) ∨
      IsSubmission settings r ∧
        ∃ area status stderr, Finishes host settings r s area status stderr := by
  by_cases hready : destinationOf settings r = .readiness
  · exact .inl ⟨_, .probed hready⟩
  by_cases hreaches : IsSubmission settings r ∧ ∃ source, Reaches settings r source
  case neg => exact .inl ⟨_, .unreached hready hreaches⟩
  obtain ⟨hsubmission, source, hreaches⟩ := hreaches
  cases houtcome : (Assembler.assemble host settings.assembler source s).outcome with
  | error e => exact .inl ⟨_, .failed hsubmission hreaches houtcome⟩
  | ok outcome =>
      refine .inr ⟨hsubmission, ?_⟩
      -- a request that is stopped has no outcome
      rcases Validation.finishes_or_stops host settings r s with hfinishes | ⟨response, hstops⟩
      · exact hfinishes
      · have hcompiled := (Validation.validate_of_stops hstops).2
        rw [(Validation.validate_of_reaches host s hreaches).2,
          (Validation.assembleReply_ok houtcome).2] at hcompiled
        cases hcompiled

/-! ### The response to each ending -/

@[simp] theorem destinationOf_withTool (settings : Settings) (tool : ToolSettings) (r : Request) :
    destinationOf (settings.withTool tool) r = destinationOf settings r := rfl

@[simp] theorem bodyLimit_withTool (settings : Settings) (tool : ToolSettings) :
    bodyLimit (settings.withTool tool) = bodyLimit settings := rfl

@[simp] theorem signature_withTool (settings : Settings) (tool : ToolSettings) :
    signature (settings.withTool tool) = signature settings := rfl

variable {host : Host σ} {host' : Host σ'} {settings : Settings} {r : Request} {s : σ} {s' : σ'}

/-- The response to a submission with a source is that of its assembly. -/
theorem response_handle_of_reaches (host : Host σ) (timing : Timing) (s : σ) {source : String}
    (hsubmission : IsSubmission settings r) (hreaches : Reaches settings r source) :
    (handle host settings timing r s).response =
      (Validation.assembleReply host settings.assembler source s).response.withCommonHeaders
        (signature settings) := by
  rw [response_handle, destinationOf_eq_validation_iff.2 hsubmission, answerAt,
    (Validation.validate_of_reaches host s hreaches).1]

/-- A request that does not reach the assembler is answered without it. -/
theorem EndsIn.response_unreached {tool : ToolSettings} (timing timing' : Timing) (host' : Host σ')
    (tool' : ToolSettings) (s' : σ') (h : EndsIn host (settings.withTool tool) r s .unreached) :
    (handle host (settings.withTool tool) timing r s).response =
      (handle host' (settings.withTool tool') timing' r s').response := by
  cases h with
  | unreached hready hunreached =>
      rw [response_handle, response_handle, signature_withTool, signature_withTool,
        destinationOf_withTool, destinationOf_withTool]
      cases hdestination : destinationOf settings r with
      | liveness | nowhere | preflight | refusal => rfl
      | readiness => exact absurd hdestination hready
      | validation =>
          rw [answerAt, answerAt, Validation.validate_eq_reply, Validation.validate_eq_reply,
            bodyLimit_withTool, bodyLimit_withTool]
          cases hintake : intake (bodyLimit settings) r with
          | answered answer events => rfl
          | taken source events =>
              have hreaches : Reaches (settings.withTool tool) r source :=
                takes_intake_iff.1 ⟨events, hintake⟩
              exact absurd ⟨destinationOf_eq_validation_iff.1 hdestination, source, hreaches⟩
                hunreached

theorem EndsIn.response_probed {available : Bool} (timing : Timing)
    (h : EndsIn host settings r s (.probed available)) :
    (handle host settings timing r s).response =
      (if available then Answer.health 200 "ok"
        else Answer.health 503 "assembler unavailable").response.withCommonHeaders
          (signature settings) := by
  cases h with
  | probed hready =>
      rw [response_handle, hready, answerAt, readiness]
      cases Assembler.isAvailable host settings.assembler.binary s <;> rfl

theorem EndsIn.response_failed {kind : AssembleError.Kind} (timing : Timing)
    (h : EndsIn host settings r s (.failed kind)) :
    ∃ e : AssembleError, e.kind = kind ∧
      (handle host settings timing r s).response =
        (Answer.error e.status e.publicReason).response.withCommonHeaders
          (signature settings) := by
  cases h with
  | @failed source e hsubmission hreaches houtcome =>
      refine ⟨e, rfl, ?_⟩
      rw [response_handle_of_reaches host timing s hsubmission hreaches,
        (Validation.assembleReply_error houtcome).1]

/-- What an assembler that ended and said something comes to. -/
def outcomeOf (placeholder : String) (status : ExitStatus) (speech : Speech) : Outcome :=
  Outcome.ofEnd status (speech.shown placeholder)

theorem EndsIn.response_ended {status : ExitStatus} {speech : Speech} (timing : Timing)
    (h : EndsIn host settings r s (.ended status speech)) :
    (handle host settings timing r s).response =
      (Answer.result 200 (outcomeOf settings.assembler.placeholder status speech).accepted
        (outcomeOf settings.assembler.placeholder status speech).message).response.withCommonHeaders
          (signature settings) := by
  cases h with
  | @ended source area staged _ _ parent name hsubmission hstages hrun hname =>
      obtain ⟨directory⟩ := area
      obtain rfl : directory = Path.join parent name := hname.placed
      have hmarks := marks_of_stagingName hname.rooted hname.drawn hname.apart
      have hpaths := path_eq_markedPath hname.rooted hname.drawn
      have hwords := StagingArea.sanitize_bytes hmarks hpaths hname.unsaid
      have houtcome := Validation.outcome_of_stages hstages
      rw [hrun, Assembler.conclude, hwords] at houtcome
      rw [response_handle_of_reaches host timing s hsubmission hstages.reaches,
        (Validation.assembleReply_ok houtcome).1]
      rfl

/-! ### Two runs -/

/-- **Runs that end in the same way answer the same.**  Two runs on one request, with settings that
differ at most in the assembler's program, flags, language and staging directory, on any machines
and at any times, have the same response, byte for byte, if they end in the same way. -/
theorem response_eq_of_endsIn {tool tool' : ToolSettings} {ending : Ending}
    (timing timing' : Timing)
    (h : EndsIn host (settings.withTool tool) r s ending)
    (h' : EndsIn host' (settings.withTool tool') r s' ending) :
    (handle host (settings.withTool tool) timing r s).response =
      (handle host' (settings.withTool tool') timing' r s').response := by
  cases ending with
  | unreached => exact h.response_unreached timing timing' host' tool' s'
  | probed available =>
      rw [h.response_probed timing, h'.response_probed timing']
      rfl
  | failed kind =>
      obtain ⟨e, hkind, hresponse⟩ := h.response_failed timing
      obtain ⟨e', hkind', hresponse'⟩ := h'.response_failed timing'
      have hsame : e.kind = e'.kind := hkind.trans hkind'.symm
      rw [hresponse, hresponse', AssembleError.status_congr hsame,
        AssembleError.publicReason_congr hsame]
      rfl
  | ended status speech =>
      rw [h.response_ended timing, h'.response_ended timing']
      rfl

/-! ### Two machines that gossip -/

/-- What the assembler that gossips says of every source that is not empty. -/
def gossipSpeech : Speech :=
  ⟨[], [(.source, Utf8.encode ": no such opcode, see ".toList), (.result, [10])]⟩

/-- A machine on which it gossips about staging areas in a given directory, under a given name. -/
def gossipHost (parent : {path : String // Path.isAbsolute path = true}) (name : String) :
    Host Store :=
  Workbench.host { gossip with parent := fun _ => .ok parent } fun _ => name

/-- A submission. -/
def nopSubmission : Request where
  method := "POST"
  target := ⟨none, "/assembly/validate/", none⟩
  version := "1.1"
  headers := []
  frames := [.data (bytesOf "\x7b\"assembly\":\"nop\"\x7d")]
  peer := .v4 ⟨127, 0, 0, 1⟩ 40000

theorem isSubmission_nopSubmission (tool : ToolSettings) :
    IsSubmission (Settings.standard.withTool tool) nopSubmission := by
  have hprobe : ¬IsProbePath Settings.standard.health "/assembly/validate/" := by decide
  exact ⟨rfl, .inl rfl, hprobe⟩

theorem reaches_nopSubmission (tool : ToolSettings) :
    Reaches (Settings.standard.withTool tool) nopSubmission "nop" := by
  have hbody : Body.collect (bodyLimit Settings.standard) nopSubmission.frames
      = .ok (bytesOf "\x7b\"assembly\":\"nop\"\x7d") := by decide +kernel
  have hsource : sourceOf? (bytesOf "\x7b\"assembly\":\"nop\"\x7d") = some "nop" := by
    decide +kernel
  have hframes : Validation.intakeFrames (bodyLimit Settings.standard) nopSubmission.frames
      = .taken "nop" [] := by
    simp only [Validation.intakeFrames, hbody, Validation.intakeBody, hsource]
  refine takes_intake_iff.1 ⟨[], ?_⟩
  rw [bodyLimit_withTool, intake, hframes]
  rfl

/-- The run on such a machine ends with what the assembler says. -/
theorem endsIn_gossipHost {parent : {path : String // Path.isAbsolute path = true}} {name : String}
    (tool : ToolSettings) (hname : StagingName name) (hapart : ¬name.toList <:+: parent.1.toList)
    (hunsaid : ¬name.toList <:+: "input.S: no such opcode, see input.o\n".toList) :
    EndsIn (gossipHost parent name) (Settings.standard.withTool tool) nopSubmission bareStore
      (.ended (.exited 1) gossipSpeech) := by
  let area : StagingArea := ⟨Path.join parent.1 name⟩
  let staged := (bareStore.make area.directory).write area.source (Utf8.encode "nop".toList)
  have hfits : "nop".utf8ByteSize ≤ Settings.standard.assembler.maxSourceBytes.toNat := by
    decide +kernel
  have hstages : Stages (gossipHost parent name) (Settings.standard.withTool tool) nopSubmission
      bareStore "nop" area staged :=
    ⟨reaches_nopSubmission tool, hfits, _, rfl, rfl⟩
  have hfound : staged.files area.source = some (Utf8.encode "nop".toList) := if_pos rfl
  have hrun : Validation.runs (gossipHost parent name) (Settings.standard.withTool tool) area staged
      = .ended (.exited 1) (gossipSpeech.bytes (Mention.path area)) := by
    rw [Validation.runs, gossipHost, run_invocation _ area staged rfl, hfound]
    rfl
  have hshown : gossipSpeech.shown Settings.standard.assembler.placeholder
      = "input.S: no such opcode, see input.o\n".toList := by decide +kernel
  exact .ended (isSubmission_nopSubmission tool) hstages hrun
    ⟨rfl, parent.2, hname, hapart, hshown ▸ hunsaid⟩

/-- Two ways of running an assembler. -/
def nativeTool : ToolSettings := ⟨"as", [], "C", none⟩

@[inherit_doc nativeTool]
def crossTool : ToolSettings := ⟨"/opt/arm/as", ["-mthumb"], "en", some "/var/spool"⟩

/-- Two services that run different assemblers in different directories answer the same. -/
theorem response_eq_of_endsIn_gossip :
    EndsIn (gossipHost ⟨"/tmp", by decide⟩ "asm-000000") (Settings.standard.withTool nativeTool)
        nopSubmission bareStore (.ended (.exited 1) gossipSpeech) ∧
      EndsIn (gossipHost ⟨"/var/spool", by decide⟩ "asm-111111")
        (Settings.standard.withTool crossTool) nopSubmission bareStore
        (.ended (.exited 1) gossipSpeech) ∧
      (handle (gossipHost ⟨"/tmp", by decide⟩ "asm-000000")
          (Settings.standard.withTool nativeTool) ⟨⟨0, 0, 0⟩, 5⟩ nopSubmission bareStore).response =
        (handle (gossipHost ⟨"/var/spool", by decide⟩ "asm-111111")
          (Settings.standard.withTool crossTool) ⟨⟨7, 0, 0⟩, 11⟩ nopSubmission
          bareStore).response := by
  have hzeros := (discreet_gossip_zeros "nop").drawn
  have hones := (discreet_gossip_ones "nop").drawn
  have hfirst := @endsIn_gossipHost ⟨"/tmp", by decide⟩ _ nativeTool hzeros
    (by decide +kernel) (by decide +kernel)
  have hsecond := @endsIn_gossipHost ⟨"/var/spool", by decide⟩ _ crossTool hones
    (by decide +kernel) (by decide +kernel)
  exact ⟨hfirst, hsecond, response_eq_of_endsIn _ _ hfirst hsecond⟩

end Service

end AssemblyGate
