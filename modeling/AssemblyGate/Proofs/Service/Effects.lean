/-
**What a request does to the machine.**

Most requests do nothing to it.  Only a submission that has passed every check makes a directory,
and only once the source is in place is a process started; neither happens twice.  All other
requests leave the machine as it was, and those that are no submissions are answered by method and
path alone, apart from the look that the readiness probe takes at the machine.

Main definitions:

* `AssemblyGate.Service.Assembles` — a submission that has passed every check;
* `AssemblyGate.Service.callsOf` — the calls that a request makes;
* `AssemblyGate.Host.KeepsFiles` — what has been written can be read.

Main results:

* `AssemblyGate.Service.map_handle` — an answer is the same on a machine and on one that it views;
* `AssemblyGate.Service.callsOf_ne_nil_iff` — which requests make calls at all;
* `AssemblyGate.Service.effects_handle` — **when the assembler runs**.
-/
import AssemblyGate.Proofs.Assembler.Recording
import AssemblyGate.Proofs.Service.Intake
import AssemblyGate.Proofs.Service.Routing

set_option autoImplicit false

namespace AssemblyGate

variable {σ τ : Type}

/-- What has been written to a file can be read from it. -/
def Host.KeepsFiles (host : Host σ) (read : σ → String → Option Bytes) : Prop :=
  ∀ path bytes s s', host.writeFile path bytes s = (.ok (), s') → read s' path = some bytes

/-- A fresh area holds the source. -/
theorem StagingArea.read_of_create {host : Host σ} {read : σ → String → Option Bytes}
    (hread : host.KeepsFiles read) {parent : Option String} {text : String} {s staged : σ}
    {area : StagingArea} (h : StagingArea.create host parent text s = (.ok area, staged)) :
    read staged area.source = some (Utf8.encode text.toList) := by
  unfold StagingArea.create at h
  rcases hmake : host.makeStaging parent s with ⟨fault | directory, made⟩
  case error => simp [hmake] at h
  rcases hwrite : host.writeFile (StagingArea.source ⟨directory⟩) (Utf8.encode text.toList) made
    with ⟨fault | ⟨⟩, written⟩
  case error => simp [hmake, hwrite] at h
  obtain ⟨rfl, rfl⟩ : (⟨directory⟩ : StagingArea) = area ∧ written = staged := by
    simpa [hmake, hwrite] using h
  exact hread _ _ _ _ hwrite

/-! ### The same answer on another machine -/

/-- The same reply with another view of the condition it leaves. -/
def Reply.map (view : τ → σ) (reply : Reply τ) : Reply σ :=
  ⟨reply.response, reply.compiled, reply.events, view reply.state⟩

namespace Service

open Validation (Reaches bodyLimit intake takes_intake_iff)

section Views

variable {outer : Host τ} {inner : Host σ} {view : τ → σ}

theorem map_assembleReply (h : outer.Views inner view) (a : AssemblerSettings) (source : String)
    (t : τ) :
    Validation.assembleReply inner a source (view t) =
      (Validation.assembleReply outer a source t).map view := by
  unfold Validation.assembleReply
  rw [Assembler.map_assemble h]
  rfl

theorem map_validate (h : outer.Views inner view) (settings : Settings) (r : Request) (t : τ) :
    Validation.validate inner settings r (view t) =
      (Validation.validate outer settings r t).map view := by
  rw [Validation.validate_eq_reply, Validation.validate_eq_reply]
  cases intake (bodyLimit settings) r with
  | answered answer events => rfl
  | taken source events =>
      simp only [Validation.Intake.reply, map_assembleReply h]
      rfl

theorem map_readiness (h : outer.Views inner view) (binary : String) (t : τ) :
    readiness inner binary (view t) = (readiness outer binary t).map view := by
  unfold readiness
  rw [Assembler.isAvailable_eq h]
  split <;> rfl

/-- **An answer is the same on a machine and on one that it views.** -/
theorem map_handle (h : outer.Views inner view) (settings : Settings) (timing : Timing)
    (r : Request) (t : τ) :
    handle inner settings timing r (view t) = (handle outer settings timing r t).map view := by
  have hroute : route inner settings r (view t) = (route outer settings r t).map view := by
    rw [route_eq, route_eq]
    cases destinationOf settings r with
    | readiness => exact map_readiness h settings.assembler.binary t
    | validation => exact map_validate h settings r t
    | liveness | nowhere | preflight | refusal => rfl
  unfold handle
  rw [hroute]
  rfl

end Views

/-! ### Which requests touch the machine -/

/-- A request is a submission. -/
def IsSubmission (settings : Settings) (r : Request) : Prop :=
  r.method = "POST" ∧
    (r.target.path = "/assembly/validate/" ∨ r.target.path = "/assembly/validate") ∧
    ¬IsProbePath settings.health r.target.path

theorem destinationOf_eq_validation_iff {settings : Settings} {r : Request} :
    destinationOf settings r = .validation ↔ IsSubmission settings r :=
  destination_eq_validation_iff

/-- A request is a submission that has passed every check: its declared length, the reading of its
body, the source in it, and the length of the source. -/
structure Assembles (settings : Settings) (r : Request) (source : String) : Prop where
  submission : IsSubmission settings r
  reaches : Reaches settings r source
  fits : source.utf8ByteSize ≤ settings.assembler.maxSourceBytes.toNat

/-- What a submission with a source leaves is what its assembly leaves. -/
theorem state_handle_of_reaches (host : Host σ) {settings : Settings} (timing : Timing)
    {r : Request} (s : σ) {source : String} (hsubmission : IsSubmission settings r)
    (hreaches : Reaches settings r source) :
    (handle host settings timing r s).state =
      (Assembler.assemble host settings.assembler source s).state := by
  obtain ⟨events, hintake⟩ := takes_intake_iff.2 hreaches
  unfold handle
  dsimp only
  rw [route_eq, destinationOf_eq_validation_iff.2 hsubmission, answerAt,
    Validation.validate_eq_reply, hintake]
  rfl

/-- Every other request leaves the machine as it was. -/
theorem state_handle_of_not_reaches (host : Host σ) {settings : Settings} (timing : Timing)
    {r : Request} (s : σ)
    (h : ¬(IsSubmission settings r ∧ ∃ source, Reaches settings r source)) :
    (handle host settings timing r s).state = s := by
  unfold handle
  dsimp only
  rw [route_eq]
  cases hdestination : destinationOf settings r with
  | liveness | nowhere | preflight | refusal => rfl
  | readiness =>
      rw [answerAt, readiness]
      split <;> rfl
  | validation =>
      rw [answerAt, Validation.validate_eq_reply]
      cases hintake : intake (bodyLimit settings) r with
      | answered answer events => rfl
      | taken source events =>
          have hreaches : Reaches settings r source := takes_intake_iff.1 ⟨events, hintake⟩
          exact absurd ⟨destinationOf_eq_validation_iff.1 hdestination, source, hreaches⟩ h

/-- A request whose source is not assembled leaves the machine as it was. -/
theorem state_handle_of_not_assembles (host : Host σ) {settings : Settings} (timing : Timing)
    {r : Request} (s : σ) (h : ¬∃ source, Assembles settings r source) :
    (handle host settings timing r s).state = s := by
  by_cases hreaches : IsSubmission settings r ∧ ∃ source, Reaches settings r source
  case neg => exact state_handle_of_not_reaches host timing s hreaches
  obtain ⟨hsubmission, source, hreaches⟩ := hreaches
  -- the only check that can be left is that of the source's length
  have hlarge : settings.assembler.maxSourceBytes.toNat < source.utf8ByteSize :=
    Nat.lt_of_not_le fun hfits => h ⟨source, hsubmission, hreaches, hfits⟩
  rw [state_handle_of_reaches host timing s hsubmission hreaches, Assembler.assemble,
    if_pos hlarge]

/-! ### The calls of a request -/

/-- The calls that a request makes. -/
def callsOf (host : Host σ) (l : Launcher σ) (settings : Settings) (timing : Timing) (r : Request)
    (s : σ) : List (Host.Call σ) :=
  (handle (host.recorded l) settings timing r (s, [])).state.2

/-- The calls of a submission that has passed every check are those of its assembly. -/
theorem Assembles.course {settings : Settings} {r : Request} {source : String}
    (h : Assembles settings r source) (host : Host σ) (l : Launcher σ) (timing : Timing) (s : σ) :
    Assembler.Course host l settings.assembler source s (callsOf host l settings timing r s) := by
  rw [callsOf, state_handle_of_reaches _ timing _ h.submission h.reaches]
  exact Assembler.course_assemble host l settings.assembler source s

/-- Every other request makes no calls. -/
theorem callsOf_of_not_assembles (host : Host σ) (l : Launcher σ) {settings : Settings}
    (timing : Timing) {r : Request} (s : σ) (h : ¬∃ source, Assembles settings r source) :
    callsOf host l settings timing r s = [] :=
  congrArg Prod.snd (state_handle_of_not_assembles (host.recorded l) timing (s, []) h)

/-- A request makes calls exactly when it is a submission that has passed every check. -/
theorem callsOf_ne_nil_iff (host : Host σ) (l : Launcher σ) (settings : Settings)
    (timing : Timing) (r : Request) (s : σ) :
    callsOf host l settings timing r s ≠ [] ↔ ∃ source, Assembles settings r source := by
  constructor
  · intro hne
    by_contra hnone
    exact hne (callsOf_of_not_assembles host l timing s hnone)
  · rintro ⟨source, hassembles⟩
    exact (hassembles.course host l timing s).ne_nil hassembles.fits

/-! ### Requests that are no submissions -/

/-- The answer to a request that is no submission depends on its method and its path alone. -/
theorem response_handle_congr (host : Host σ) {settings : Settings} (timing timing' : Timing)
    {r r' : Request} (s : σ) (h : ¬IsSubmission settings r) (hmethod : r'.method = r.method)
    (hpath : r'.target.path = r.target.path) :
    (handle host settings timing' r' s).response = (handle host settings timing r s).response := by
  have hdestination : destinationOf settings r' = destinationOf settings r := by
    rw [destinationOf, hmethod, hpath, destinationOf]
  unfold handle
  dsimp only
  rw [route_eq, route_eq, hdestination]
  cases hplace : destinationOf settings r with
  | liveness | readiness | nowhere | preflight | refusal => rfl
  | validation => exact absurd (destinationOf_eq_validation_iff.1 hplace) h

/-! ### When the assembler runs -/

/-- **When the assembler runs.**  Whatever the settings and the request, a record of the calls that
change the machine has at most one directory made and at most one process started.  It has a call
exactly when the request is a submission that has passed every check; if it has the start of a
process, its arguments are the flags, the source, `-o` and the result, and the file of the source
holds the UTF-8 form of the text that was submitted.  All other requests leave the machine as it
was.  Those that are no submissions are answered by method and path alone; the probe for liveness
goes before the one for readiness, and both go before the validation route, for every method. -/
theorem effects_handle (host : Host σ) (l : Launcher σ) (settings : Settings) (timing : Timing)
    (r : Request) (s : σ) :
    ((handle (host.recorded l) settings timing r (s, [])).response =
        (handle (host.launching l) settings timing r s).response ∧
      (handle (host.recorded l) settings timing r (s, [])).state.1 =
        (handle (host.launching l) settings timing r s).state) ∧
    ((callsOf host l settings timing r s).countP Host.Call.isMake ≤ 1 ∧
      (callsOf host l settings timing r s).countP Host.Call.isSpawn ≤ 1) ∧
    (callsOf host l settings timing r s ≠ [] ↔ ∃ source, Assembles settings r source) ∧
    (∀ command found, .spawn command found ∈ callsOf host l settings timing r s →
      ∃ (source : String) (area : StagingArea), Assembles settings r source ∧
        command.arguments = settings.assembler.flags ++ [area.source, "-o", area.result] ∧
        ∀ read, host.KeepsFiles read →
          read found area.source = some (Utf8.encode source.toList)) ∧
    ((¬∃ source, Assembles settings r source) →
      (handle (host.launching l) settings timing r s).state = s) ∧
    (¬IsSubmission settings r → ∀ timing' r', r'.method = r.method →
      r'.target.path = r.target.path →
      (handle (host.launching l) settings timing' r' s).response =
        (handle (host.launching l) settings timing r s).response) ∧
    (settings.health.enabled = true → r.target.path = settings.health.livenessPath →
      (handle (host.launching l) settings timing r s).response =
        (Answer.health 200 "ok").response.withCommonHeaders (signature settings)) ∧
    (settings.health.enabled = true → r.target.path = settings.health.readinessPath →
      r.target.path ≠ settings.health.livenessPath →
      (handle (host.launching l) settings timing r s).response =
        (readiness (host.launching l) settings.assembler.binary s).response.withCommonHeaders
          (signature settings)) := by
  have hsame := map_handle (host.recorded_views l) settings timing r (s, [])
  have hcalls := callsOf_ne_nil_iff host l settings timing r s
  refine ⟨⟨(congrArg Reply.response hsame).symm, (congrArg Reply.state hsame).symm⟩, ?_, hcalls,
    ?_, state_handle_of_not_assembles _ timing s,
    fun h timing' r' => response_handle_congr _ timing timing' s h, ?_, ?_⟩
  · by_cases hassembles : ∃ source, Assembles settings r source
    · obtain ⟨source, hassembles⟩ := hassembles
      have hcourse := hassembles.course host l timing s
      exact ⟨hcourse.countP_isMake, hcourse.countP_isSpawn⟩
    · simp [callsOf_of_not_assembles host l timing s hassembles]
  · intro command found hmem
    obtain ⟨source, hassembles⟩ := hcalls.1 (List.ne_nil_of_mem hmem)
    obtain ⟨area, hcreate, rfl⟩ := (hassembles.course host l timing s).of_spawn_mem hmem
    exact ⟨source, area, hassembles, rfl, fun read hread =>
      StagingArea.read_of_create hread hcreate⟩
  · intro henabled hpath
    have hdestination : destinationOf settings r = .liveness := by
      simp [destinationOf, destination, henabled, hpath]
    rw [response_handle, hdestination]
    rfl
  · intro henabled hpath hother
    have hdestination : destinationOf settings r = .readiness := by
      rw [hpath] at hother
      simp [destinationOf, destination, henabled, hpath, hother]
    rw [response_handle, hdestination]
    rfl

end Service

end AssemblyGate
