/-
**The two limits of a source.**

A source is held against two settings: its body must fit into the limit of bodies, and the source
itself into the limit of sources.  Since a body is at least fifteen bytes longer than its source,
the smaller of the second limit and the first one less fifteen holds for everything that reaches the
assembler; and where the second is no smaller than the first one less fifteen, it is never what a
request fails by.

Main definitions:

* `AssemblyGate.Service.RefusesSource` — a response that tells that the source is too large;
* `AssemblyGate.Service.sourceBound` — what both limits leave for a source.

Main results:

* `AssemblyGate.Service.refusesSource_iff` — which requests are answered so;
* `AssemblyGate.Service.sources_within_limits` — **no more than both limits leave reaches the
  assembler**, and of two limits that overlap only the first is ever met;
* `AssemblyGate.Service.refusable_iff` — otherwise some request is refused for its source.
-/
import AssemblyGate.Proofs.Json.SourceSize
import AssemblyGate.Proofs.Service.AnswerForm
import AssemblyGate.Proofs.Service.Effects

set_option autoImplicit false

namespace AssemblyGate.Service

open Validation (Reaches bodyLimit Stops)

variable {σ : Type}

/-! ### Sources that are taken in -/

/-- A source that is taken in is at least fifteen bytes below the limit of bodies. -/
theorem size_of_reaches {settings : Settings} {r : Request} {source : String}
    (h : Reaches settings r source) : source.utf8ByteSize + 15 ≤ bodyLimit settings := by
  obtain ⟨body, ⟨-, -, hlength⟩, text, rfl, hsubmission⟩ := h.submits
  exact hsubmission.size_le.trans hlength

/-- What the limits of bodies and of sources leave for a source. -/
def sourceBound (settings : Settings) : Nat :=
  min settings.assembler.maxSourceBytes.toNat (bodyLimit settings - 15)

/-- A source that is assembled is within both limits. -/
theorem Assembles.size_le {settings : Settings} {r : Request} {source : String}
    (h : Assembles settings r source) : source.utf8ByteSize ≤ sourceBound settings := by
  have hbody := size_of_reaches h.reaches
  exact Nat.le_min.2 ⟨h.fits, by omega⟩

/-- So is all that is written to a file. -/
theorem length_of_write_mem {host : Host σ} {l : Launcher σ} {settings : Settings}
    {timing : Timing} {r : Request} {s : σ} {path : String} {bytes : Bytes}
    (h : .write path bytes ∈ callsOf host l settings timing r s) :
    bytes.length ≤ sourceBound settings := by
  obtain ⟨source, hassembles⟩ :=
    (callsOf_ne_nil_iff host l settings timing r s).1 (List.ne_nil_of_mem h)
  rw [(hassembles.course host l timing s).of_write_mem h]
  exact (Utf8.size_toList source).trans_le hassembles.size_le

/-! ### Sources that are refused -/

/-- A response tells that the source is too large. -/
def RefusesSource (x : Response) : Prop :=
  membersOf? x.body = some [("error", .text "assembly source too large")]

/-- No response without JSON in it does. -/
theorem not_refusesSource_plain {x : Response} (h : (membersOf? x.body).isNone = true) :
    ¬RefusesSource x := by
  rw [RefusesSource, Option.isNone_iff_eq_none.1 h]
  simp

/-- An error tells so by its reason alone. -/
theorem refusesSource_error (status : Nat) (reason : String) :
    RefusesSource (Answer.error status reason).response ↔ reason = "assembly source too large" := by
  rw [RefusesSource, Answer.error, Answer.finish_jsonDraft, Answer.errorObject,
    membersOf?_encode (by simp)]
  simp

/-- No outcome of an assembly does. -/
theorem not_refusesSource_result {x : Response} {compiled : Bool} {message : String}
    (h : x.body = Utf8.encode (Answer.resultObject compiled message).render) :
    ¬RefusesSource x := by
  rw [RefusesSource, h, Answer.resultObject, membersOf?_encode (by simp)]
  simp

theorem refusesSource_validate (host : Host σ) (settings : Settings) (r : Request) (s : σ) :
    RefusesSource (Validation.validate host settings r s).response ↔
      ∃ source, Reaches settings r source ∧
        settings.assembler.maxSourceBytes.toNat < source.utf8ByteSize := by
  constructor
  · intro hrefuses
    rcases Validation.finishes_or_stops host settings r s with
      ⟨area, status, stderr, hfinishes⟩ | ⟨response, hstops⟩
    · obtain ⟨message, -, -, hresponse⟩ := Validation.validate_of_finishes hfinishes
      rw [hresponse] at hrefuses
      exact absurd hrefuses (not_refusesSource_result rfl)
    · rw [(Validation.validate_of_stops hstops).1] at hrefuses
      cases hstops with
      | sourceOver hreaches hover => exact ⟨_, hreaches, hover⟩
      -- every other refusal has a body that is no JSON or names another reason
      | declaredOver | bodyOver | bodyBroken | noSource =>
          exact absurd hrefuses (not_refusesSource_plain (by decide +kernel))
      | notMade | notWritten | notStarted | notCollected | overdue =>
          rw [refusesSource_error] at hrefuses
          exact absurd hrefuses (by decide)
  · rintro ⟨source, hreaches, hover⟩
    rw [(Validation.validate_of_stops (.sourceOver hreaches hover)).1]
    exact (refusesSource_error _ _).2 rfl

/-- Nothing but a validation is answered so. -/
theorem not_refusesSource_answerAt (host : Host σ) (settings : Settings) (r : Request) (s : σ)
    {place : Destination} (h : place ≠ .validation) :
    ¬RefusesSource (answerAt host settings r s place).response := by
  cases place with
  | validation => exact absurd rfl h
  | liveness =>
      exact not_refusesSource_plain (x := (Answer.health 200 "ok").response) (by decide +kernel)
  | readiness =>
      rw [answerAt, readiness]
      split
      · exact not_refusesSource_plain (x := (Answer.health 200 "ok").response) (by decide +kernel)
      · exact not_refusesSource_plain (x := (Answer.health 503 "assembler unavailable").response)
          (by decide +kernel)
  | nowhere => exact not_refusesSource_plain (x := Answer.notFound.response) (by decide +kernel)
  | preflight =>
      have hplain : ∀ cors, (membersOf? (Answer.preflight cors).response.body).isNone = true := by
        decide +kernel
      exact not_refusesSource_plain (hplain settings.http.enableCors)
  | refusal =>
      exact not_refusesSource_plain (x := Answer.methodNotAllowed.response) (by decide +kernel)

/-- **A request is answered so** exactly when it is a submission whose source is over the limit of
sources. -/
theorem refusesSource_iff (host : Host σ) (settings : Settings) (timing : Timing) (r : Request)
    (s : σ) :
    RefusesSource (handle host settings timing r s).response ↔
      IsSubmission settings r ∧ ∃ source, Reaches settings r source ∧
        settings.assembler.maxSourceBytes.toNat < source.utf8ByteSize := by
  have hbody : RefusesSource (handle host settings timing r s).response ↔
      RefusesSource (answerAt host settings r s (destinationOf settings r)).response := by
    rw [response_handle]
    rfl
  rw [hbody, ← destinationOf_eq_validation_iff]
  by_cases hplace : destinationOf settings r = .validation
  · rw [hplace, answerAt, refusesSource_validate]
    simp
  · simp [hplace, not_refusesSource_answerAt host settings r s hplace]

/-- Where the limit of sources is no smaller than what the limit of bodies leaves, no request is
answered so. -/
theorem not_refusesSource_of_le {host : Host σ} {settings : Settings} {timing : Timing} {r : Request}
    {s : σ} (h : bodyLimit settings - 15 ≤ settings.assembler.maxSourceBytes.toNat) :
    ¬RefusesSource (handle host settings timing r s).response := by
  rw [refusesSource_iff]
  rintro ⟨-, source, hreaches, hover⟩
  have hroom := size_of_reaches hreaches
  omega

/-- The submission of a source in its shortest body. -/
def plainSubmission (path source : String) : Request where
  method := "POST"
  target := ⟨none, path, none⟩
  version := "1.1"
  headers := []
  frames := [.data (plainBody source)]
  peer := .v4 ⟨127, 0, 0, 1⟩ 40000

/-- It leads to the assembler where its body is within the limit. -/
theorem reaches_plainSubmission {settings : Settings} {path source : String}
    (hplain : source.toList.all isPlain = true)
    (hfits : source.utf8ByteSize + 15 ≤ bodyLimit settings) :
    Reaches settings (plainSubmission path source) source where
  declares := by
    rintro size ⟨front, digits, hheader, -⟩
    cases hheader
  submits := by
    refine ⟨plainBody source, ⟨?_, by simp [plainSubmission, Body.dataOf, Body.bytesOf], ?_⟩,
      (sourceOf?_eq_some_iff _ _).1 (sourceOf?_plainBody hplain)⟩
    · intro message hmessage
      simp [plainSubmission] at hmessage
    · rwa [length_plainBody]

/-- **Some request is answered so** exactly where the limit of sources is smaller than what the
limit of bodies leaves, as long as the validation route is not taken by the health probes. -/
theorem refusable_iff (host : Host σ) {settings : Settings} (timing : Timing) (s : σ) {path : String}
    (hpath : path = validatePath ∨ path = barePath)
    (hprobe : ¬IsProbePath settings.health path) :
    (∃ r, RefusesSource (handle host settings timing r s).response) ↔
      settings.assembler.maxSourceBytes.toNat < bodyLimit settings - 15 := by
  constructor
  · rintro ⟨r, hrefuses⟩
    by_contra hle
    exact not_refusesSource_of_le (Nat.le_of_not_lt hle) hrefuses
  · intro hlt
    -- a source of one byte more than its limit, in its shortest body
    let long := List.replicate (settings.assembler.maxSourceBytes.toNat + 1) 'a'
    have hsize : (String.ofList long).utf8ByteSize =
        settings.assembler.maxSourceBytes.toNat + 1 := by
      have ha : ('a').utf8Size = 1 := by decide
      rw [← Utf8.size_toList, String.toList_ofList]
      exact (Utf8.size_replicate _ _).trans (by rw [ha, Nat.mul_one])
    have hplain : (String.ofList long).toList.all isPlain = true := by
      rw [String.toList_ofList, List.all_replicate]
      simp [isPlain]
    exact ⟨plainSubmission path (String.ofList long), (refusesSource_iff ..).2
      ⟨⟨rfl, hpath, hprobe⟩, _, reaches_plainSubmission hplain (by omega), by omega⟩⟩

/-! ### Both limits -/

/-- **No more than both limits leave reaches the assembler.**  A body is at least fifteen bytes
longer than the source in it.  So a source that is taken in is as many bytes below the limit of
bodies.  What is assembled, and that is all that is ever written to a file or found there by a
process that is started, is within the limit of sources too.  If that limit is no smaller than the
limit of bodies less fifteen, no request is answered with the error for sources that are too
large. -/
theorem sources_within_limits (host : Host σ) (l : Launcher σ) (settings : Settings)
    (timing : Timing) (r : Request) (s : σ) :
    (∀ body source, sourceOf? body = some source → source.utf8ByteSize + 15 ≤ body.length) ∧
    (∀ source, Reaches settings r source → source.utf8ByteSize + 15 ≤ bodyLimit settings) ∧
    (∀ source, Assembles settings r source → source.utf8ByteSize ≤ sourceBound settings) ∧
    (∀ path bytes, .write path bytes ∈ callsOf host l settings timing r s →
      bytes.length ≤ sourceBound settings) ∧
    (∀ command found, .spawn command found ∈ callsOf host l settings timing r s →
      ∃ (area : StagingArea) (bytes : Bytes),
        command.arguments = settings.assembler.flags ++ [area.source, "-o", area.result] ∧
        bytes.length ≤ sourceBound settings ∧
        ∀ read, host.KeepsFiles read → read found area.source = some bytes) ∧
    (bodyLimit settings - 15 ≤ settings.assembler.maxSourceBytes.toNat →
      ¬RefusesSource (handle host settings timing r s).response) := by
  refine ⟨fun body source => size_of_sourceOf?, fun source => size_of_reaches,
    fun source => Assembles.size_le, fun path bytes => length_of_write_mem, ?_,
    not_refusesSource_of_le⟩
  intro command found hmem
  obtain ⟨source, hassembles⟩ :=
    (callsOf_ne_nil_iff host l settings timing r s).1 (List.ne_nil_of_mem hmem)
  obtain ⟨area, hcreate, rfl⟩ := (hassembles.course host l timing s).of_spawn_mem hmem
  exact ⟨area, Utf8.encode source.toList, rfl,
    (Utf8.size_toList source).trans_le hassembles.size_le,
    fun read hread => StagingArea.read_of_create hread hcreate⟩

end AssemblyGate.Service
