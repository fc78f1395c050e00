/-
**What is decided before the assembler.**

A submission is looked at three times before its source comes to the assembler: at the length it
declares, at the frames of its body, and at the body itself.  Neither the machine nor the settings
of the assembler have a part in this, only the limit of bodies.  What is left is an answer, or the
source.

Main definitions:

* `AssemblyGate.Validation.Intake`, `AssemblyGate.Validation.intake` — what is left of a submission;
* `AssemblyGate.Validation.Intake.reply` — the reply that it leads to.

Main results:

* `AssemblyGate.Validation.validate_eq_reply` — a validation is its intake and what that leads to;
* `AssemblyGate.Validation.takes_intake_iff` — **which sources are taken in**.
-/
import AssemblyGate.Proofs.Service.ValidationCourse

set_option autoImplicit false

namespace AssemblyGate.Validation

/-- What is left of a submission when the assembler's turn comes: an answer to it, or its source.
Both come with what was logged on the way. -/
inductive Intake
  | answered (answer : Answer) (events : List Event)
  | taken (source : String) (events : List Event)

namespace Intake

/-- The same with events before its own. -/
def after (events : List Event) : Intake → Intake
  | answered answer later => answered answer (events ++ later)
  | taken source later => taken source (events ++ later)

/-- A source is taken in. -/
def Takes (source : String) (i : Intake) : Prop := ∃ events, i = taken source events

@[simp] theorem takes_answered (source : String) (answer : Answer) (events : List Event) :
    ¬(answered answer events).Takes source := by
  simp [Takes]

@[simp] theorem takes_taken (source other : String) (events : List Event) :
    (taken other events).Takes source ↔ other = source := by
  simp [Takes]

@[simp] theorem takes_after (source : String) (events : List Event) (i : Intake) :
    (i.after events).Takes source ↔ i.Takes source := by
  cases i <;> simp [after]

/-- The reply that an intake leads to. -/
def reply {σ : Type} (host : Host σ) (a : AssemblerSettings) (s : σ) : Intake → Reply σ
  | answered answer events => (Reply.ofAnswer answer s).after events
  | taken source events => (assembleReply host a source s).after events

theorem reply_after {σ : Type} (host : Host σ) (a : AssemblerSettings) (s : σ)
    (events : List Event) (i : Intake) :
    (i.after events).reply host a s = (i.reply host a s).after events := by
  cases i <;> simp [after, reply, Reply.after, List.append_assoc]

end Intake

/-! ### Body, frames and length -/

/-- What is left of a body. -/
def intakeBody (body : Bytes) : Intake :=
  match sourceOf? body with
  | none => .answered (Answer.empty 400) []
  | some source => .taken source []

/-- What is left of the frames of a body. -/
def intakeFrames (limit : Nat) (frames : List Frame) : Intake :=
  match Body.collect limit frames with
  | .error e => .answered (unread e) [bodyEvent limit e]
  | .ok body => intakeBody body

/-- What is left of a submission. -/
def intake (limit : Nat) (r : Request) : Intake :=
  match declared limit r with
  | .over size => .answered Answer.tooLarge (declaredEvents limit (.over size))
  | length => (intakeFrames limit r.frames).after (declaredEvents limit length)

variable {σ : Type}

theorem bodyReply_eq (host : Host σ) (a : AssemblerSettings) (body : Bytes) (s : σ) :
    bodyReply host a body s = (intakeBody body).reply host a s := by
  unfold bodyReply intakeBody
  cases sourceOf? body <;> rfl

theorem framesReply_eq (host : Host σ) (settings : Settings) (frames : List Frame) (s : σ) :
    framesReply host settings frames s =
      (intakeFrames (bodyLimit settings) frames).reply host settings.assembler s := by
  unfold framesReply intakeFrames bodyLimit
  dsimp only
  split
  · rename_i hover
    rw [hover]
    rfl
  · rename_i message hfailed
    rw [hfailed]
    rfl
  · rename_i body hbody
    rw [hbody]
    exact bodyReply_eq host settings.assembler body s

/-- **A validation is its intake and what that leads to.** -/
theorem validate_eq_reply (host : Host σ) (settings : Settings) (r : Request) (s : σ) :
    validate host settings r s =
      (intake (bodyLimit settings) r).reply host settings.assembler s := by
  unfold validate intake
  rw [framesReply_eq]
  dsimp only [bodyLimit]
  rcases declared settings.http.maxBodySize.toNat r with _ | note | size
  · exact (Intake.reply_after ..).symm
  · exact (Intake.reply_after ..).symm
  · rfl

/-! ### Which sources are taken in -/

theorem takes_intakeBody_iff {body : Bytes} {source : String} :
    (intakeBody body).Takes source ↔ Submits body source := by
  have hsource : sourceOf? body = some source ↔ Submits body source :=
    sourceOf?_iff_members.trans parse?_iff_submission
  rw [← hsource, intakeBody]
  cases sourceOf? body <;> simp

theorem collect_eq_ok_iff {limit : Nat} {frames : List Frame} {body : Bytes} :
    Body.collect limit frames = .ok body ↔ Body.Arrives limit frames body := by
  refine ⟨fun h => ?_, Body.collect_of_arrives⟩
  rcases Body.ends limit frames with ⟨other, harrives⟩ | hover | ⟨message, hbreaks⟩
  · rw [Body.collect_of_arrives harrives] at h
    exact Except.ok.inj h ▸ harrives
  · rw [Body.collect_of_overflows hover] at h
    cases h
  · rw [Body.collect_of_breaks hbreaks] at h
    cases h

theorem takes_intakeFrames_iff {limit : Nat} {frames : List Frame} {source : String} :
    (intakeFrames limit frames).Takes source ↔
      ∃ body, Body.Arrives limit frames body ∧ Submits body source := by
  simp only [← collect_eq_ok_iff, ← takes_intakeBody_iff]
  unfold intakeFrames
  cases Body.collect limit frames <;> simp

/-- **A source is taken in** exactly from a request that leads to the assembler with it. -/
theorem takes_intake_iff {settings : Settings} {r : Request} {source : String} :
    (intake (bodyLimit settings) r).Takes source ↔ Reaches settings r source := by
  have hreaches : Reaches settings r source ↔
      DeclaresFit settings r ∧ (intakeFrames (bodyLimit settings) r.frames).Takes source := by
    rw [takes_intakeFrames_iff]
    exact ⟨fun h => ⟨h.declares, h.submits⟩, fun h => ⟨h.1, h.2⟩⟩
  rw [hreaches]
  unfold intake
  have hfit : (∀ size, declared (bodyLimit settings) r ≠ .over size) → DeclaresFit settings r :=
    fun h size hdeclares => Nat.le_of_not_lt fun hover =>
      h size (declared_eq_over_iff.2 ⟨hdeclares, hover⟩)
  rcases hdeclared : declared (bodyLimit settings) r with _ | note | size
  · simp [hfit (by simp [hdeclared])]
  · simp [hfit (by simp [hdeclared])]
  · obtain ⟨hdeclares, hover⟩ := declared_eq_over_iff.1 hdeclared
    have hunfit : ¬DeclaresFit settings r := fun h => absurd (h size hdeclares) (by omega)
    simp [hunfit]

end AssemblyGate.Validation
