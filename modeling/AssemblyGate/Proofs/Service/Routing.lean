/-
**Where a request goes.**

Method and path decide where a request goes, together with the settings of the health probes; its
headers, its body and the rest of its target have no part in it.  The probes go before the
validation route, and the one for liveness before the one for readiness, for every method and for
any paths they may have been given.

Main definitions:

* `AssemblyGate.Service.Destination`, `AssemblyGate.Service.destination` — the six places that a
  request can go to, and the one that it goes to;
* `AssemblyGate.Service.answerAt` — the answer at a place;
* `AssemblyGate.Service.signature` — the marks that all responses of a service bear.

Main results:

* `AssemblyGate.Service.route_eq` — a request is answered at the place it goes to;
* `AssemblyGate.Service.destination_eq_validation_iff` — **which requests are submissions**.
-/
import AssemblyGate.Service.Handle

set_option autoImplicit false

namespace AssemblyGate.Service

/-- The places that a request can go to. -/
inductive Destination
  | liveness
  | readiness
  | nowhere
  | validation
  | preflight
  | refusal
deriving DecidableEq

/-- The place that a method and a path lead to. -/
def destination (health : HealthSettings) (method path : String) : Destination :=
  if health.enabled ∧ path = health.livenessPath then .liveness
  else if health.enabled ∧ path = health.readinessPath then .readiness
  else if ¬(path = validatePath ∨ path = barePath) then .nowhere
  else if method = "POST" then .validation
  else if method = "OPTIONS" then .preflight
  else .refusal

/-- The place that a request goes to. -/
def destinationOf (settings : Settings) (r : Request) : Destination :=
  destination settings.health r.method r.target.path

variable {σ : Type}

/-- The answer at a place. -/
def answerAt (host : Host σ) (settings : Settings) (r : Request) (s : σ) : Destination → Reply σ
  | .liveness => Reply.ofAnswer (Answer.health 200 "ok") s
  | .readiness => readiness host settings.assembler.binary s
  | .nowhere => Reply.ofAnswer Answer.notFound s
  | .validation => Validation.validate host settings r s
  | .preflight => Reply.ofAnswer (Answer.preflight settings.http.enableCors) s
  | .refusal =>
      (Reply.ofAnswer Answer.methodNotAllowed s).after
        [.note .warn ("Method not allowed: " ++ r.method)]

/-- A request is answered at the place it goes to. -/
theorem route_eq (host : Host σ) (settings : Settings) (r : Request) (s : σ) :
    route host settings r s = answerAt host settings r s (destinationOf settings r) := by
  unfold route destinationOf destination
  simp only [Bool.and_eq_true, decide_eq_true_eq, Bool.not_eq_true', isValidatePath,
    Bool.or_eq_false_iff, decide_eq_false_iff_not, not_or]
  split
  · rfl
  split
  · rfl
  split
  · rfl
  split
  · rfl
  split <;> rfl

/-- The marks that a service puts on its responses. -/
def signature (settings : Settings) : Signature :=
  ⟨settings.http.serverName, settings.http.enableCors⟩

/-- A response is the one at the place that the request goes to, with the marks of the service. -/
theorem response_handle (host : Host σ) (settings : Settings) (timing : Timing) (r : Request)
    (s : σ) :
    (handle host settings timing r s).response =
      (answerAt host settings r s (destinationOf settings r)).response.withCommonHeaders
        (signature settings) := by
  rw [← route_eq]
  rfl

/-! ### Probes and submissions -/

/-- A path is that of an enabled health probe. -/
def IsProbePath (health : HealthSettings) (path : String) : Prop :=
  health.enabled = true ∧ (path = health.livenessPath ∨ path = health.readinessPath)

instance (health : HealthSettings) (path : String) : Decidable (IsProbePath health path) :=
  inferInstanceAs (Decidable (_ ∧ _))

/-- A health probe is asked for by its path alone. -/
theorem isProbePath_iff (health : HealthSettings) (method path : String) :
    IsProbePath health path ↔
      destination health method path = .liveness ∨ destination health method path = .readiness := by
  unfold IsProbePath destination
  split
  · rename_i h
    simp [h]
  split
  · rename_i h
    simp [h]
  rename_i hlive hready
  constructor
  · rintro ⟨henabled, hpath | hpath⟩
    · exact absurd ⟨henabled, hpath⟩ hlive
    · exact absurd ⟨henabled, hpath⟩ hready
  · split
    · simp
    split
    · simp
    split <;> simp

/-- **A request is a submission** when its path is the validation route and not that of a health
probe, and its method is the one for submissions. -/
theorem destination_eq_validation_iff {health : HealthSettings} {method path : String} :
    destination health method path = .validation ↔
      method = "POST" ∧ (path = "/assembly/validate/" ∨ path = "/assembly/validate") ∧
        ¬IsProbePath health path := by
  have hpaths : path = "/assembly/validate/" ∨ path = "/assembly/validate" ↔
      path = validatePath ∨ path = barePath := Iff.rfl
  rw [isProbePath_iff health method path, hpaths]
  unfold destination
  split
  · simp
  split
  · simp
  split
  · rename_i hvalidate
    simp [hvalidate]
  rename_i hvalidate
  split
  · rename_i hmethod
    simpa [hmethod] using Decidable.not_not.1 hvalidate
  · rename_i hmethod
    split <;> simp [hmethod]

end AssemblyGate.Service
