/-
**The form of every answer.**

Whatever is asked, and whatever the machine does, the service answers with one of a few drafts: five
plain ones, two without a body, and two with a JSON object.  Each of them can be sent as it is, so
the bare response that would take the place of a draft that cannot be sent is never seen; and what
the common headers add does not meet a header that a draft has.

Main definitions:

* `AssemblyGate.Service.ObjectFor` — the objects that stand in the body of a response with a status;
* `AssemblyGate.Service.Drafted` — the responses that the service makes before the common headers;
* `AssemblyGate.Service.Sound` — what is true of each of them;
* `AssemblyGate.Service.WellFormed` — what is true of a whole response.

Main results:

* `AssemblyGate.Service.drafted_route` — no other response is made;
* `AssemblyGate.Service.noted_route`, `AssemblyGate.Service.error_event_handle` — what is logged, and
  that no other error is logged than that an assembly failed;
* `AssemblyGate.Service.wellFormed_handle` — **every response is well formed**, and no draft of one
  fails.
-/
import AssemblyGate.Proofs.Json.ReadBack
import AssemblyGate.Proofs.Service.Routing
import AssemblyGate.Proofs.Service.ValidationCourse

set_option autoImplicit false

namespace AssemblyGate.Service

open JsonText (ReadsBack readsBack_bool readsBack_text readsBack_object parse?_encode_render)

/-! ### The bodies -/

/-- The members of the object that a body is the UTF-8 text of. -/
def membersOf? (body : Bytes) : Option (List (String × Json)) :=
  match Json.parse? body with
  | some (.object members) => some members
  | _ => none

theorem membersOf?_eq_some_iff {body : Bytes} {members : List (String × Json)} :
    membersOf? body = some members ↔ Json.parse? body = some (.object members) := by
  unfold membersOf?
  split
  · rename_i found hfound
    simp [hfound]
  · rename_i hother
    simp only [reduceCtorEq, false_iff]
    exact hother members

/-- An object of truth values and texts is read back. -/
theorem membersOf?_encode {members : List (String × Json)}
    (h : ∀ m ∈ members, (∃ b, m.2 = .bool b) ∨ ∃ s, m.2 = .text s) :
    membersOf? (Utf8.encode (Json.object members).render) = some members := by
  refine membersOf?_eq_some_iff.2 (parse?_encode_render (readsBack_object fun m hm => ?_))
  rcases h m hm with ⟨b, hb⟩ | ⟨s, hs⟩
  · exact hb ▸ readsBack_bool _ b
  · exact hs ▸ readsBack_text _ s

/-- What an object in an answer may hold, with the status it comes with. -/
inductive ObjectFor : Nat → List (String × Json) → Prop
  | result (compiled : Bool) (message : String) :
      ObjectFor 200 [("compiled", .bool compiled), ("message", .text message)]
  | error {status : Nat} (reason : String) : status ∈ [413, 500, 504] →
      ObjectFor status [("error", .text reason)]

/-! ### The responses before the common headers -/

/-- The responses that the service makes.  Those of the health probes are told apart. -/
inductive Drafted : Bool → Response → Prop
  | alive : Drafted true (Answer.health 200 "ok").response
  | unavailable : Drafted true (Answer.health 503 "assembler unavailable").response
  | notFound : Drafted false Answer.notFound.response
  | methodNotAllowed : Drafted false Answer.methodNotAllowed.response
  | preflight (enableCors : Bool) : Drafted false (Answer.preflight enableCors).response
  | tooLarge : Drafted false Answer.tooLarge.response
  | badRequest : Drafted false (Answer.empty 400).response
  | error {status : Nat} (reason : String) : status ∈ [413, 500, 504] →
      Drafted false (Answer.error status reason).response
  | result (compiled : Bool) (message : String) :
      Drafted false (Answer.result 200 compiled message).response

variable {σ : Type}

theorem drafted_validate (host : Host σ) (settings : Settings) (r : Request) (s : σ) :
    Drafted false (Validation.validate host settings r s).response := by
  rcases Validation.finishes_or_stops host settings r s with
    ⟨area, status, stderr, hfinishes⟩ | ⟨response, hstops⟩
  · obtain ⟨message, -, -, hresponse⟩ := Validation.validate_of_finishes hfinishes
    have hresult := Drafted.result (decide (status = .exited 0)) message
    rw [Answer.result, Answer.json, Answer.finish_jsonDraft] at hresult
    exact hresponse ▸ hresult
  · rw [(Validation.validate_of_stops hstops).1]
    cases hstops with
    | declaredOver | bodyOver => exact .tooLarge
    | bodyBroken | noSource => exact .badRequest
    | sourceOver | notMade | notWritten | notStarted | notCollected | overdue =>
        exact .error _ (by decide)

/-- **No other response is made.** -/
theorem drafted_route (host : Host σ) (settings : Settings) (r : Request) (s : σ) :
    Drafted (decide (IsProbePath settings.health r.target.path))
      (route host settings r s).response := by
  have hprobe := isProbePath_iff settings.health r.method r.target.path
  rw [route_eq, destinationOf]
  cases hplace : destination settings.health r.method r.target.path with
  | liveness =>
      rw [decide_eq_true (hprobe.2 (.inl hplace))]
      exact .alive
  | readiness =>
      rw [decide_eq_true (hprobe.2 (.inr hplace)), answerAt, readiness]
      split
      · exact .alive
      · exact .unavailable
  | nowhere =>
      rw [decide_eq_false (by simp [hprobe, hplace])]
      exact .notFound
  | validation =>
      rw [decide_eq_false (by simp [hprobe, hplace])]
      exact drafted_validate host settings r s
  | preflight =>
      rw [decide_eq_false (by simp [hprobe, hplace])]
      exact .preflight settings.http.enableCors
  | refusal =>
      rw [decide_eq_false (by simp [hprobe, hplace])]
      exact .methodNotAllowed

/-! ### What is true of them -/

/-- A response has a header of a name. -/
def Bears (x : Response) (name : String) : Prop := name ∈ x.headers.map Prod.fst

instance (x : Response) (name : String) : Decidable (Bears x name) :=
  inferInstanceAs (Decidable (_ ∈ _))

/-- The statuses of the service. -/
def statuses : List Nat := [200, 204, 400, 404, 405, 413, 500, 503, 504]

/-- The header of a JSON body. -/
def jsonHeader : Header := ("content-type", bytesOf "application/json")

/-- What is true of a response before the common headers; `probe` tells whether it is that of a
health probe. -/
structure Sound (probe : Bool) (x : Response) : Prop where
  status : x.status ∈ statuses
  bare : ¬Bears x "server" ∧ ¬Bears x "access-control-allow-origin"
  contentType : Bears x "content-type" ↔ x.body ≠ []
  allow : Bears x "allow" ↔ x.status = 405 ∨ x.status = 204
  cacheControl : Bears x "cache-control" ↔ probe = true
  typed : x.status = 200 → Bears x "content-type"
  content : jsonHeader ∉ x.headers ∧ membersOf? x.body = none ∨
    jsonHeader ∈ x.headers ∧
      ∃ members, membersOf? x.body = some members ∧ ObjectFor x.status members

/-- A response with a JSON object in it is sound. -/
theorem sound_json {status : Nat} {members : List (String × Json)} (h : ObjectFor status members) :
    Sound false
      ((Answer.jsonDraft status (.object members)).finish (toString status)).response := by
  have hstatus : status ∈ [200, 413, 500, 504] := by
    cases h with
    | result => decide
    | error reason hstatus => exact List.mem_cons_of_mem _ hstatus
  have hmembers : membersOf? (Utf8.encode (Json.object members).render) = some members := by
    cases h with
    | result compiled message => exact membersOf?_encode (by simp)
    | error reason => exact membersOf?_encode (by simp)
  have hbody : Utf8.encode (Json.object members).render ≠ [] := by
    intro hempty
    have hnone : (membersOf? []).isNone = true := by decide +kernel
    rw [← hempty, hmembers] at hnone
    cases hnone
  simp only [List.mem_cons, List.not_mem_nil, or_false] at hstatus
  rw [Answer.finish_jsonDraft]
  constructor
  · simp only [statuses, List.mem_cons]
    omega
  · simp [Bears]
  · simpa [Bears] using hbody
  · simp only [Bears, List.map_cons, List.map_nil, List.mem_singleton]
    constructor
    · intro heq
      exact absurd heq (by decide)
    · omega
  · simp [Bears]
  · simp [Bears]
  · exact .inr ⟨List.mem_singleton.2 rfl, members, hmembers, h⟩

/-- A response without JSON in it is sound when its parts are as they should be. -/
theorem sound_plain {probe : Bool} {x : Response} (hmembers : (membersOf? x.body).isNone = true)
    (h : (x.status ∈ statuses ∧ ¬Bears x "server" ∧ ¬Bears x "access-control-allow-origin" ∧
      jsonHeader ∉ x.headers) ∧ (Bears x "content-type" ↔ x.body ≠ []) ∧
      (Bears x "allow" ↔ x.status = 405 ∨ x.status = 204) ∧
      (Bears x "cache-control" ↔ probe = true) ∧ (x.status = 200 → Bears x "content-type")) :
    Sound probe x where
  status := h.1.1
  bare := ⟨h.1.2.1, h.1.2.2.1⟩
  contentType := h.2.1
  allow := h.2.2.1
  cacheControl := h.2.2.2.1
  typed := h.2.2.2.2
  content := .inl ⟨h.1.2.2.2, Option.isNone_iff_eq_none.1 hmembers⟩

theorem Drafted.sound {probe : Bool} {x : Response} (h : Drafted probe x) : Sound probe x := by
  cases h with
  | alive | unavailable | notFound | methodNotAllowed | tooLarge | badRequest =>
      exact sound_plain (by decide +kernel) (by decide +kernel)
  | preflight enableCors =>
      cases enableCors <;> exact sound_plain (by decide +kernel) (by decide +kernel)
  | error reason hstatus => exact sound_json (.error reason hstatus)
  | result compiled message => exact sound_json (.result compiled message)

/-! ### The common headers -/

/-- The entries of one header. -/
def entries (headers : List Header) (name : String) : List Header :=
  headers.filter fun h => h.1 == name

theorem entries_setHeader (headers : List Header) (name : String) (value : Bytes) :
    entries (setHeader headers name value) name = [(name, value)] := by
  simp [entries, setHeader, List.filter_filter]

theorem entries_setHeader_of_ne (headers : List Header) {name other : String} (h : other ≠ name)
    (value : Bytes) : entries (setHeader headers name value) other = entries headers other := by
  have hkeep : ∀ e : Header, ((e.1 == other) && (e.1 != name)) = (e.1 == other) := by
    intro e
    by_cases heq : e.1 = other
    · simp [heq, h]
    · simp [heq]
  simp only [entries, setHeader, List.filter_append, List.filter_filter, hkeep]
  simp [Ne.symm h]

theorem bears_iff_entries {x : Response} {name : String} :
    Bears x name ↔ entries x.headers name ≠ [] := by
  simp [Bears, entries]

theorem mem_iff_mem_entries {x : Response} {name : String} {value : Bytes} :
    (name, value) ∈ x.headers ↔ (name, value) ∈ entries x.headers name := by
  simp [entries]

/-- A byte that may stand in a header: a tab, or neither a control nor the delete character. -/
def MayStand (b : UInt8) : Prop := b = 0x09 ∨ 0x20 ≤ b ∧ b ≠ 0x7f

instance (b : UInt8) : Decidable (MayStand b) := inferInstanceAs (Decidable (_ ∨ _))

theorem all_isHeaderByte_iff {value : Bytes} :
    value.all isHeaderByte = true ↔ ∀ b ∈ value, MayStand b := by
  simp [isHeaderByte, MayStand]

section CommonHeaders

variable (x : Response) (g : Signature)

/-- The common headers leave every other header alone. -/
theorem entries_withCommonHeaders {name : String} (hserver : name ≠ "server")
    (horigin : name ≠ "access-control-allow-origin") :
    entries (x.withCommonHeaders g).headers name = entries x.headers name := by
  unfold Response.withCommonHeaders
  dsimp only
  split <;> split <;>
    simp only [entries_setHeader_of_ne _ hserver, entries_setHeader_of_ne _ horigin]

theorem bears_withCommonHeaders {name : String} (hserver : name ≠ "server")
    (horigin : name ≠ "access-control-allow-origin") :
    Bears (x.withCommonHeaders g) name ↔ Bears x name := by
  rw [bears_iff_entries, bears_iff_entries, entries_withCommonHeaders x g hserver horigin]

/-- The name of the server, where it may stand in a header. -/
theorem entries_server (hname : ∀ b ∈ bytesOf g.serverName, MayStand b) :
    entries (x.withCommonHeaders g).headers "server" = [("server", bytesOf g.serverName)] := by
  have hne : "server" ≠ "access-control-allow-origin" := by decide
  unfold Response.withCommonHeaders
  dsimp only
  rw [if_pos (all_isHeaderByte_iff.2 hname)]
  split <;> simp only [entries_setHeader_of_ne _ hne, entries_setHeader]

/-- A name that may not stand in a header is left out. -/
theorem not_bears_server (h : ¬Bears x "server")
    (hname : ¬∀ b ∈ bytesOf g.serverName, MayStand b) :
    ¬Bears (x.withCommonHeaders g) "server" := by
  have hnone : entries x.headers "server" = [] := by simpa [bears_iff_entries] using h
  have hne : "server" ≠ "access-control-allow-origin" := by decide
  rw [bears_iff_entries, not_not]
  unfold Response.withCommonHeaders
  dsimp only
  rw [if_neg fun hall => hname (all_isHeaderByte_iff.1 hall)]
  split <;> simp only [entries_setHeader_of_ne _ hne, hnone]

/-- The permission for pages of every origin. -/
theorem entries_allowOrigin (h : ¬Bears x "access-control-allow-origin") :
    entries (x.withCommonHeaders g).headers "access-control-allow-origin"
      = if g.enableCors then [("access-control-allow-origin", bytesOf "*")] else [] := by
  have hnone : entries x.headers "access-control-allow-origin" = [] := by
    simpa [bears_iff_entries] using h
  have hne : "access-control-allow-origin" ≠ "server" := by decide
  unfold Response.withCommonHeaders
  dsimp only
  split <;> split <;>
    simp only [entries_setHeader_of_ne _ hne, entries_setHeader, hnone]

end CommonHeaders

/-! ### Whole responses -/

/-- What is true of a whole response. -/
structure WellFormed (settings : Settings) (r : Request) (x : Response) : Prop where
  status : x.status ∈ [200, 204, 400, 404, 405, 413, 500, 503, 504]
  server : (∀ b ∈ bytesOf settings.http.serverName, MayStand b) →
    entries x.headers "server" = [("server", bytesOf settings.http.serverName)]
  noServer : ¬(∀ b ∈ bytesOf settings.http.serverName, MayStand b) → ¬Bears x "server"
  allowOrigin : entries x.headers "access-control-allow-origin"
    = if settings.http.enableCors then [("access-control-allow-origin", bytesOf "*")] else []
  contentType : Bears x "content-type" ↔ x.body ≠ []
  json : ("content-type", bytesOf "application/json") ∈ x.headers ↔
    ∃ members, Json.parse? x.body = some (.object members)
  object : ∀ members, Json.parse? x.body = some (.object members) → ObjectFor x.status members
  allow : Bears x "allow" ↔ x.status = 405 ∨ x.status = 204
  cacheControl : Bears x "cache-control" ↔ IsProbePath settings.health r.target.path
  notBare : ∀ body, x ≠ (Response.mk 200 [] body).withCommonHeaders (signature settings)

theorem Sound.wellFormed {settings : Settings} {r : Request} {x : Response}
    (h : Sound (decide (IsProbePath settings.health r.target.path)) x) :
    WellFormed settings r (x.withCommonHeaders (signature settings)) := by
  have htype := bears_withCommonHeaders x (signature settings)
    (show "content-type" ≠ "server" by decide) (by decide)
  have hjson : jsonHeader ∈ (x.withCommonHeaders (signature settings)).headers ↔
      jsonHeader ∈ x.headers := by
    unfold jsonHeader
    rw [mem_iff_mem_entries, mem_iff_mem_entries,
      entries_withCommonHeaders x _ (by decide) (by decide)]
  have hbody : (x.withCommonHeaders (signature settings)).body = x.body := rfl
  have hstatus : (x.withCommonHeaders (signature settings)).status = x.status := rfl
  constructor
  · exact h.status
  · exact entries_server x (signature settings)
  · exact not_bears_server x (signature settings) h.bare.1
  · exact entries_allowOrigin x _ h.bare.2
  · rw [htype, hbody]
    exact h.contentType
  · change jsonHeader ∈ _ ↔ _
    simp only [hjson, hbody, ← membersOf?_eq_some_iff]
    rcases h.content with ⟨hnot, hnone⟩ | ⟨hmem, members, hsome, -⟩
    · simp [hnot, hnone]
    · simp [hmem, hsome]
  · intro members hmembers
    rw [hbody, ← membersOf?_eq_some_iff] at hmembers
    rcases h.content with ⟨-, hnone⟩ | ⟨-, members', hsome, htells⟩
    · rw [hnone] at hmembers
      cases hmembers
    · rw [hsome, Option.some.injEq] at hmembers
      exact hmembers ▸ htells
  · rw [bears_withCommonHeaders x _ (by decide) (by decide), hstatus]
    exact h.allow
  · rw [bears_withCommonHeaders x _ (by decide) (by decide), h.cacheControl, decide_eq_true_eq]
  · -- a bare response has no type, and a response with status 200 has one
    intro body heq
    have htyped : Bears (x.withCommonHeaders (signature settings)) "content-type" := by
      refine htype.2 (h.typed ?_)
      rw [← hstatus, heq]
      rfl
    rw [heq, bears_withCommonHeaders _ _ (by decide) (by decide)] at htyped
    simp [Bears] at htyped

/-! ### What is logged -/

/-- What is noted on the way to a response: a message, and as an error only that an assembly
failed. -/
def Noted (e : Event) : Prop :=
  ∃ level text, e = .note level text ∧
    (level = .error → ∃ cause : AssembleError, text = "Assembly failed: " ++ cause.message)

theorem noted_of_ne {level : Level} (h : level ≠ .error) (text : String) :
    Noted (.note level text) := ⟨level, text, rfl, fun heq => absurd heq h⟩

theorem noted_warn (text : String) : Noted (.note .warn text) := noted_of_ne (by decide) text

theorem noted_errorEvent (cause : AssembleError) : Noted (Validation.errorEvent cause) := by
  unfold Validation.errorEvent
  split
  · exact ⟨_, _, rfl, fun _ => ⟨cause, rfl⟩⟩
  · exact noted_warn _

theorem noted_assembleReply {host : Host σ} {a : AssemblerSettings} {source : String} {s : σ}
    {e : Event} (h : e ∈ (Validation.assembleReply host a source s).events) : Noted e := by
  unfold Validation.assembleReply at h
  rcases List.mem_append.1 h with h | h
  · -- what is logged of the staging area is for debugging
    unfold Assembler.assemble at h
    split at h
    · simp at h
    · split at h
      · simp at h
      · rw [List.mem_singleton.1 h]
        exact noted_of_ne (by decide) _
  · unfold Validation.answerOf at h
    split at h
    · rw [Answer.result, Answer.json, Answer.finish_jsonDraft] at h
      simp at h
    · rename_i cause _
      simp only [Answer.error, Answer.finish_jsonDraft, List.mem_singleton] at h
      exact h ▸ noted_errorEvent cause

theorem noted_validate {host : Host σ} {settings : Settings} {r : Request} {s : σ} {e : Event}
    (h : e ∈ (Validation.validate host settings r s).events) : Noted e := by
  have hlarge : Answer.tooLarge.events = [] := by decide
  have hempty : (Answer.empty 400).events = [] := by decide
  have hdeclared : ∀ limit length, ∀ e ∈ Validation.declaredEvents limit length, Noted e := by
    intro limit length
    cases length <;> simp [Validation.declaredEvents, noted_warn]
  unfold Validation.validate at h
  rcases List.mem_append.1 h with h | h
  · exact hdeclared _ _ e h
  split at h
  · simp [Reply.ofAnswer, hlarge] at h
  unfold Validation.framesReply at h
  dsimp only at h
  split at h
  · simp only [Reply.after, Reply.ofAnswer, hlarge, List.append_nil, List.mem_singleton] at h
    exact h ▸ noted_warn _
  · simp only [Reply.after, Reply.ofAnswer, hempty, List.append_nil, List.mem_singleton] at h
    exact h ▸ noted_warn _
  unfold Validation.bodyReply at h
  split at h
  · simp [Reply.ofAnswer, hempty] at h
  · exact noted_assembleReply h

/-- Before the access line of a request only messages are logged. -/
theorem noted_route {host : Host σ} {settings : Settings} {r : Request} {s : σ} {e : Event}
    (h : e ∈ (route host settings r s).events) : Noted e := by
  have hevents : (Answer.health 200 "ok").events = [] ∧
      (Answer.health 503 "assembler unavailable").events = [] ∧ Answer.notFound.events = [] ∧
      Answer.methodNotAllowed.events = [] := by decide
  have hpreflight : ∀ enableCors, (Answer.preflight enableCors).events = [] := by decide
  rw [route_eq] at h
  cases hplace : destinationOf settings r with
  | liveness => simp [hplace, answerAt, Reply.ofAnswer, hevents] at h
  | readiness =>
      rw [hplace, answerAt, readiness] at h
      split at h
      · simp [Reply.ofAnswer, hevents] at h
      · simp only [Reply.after, Reply.ofAnswer, hevents, List.append_nil, List.mem_singleton] at h
        exact h ▸ noted_warn _
  | nowhere => simp [hplace, answerAt, Reply.ofAnswer, hevents] at h
  | validation =>
      rw [hplace, answerAt] at h
      exact noted_validate h
  | preflight => simp [hplace, answerAt, Reply.ofAnswer, hpreflight] at h
  | refusal =>
      simp only [hplace, answerAt, Reply.after, Reply.ofAnswer, hevents, List.append_nil,
        List.mem_singleton] at h
      exact h ▸ noted_warn _

/-- No other error is logged of a request than that an assembly failed. -/
theorem error_event_handle {host : Host σ} {settings : Settings} {timing : Timing} {r : Request}
    {s : σ} {text : String} (h : .note .error text ∈ (handle host settings timing r s).events) :
    ∃ e : AssembleError, text = "Assembly failed: " ++ e.message := by
  rcases List.mem_append.1 h with h | h
  · obtain ⟨level, found, heq, hfailed⟩ := noted_route h
    obtain ⟨rfl, rfl⟩ := Event.note.inj heq
    exact hfailed rfl
  · unfold accessEvents at h
    split at h <;> simp at h

/-- **Every response is well formed**, and no draft of one fails. -/
theorem wellFormed_handle (host : Host σ) (settings : Settings) (timing : Timing) (r : Request)
    (s : σ) :
    WellFormed settings r (handle host settings timing r s).response ∧
      ∀ label reason : String,
        .note .error ("Failed to build " ++ label ++ " response: " ++ reason)
          ∉ (handle host settings timing r s).events := by
  refine ⟨(drafted_route host settings r s).sound.wellFormed, fun label reason hevent => ?_⟩
  -- the two texts differ in their first character
  obtain ⟨e, heq⟩ := error_event_handle hevent
  have hhead := congrArg (fun text => text.toList.head?) heq
  simp at hhead

end AssemblyGate.Service
