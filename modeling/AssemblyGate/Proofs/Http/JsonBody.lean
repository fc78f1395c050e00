/-
**What a JSON body carries.**

A body that is built from a value is the UTF-8 form of what is written for it.  A reader gets the
value back, and nothing in the body below a space can be taken for the end of a line or of anything
else.  A value that is itself a submission is read as one, whatever stands beside its source.

Main definitions:

* `AssemblyGate.Answer.Carries` — a body without control bytes that is read as a value.

Main results:

* `AssemblyGate.Answer.carries_of_exact` — the UTF-8 form of an exact value carries it;
* `AssemblyGate.lastMember_of_nodup` — where no name is borne twice, every member is the last of its
  name;
* `AssemblyGate.Answer.bodies_carry` — **bodies carry what they were built from**.
-/
import AssemblyGate.Assembler.Outcome
import AssemblyGate.Http.Answers
import AssemblyGate.Proofs.Json.ReadBack
import AssemblyGate.Proofs.Service.SubmissionLanguage

set_option autoImplicit false

namespace AssemblyGate

open JsonText (Exact LastMember parse?_encode_render)

/-- Where no name is borne twice, every member is the last of its name. -/
theorem lastMember_of_nodup {α : Type} {name : String} {members : List (String × α)} {value : α}
    (hnodup : (members.map Prod.fst).Nodup) (h : (name, value) ∈ members) :
    LastMember name members value := by
  obtain ⟨before, after, rfl⟩ := List.append_of_mem h
  refine ⟨before, after, rfl, fun m hm heq => ?_⟩
  rw [List.map_append, List.map_cons] at hnodup
  have hlate := (List.nodup_cons.1 (List.nodup_append.1 hnodup).2.1).1
  exact hlate (List.mem_map.2 ⟨m, hm, heq⟩)

namespace Answer

/-- A body without control bytes that is read as a value. -/
structure Carries (body : Bytes) (v : Json) : Prop where
  visible : ∀ b ∈ body, 0x20 ≤ b
  decodes : Json.parse? body = some v

/-- The UTF-8 form of an exact value carries it. -/
theorem carries_of_exact {v : Json} (h : Exact Json.maxDepth v) :
    Carries (Utf8.encode v.render) v := by
  refine ⟨fun b hb => ?_, parse?_encode_render h.readsBack⟩
  obtain ⟨c, hc, hbyte⟩ := List.mem_flatMap.1 hb
  have hchar : 0x20 ≤ c.toNat := h.shown c hc
  rw [UInt8.le_iff_toNat_le]
  rcases Utf8.encodeChar_bytes hbyte with heq | hhigh
  · exact heq ▸ hchar
  · exact le_trans (by decide) hhigh

theorem body_json (status : Nat) (v : Json) :
    (Answer.json status (.ok v)).response.body = Utf8.encode v.render := by
  rw [Answer.json, finish_jsonDraft]

theorem exact_resultObject (accepted : Bool) (message : String) :
    Exact Json.maxDepth (resultObject accepted message) := by
  refine .object (by simp) fun m hm => ?_
  simp only [List.mem_cons, List.not_mem_nil, or_false] at hm
  rcases hm with rfl | rfl
  · exact .bool accepted
  · exact .text message

theorem exact_errorObject (reason : String) : Exact Json.maxDepth (errorObject reason) := by
  refine .object (by simp) fun m hm => ?_
  obtain rfl := List.mem_singleton.1 hm
  exact .text reason

/-- **Bodies carry what they were built from**: an exact value with at most 127 lists and objects
inside one another, the outcome of an assembly, the reason of an error.  A body that is built from
an object with a text as its member `assembly` submits that text. -/
theorem bodies_carry (status : Nat) :
    (∀ v, Exact 127 v → Carries (Answer.json status (.ok v)).response.body v) ∧
    (∀ outcome : Outcome,
      Carries (Answer.result status outcome.accepted outcome.message).response.body
        (.object [("compiled", .bool outcome.accepted), ("message", .text outcome.message)])) ∧
    (∀ reason, Carries (Answer.error status reason).response.body
      (.object [("error", .text reason)])) ∧
    ∀ source members, Exact 127 (.object members) → ("assembly", .text source) ∈ members →
      sourceOf? (Answer.json status (.ok (.object members))).response.body = some source := by
  refine ⟨fun v hv => ?_, fun outcome => ?_, fun reason => ?_, fun source members hv hmem => ?_⟩
  · rw [body_json]
    exact carries_of_exact hv
  · rw [Answer.result, body_json]
    exact carries_of_exact (exact_resultObject _ _)
  · rw [Answer.error, finish_jsonDraft]
    exact carries_of_exact (exact_errorObject reason)
  · have hnodup : (members.map Prod.fst).Nodup := by
      cases hv with
      | object hnodup _ => exact hnodup
    rw [body_json]
    exact sourceOf?_iff_members.2
      ⟨members, (carries_of_exact hv).decodes, lastMember_of_nodup hnodup hmem⟩

/-! ### As deep as can be -/

/-- Lists inside one another around the ends of the range of whole numbers. -/
def nested : Nat → Json
  | 0 => .list [.number (.whole (-9223372036854775808)), .number (.whole 18446744073709551615)]
  | n + 1 => .list [.null, nested n]

theorem exact_nested (n : Nat) : Exact (n + 1) (nested n) := by
  induction n with
  | zero =>
      refine .list fun v hv => ?_
      simp only [List.mem_cons, List.not_mem_nil, or_false] at hv
      rcases hv with rfl | rfl
      · exact .whole (by decide) (by decide)
      · exact .whole (by decide) (by decide)
  | succ n ih =>
      refine .list fun v hv => ?_
      simp only [List.mem_cons, List.not_mem_nil, or_false] at hv
      rcases hv with rfl | rfl
      · exact .null
      · exact ih

/-- A source with characters of every kind beside a list that goes as deep as it may. -/
def deepMembers : List (String × Json) :=
  [("\x00\"", nested 125), ("assembly", .text "a\n\t\\\"\x1f😀"), ("", .bool false)]

theorem exact_deepMembers : Exact 127 (.object deepMembers) := by
  refine .object (by decide) fun m hm => ?_
  simp only [deepMembers, List.mem_cons, List.not_mem_nil, or_false] at hm
  rcases hm with rfl | rfl | rfl
  · exact exact_nested 125
  · exact .text _
  · exact .bool false

/-- The deepest values, and a source beside one. -/
theorem bodies_carry_deep :
    Carries (Answer.json 200 (.ok (nested 126))).response.body (nested 126) ∧
      sourceOf? (Answer.json 999 (.ok (.object deepMembers))).response.body
        = some "a\n\t\\\"\x1f😀" :=
  ⟨(bodies_carry 200).1 _ (exact_nested 126),
    (bodies_carry 999).2.2.2 _ _ exact_deepMembers (by simp [deepMembers])⟩

end Answer

end AssemblyGate
