/-
**A submitted source is shorter than its body.**

A quoted text is never shorter than what it denotes: every escape is written with at least as many
bytes as the character it stands for takes, a number with at least six for at most four.  So the
source of a submission, the quotes around it, its name, the colon and the braces all have their own
room in the body, whatever else stands there.

Main definitions:

* `AssemblyGate.Utf8.size` — the number of bytes of a text.

Main results:

* `AssemblyGate.JsonText.Quoted.size_le` — a quoted text has room for what it denotes and its quotes;
* `AssemblyGate.JsonText.Members.size_le` — so has every object for each of its members;
* `AssemblyGate.size_of_sourceOf?` — **a body is at least fifteen bytes longer than its source**;
* `AssemblyGate.sourceOf?_plainBody` — and there are bodies of exactly that length.
-/
import AssemblyGate.Proofs.Service.SubmissionLanguage

set_option autoImplicit false

namespace AssemblyGate

namespace Utf8

/-! ### The size of a text -/

/-- The number of bytes of a text in UTF-8. -/
def size (text : List Char) : Nat := (encode text).length

@[simp] theorem size_nil : size [] = 0 := rfl

@[simp] theorem size_cons (c : Char) (text : List Char) :
    size (c :: text) = c.utf8Size + size text := by
  simp [size, encode]

@[simp] theorem size_append (s t : List Char) : size (s ++ t) = size s + size t := by
  simp [size]

@[simp] theorem size_replicate (n : Nat) (c : Char) :
    size (List.replicate n c) = n * c.utf8Size := by
  induction n with
  | zero => simp
  | succ n ih =>
      rw [List.replicate_succ, size_cons, ih, Nat.succ_mul]
      omega

theorem size_toList (s : String) : size s.toList = s.utf8ByteSize := by
  have hsize : ∀ text : List Char, size text = (String.ofList text).utf8ByteSize := by
    intro text
    induction text with
    | nil => rfl
    | cons c text ih =>
        rw [size_cons, ih, ← List.singleton_append, String.ofList_append,
          String.utf8ByteSize_append, ← String.singleton_eq_ofList, String.utf8ByteSize_singleton]
  rw [hsize, String.ofList_toList]

/-- No character takes less than a byte. -/
theorem length_le_size (text : List Char) : text.length ≤ size text := by
  induction text with
  | nil => exact Nat.le_refl 0
  | cons c text ih =>
      have hc := c.utf8Size_pos
      rw [size_cons, List.length_cons]
      omega

end Utf8

namespace JsonText

open Utf8 (size length_le_size size_toList)

/-! ### Quoted texts -/

/-- The characters that have a short escape take one byte. -/
theorem Short.utf8Size {e c : Char} (h : Short e c) : c.utf8Size = 1 := by
  cases h <;> decide

theorem CodeUnit.length_eq {w : List Char} {u : Nat} (h : CodeUnit w u) : w.length = 4 := by
  cases h
  rfl

/-- No form of a character is shorter than the character. -/
theorem Symbol.size_le {w : List Char} {c : Char} (h : Symbol w c) : c.utf8Size ≤ size w := by
  have hroom := length_le_size w
  have hfour := c.utf8Size_le_four
  cases h with
  | plain => simp
  | short hshort =>
      rw [hshort.utf8Size]
      exact hroom.trans' (by simp)
  | unit hunit =>
      -- six characters for at most four bytes
      exact hfour.trans (hroom.trans' (by simp [hunit.length_eq]))
  | pair hhigh hlow =>
      exact hfour.trans (hroom.trans' (by simp [hhigh.length_eq, hlow.length_eq]))

theorem Body.size_le {s text : List Char} (h : Body s text) : size text ≤ size s := by
  induction h with
  | nil => exact Nat.le_refl _
  | cons hsymbol _ ih =>
      rw [Utf8.size_cons, Utf8.size_append]
      exact Nat.add_le_add hsymbol.size_le ih

/-- A quoted text has room for what it denotes and its quotes. -/
theorem Quoted.size_le {s : List Char} {text : String} (h : Quoted s text) :
    text.utf8ByteSize + 2 ≤ size s := by
  cases h with
  | mk hbody =>
      have htext := hbody.size_le
      have hquote : ('"').utf8Size = 1 := by decide
      rw [size_toList] at htext
      simp [hquote]
      omega

/-! ### Members -/

section Objects

variable {fits : JsonNumber.Literal → Prop} {n : Nat}

/-- Of all values only a quoted text denotes a text. -/
theorem Value.size_le {s : List Char} {text : String} (h : Value fits n s (some text)) :
    text.utf8ByteSize + 2 ≤ size s := by
  cases h with
  | text hquoted => exact hquoted.size_le

/-- A member whose value is a text has room for the name, the text, their quotes and the colon. -/
theorem Member.size_le {s : List Char} {name text : String}
    (h : Member fits n s (name, some text)) :
    name.utf8ByteSize + text.utf8ByteSize + 5 ≤ size s := by
  cases h with
  | mk _ hname _ _ hvalue _ =>
      have hname := hname.size_le
      have hvalue := hvalue.size_le
      have hcolon : (':').utf8Size = 1 := by decide
      simp [hcolon]
      omega

/-- Each member has its own room among the members. -/
theorem Members.size_le {s : List Char} {members : List (String × Option String)}
    {name text : String} (h : Members fits n s members) (hmem : (name, some text) ∈ members) :
    name.utf8ByteSize + text.utf8ByteSize + 5 ≤ size s :=
  -- along the members; the one in question is the first or one of the rest
  match h with
  | .one hmember => by
      obtain rfl := List.mem_singleton.1 hmem
      exact hmember.size_le
  | .cons hmember hrest => by
      rw [Utf8.size_append]
      rcases List.mem_cons.1 hmem with rfl | hmem
      · exact hmember.size_le.trans (Nat.le_add_right _ _)
      · have hroom := hrest.size_le hmem
        rw [Utf8.size_cons]
        omega

/-- An object has room for each of its members and its braces. -/
theorem Object.size_le {s : List Char} {members : List (String × Option String)}
    {name text : String} (h : Object fits n s members) (hmem : (name, some text) ∈ members) :
    name.utf8ByteSize + text.utf8ByteSize + 7 ≤ size s := by
  cases h with
  | empty => simp at hmem
  | members hmembers =>
      have hroom := hmembers.size_le hmem
      have hopen : ('\x7b').utf8Size = 1 := by decide
      have hclose : ('\x7d').utf8Size = 1 := by decide
      simp [hopen, hclose]
      omega

end Objects

/-- The name `assembly` and what must stand around the source take fifteen bytes. -/
theorem Submission.size_le {fits : JsonNumber.Literal → Prop} {text : List Char} {source : String}
    (h : Submission fits text source) : source.utf8ByteSize + 15 ≤ size text := by
  obtain ⟨g, s, g', members, rfl, -, -, hobject, before, after, rfl, -⟩ := h
  have hmem : ("assembly", some source) ∈ before ++ ("assembly", some source) :: after := by simp
  have hroom := hobject.size_le hmem
  have hname : "assembly".utf8ByteSize = 8 := by decide
  rw [Utf8.size_append, Utf8.size_append]
  omega

end JsonText

/-! ### Bodies -/

open JsonText

/-- The shortest body for a source: it stands in quotes as it is. -/
def plainBody (source : String) : Bytes :=
  Utf8.encode ("\x7b\"assembly\":\"".toList ++ source.toList ++ "\"\x7d".toList)

theorem length_plainBody (source : String) :
    (plainBody source).length = source.utf8ByteSize + 15 := by
  change Utf8.size _ = _
  have hfront : Utf8.size "\x7b\"assembly\":\"".toList = 13 := by decide
  have hback : Utf8.size "\"\x7d".toList = 2 := by decide
  rw [Utf8.size_append, Utf8.size_append, hfront, hback, Utf8.size_toList]
  omega

/-- A source of characters that stand for themselves is submitted by its shortest body. -/
theorem sourceOf?_plainBody {source : String} (h : source.toList.all isPlain = true) :
    sourceOf? (plainBody source) = some source := by
  have hmember : Member Bounded 126 _ ("assembly", some source) :=
    member_of_value (by decide) (.text (quoted_of_plain h))
  refine (sourceOf?_eq_some_iff _ _).2 ⟨_, rfl, [], _, [], _, ?_, gap_nil, gap_nil,
    .members (.one hmember), [], [], rfl, by simp⟩
  simp

/-- **A body is at least fifteen bytes longer than its source.** -/
theorem size_of_sourceOf? {body : Bytes} {source : String} (h : sourceOf? body = some source) :
    source.utf8ByteSize + 15 ≤ body.length := by
  obtain ⟨text, rfl, hsubmission⟩ := (sourceOf?_eq_some_iff body source).1 h
  exact hsubmission.size_le

end AssemblyGate
