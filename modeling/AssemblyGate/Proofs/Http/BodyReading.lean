/-
**What a request declares, and what its body holds.**

A length is declared by the first header of its name when its value is a numeral of a 64-bit word.
The body comes in frames.  Reading them ends in one of three ways: all frames come without a failure
and their data fit into the limit, or the data go over the limit before any failure, or a failure
comes before the data go over.

Main definitions:

* `AssemblyGate.Declares` — a request declares a length;
* `AssemblyGate.Body.Arrives`, `AssemblyGate.Body.Overflows`, `AssemblyGate.Body.Breaks` — **the
  three ends of reading a body**.

Main results:

* `AssemblyGate.Validation.declared_eq_over_iff` — what is refused is a declared length over the
  limit;
* `AssemblyGate.Body.collect_of_arrives`, `AssemblyGate.Body.collect_of_overflows`,
  `AssemblyGate.Body.collect_of_breaks` — the reader tells the three ends apart;
* `AssemblyGate.Body.ends` — there is no fourth one.
-/
import AssemblyGate.Proofs.Text.Numeral
import AssemblyGate.Proofs.Text.Utf8
import AssemblyGate.Service.Validation
import Mathlib.Data.List.Induction

set_option autoImplicit false

namespace AssemblyGate

/-! ### Declared lengths -/

/-- A request declares a length: the first header of that name is the numeral of a word. -/
def Declares (r : Request) (size : Nat) : Prop :=
  ∃ front digits, r.header? "content-length" = some (Utf8.encode (front ++ digits)) ∧
    (front = [] ∨ front = ['+']) ∧ Numeral.Digits digits ∧ Numeral.ofDigits digits = size ∧
    size ≤ maxWord

/-- A header value that is readable as text is the UTF-8 form of its text. -/
theorem encode_of_headerText? {value : Bytes} {text : String} (h : headerText? value = some text) :
    value = Utf8.encode text.toList := by
  unfold headerText? at h
  split at h
  · rename_i hall
    obtain rfl := Option.some.inj h
    rw [String.toList_ofList]
    clear h
    induction value with
    | nil => rfl
    | cons b rest ih =>
        rw [List.all_cons, Bool.and_eq_true] at hall
        have hb : b.toNat < 0x80 := by
          have htext := hall.1
          simp only [isTextByte, Bool.or_eq_true, Bool.and_eq_true, beq_iff_eq, decide_eq_true_eq,
            UInt8.lt_iff_toNat_lt] at htext
          rcases htext with rfl | ⟨-, hb⟩
          · decide
          · exact Nat.lt_succ_of_lt hb
        have hhead := Utf8.encodeChar_of_whole (Utf8.lead_of_one hb)
        rw [List.map_cons, Utf8.encode, List.flatMap_cons, hhead]
        exact congrArg (b :: ·) (ih hall.2)
  · simp at h

/-- Visible characters of ASCII are readable as text. -/
theorem headerText?_encode {text : List Char} (h : ∀ c ∈ text, 0x20 ≤ c.toNat ∧ c.toNat < 0x7f) :
    headerText? (Utf8.encode text) = some (String.ofList text) := by
  have hencode : Utf8.encode text = text.map fun c => UInt8.ofNat c.toNat := by
    induction text with
    | nil => rfl
    | cons c rest ih =>
        have hc := h c (by simp)
        rw [Utf8.encode, List.flatMap_cons, Utf8.encodeChar_of_one (by omega)]
        exact congrArg (UInt8.ofNat c.toNat :: ·) (ih fun d hd => h d (by simp [hd]))
  have htext : ((Utf8.encode text).all isTextByte) = true := by
    rw [hencode, List.all_map, List.all_eq_true]
    intro c hc
    have := h c hc
    simp [isTextByte, UInt8.le_iff_toNat_le, UInt8.lt_iff_toNat_lt]
    omega
  have hback :
      (text.map fun c => UInt8.ofNat c.toNat).map (fun b => Char.ofNat b.toNat) = text := by
    rw [List.map_map]
    refine (List.map_congr_left ?_).trans (List.map_id text)
    intro c hc
    have := h c hc
    rw [Function.comp_apply, Utf8.toNat_byte (by omega), Char.ofNat_toNat, id]
  rw [headerText?, if_pos htext, hencode, hback]

theorem declares_iff {r : Request} {size : Nat} :
    Declares r size ↔ ∃ value text, r.header? "content-length" = some value ∧
      headerText? value = some text ∧ Numeral.word? text.toList = some size := by
  constructor
  · rintro ⟨front, digits, hheader, hfront, hdigits, hsize, hfits⟩
    refine ⟨_, String.ofList (front ++ digits), hheader, headerText?_encode ?_, ?_⟩
    · intro c hc
      rcases List.mem_append.1 hc with hc | hc
      · rcases hfront with rfl | rfl
        · simp at hc
        · obtain rfl := List.mem_singleton.1 hc
          decide
      · have hlow : '0'.toNat ≤ c.toNat := (hdigits.2 c hc).1
        have hhigh : c.toNat ≤ '9'.toNat := (hdigits.2 c hc).2
        simp at hlow hhigh
        omega
    · rw [String.toList_ofList, Numeral.word?_eq_some_iff]
      exact ⟨front, digits, rfl, hfront, hdigits, hsize, hfits⟩
  · rintro ⟨value, text, hheader, htext, hword⟩
    obtain ⟨front, digits, hnumeral, h⟩ := Numeral.word?_eq_some_iff.1 hword
    exact ⟨front, digits, by rw [hheader, encode_of_headerText? htext, hnumeral], h⟩

/-- What is refused before the body is read is a declared length over the limit. -/
theorem Validation.declared_eq_over_iff {limit size : Nat} {r : Request} :
    Validation.declared limit r = .over size ↔ Declares r size ∧ limit < size := by
  rw [declares_iff]
  unfold Validation.declared
  cases hheader : r.header? "content-length" with
  | none => simp
  | some value =>
      dsimp only
      cases htext : headerText? value with
      | none => simp [htext]
      | some text =>
          dsimp only
          cases hword : Numeral.word? text.toList with
          | none => simp [htext, hword]
          | some found =>
              dsimp only
              split
              · simp [htext, hword]
                rintro rfl
                assumption
              · simp [htext, hword]
                rintro rfl
                omega

namespace Body

/-! ### The frames of a body -/

/-- The data of a frame. -/
def bytesOf : Frame → Bytes
  | .data bytes => bytes
  | .trailers _ | .failed _ => []

/-- The data of frames, one piece after the other. -/
def dataOf (frames : List Frame) : Bytes := frames.flatMap bytesOf

/-- No frame is a failure. -/
def Clean (frames : List Frame) : Prop := ∀ message, Frame.failed message ∉ frames

/-- All frames come, and their data fit into the limit. -/
def Arrives (limit : Nat) (frames : List Frame) (body : Bytes) : Prop :=
  Clean frames ∧ dataOf frames = body ∧ body.length ≤ limit

/-- The data go over the limit before any failure. -/
def Overflows (limit : Nat) (frames : List Frame) : Prop :=
  ∃ before bytes after, frames = before ++ .data bytes :: after ∧ Clean before ∧
    (dataOf before).length ≤ limit ∧ limit < (dataOf before).length + bytes.length

/-- A failure comes before the data go over the limit. -/
def Breaks (limit : Nat) (frames : List Frame) (message : String) : Prop :=
  ∃ before after, frames = before ++ .failed message :: after ∧ Clean before ∧
    (dataOf before).length ≤ limit

theorem Clean.of_cons {frame : Frame} {frames : List Frame} (h : Clean (frame :: frames)) :
    Clean frames := fun message hm => h message (List.mem_cons_of_mem _ hm)

/-- Frames without a failure are read as long as their data fit. -/
theorem collectFrom_append (left : Nat) {before : List Frame} (hclean : Clean before)
    (hfits : (dataOf before).length ≤ left) (done : List Bytes) (rest : List Frame) :
    ∃ pieces, pieces.reverse.flatten = done.reverse.flatten ++ dataOf before ∧
      collectFrom left done (before ++ rest)
        = collectFrom (left - (dataOf before).length) pieces rest := by
  -- the pieces are kept apart and in reverse, so only what they are joined to is said of them
  induction before generalizing left done with
  | nil => exact ⟨done, by simp [dataOf], by simp [dataOf]⟩
  | cons frame before ih =>
      have hdata : dataOf (frame :: before) = bytesOf frame ++ dataOf before := by simp [dataOf]
      rw [hdata, List.length_append] at hfits
      cases frame with
      | data bytes =>
          have hbytes : ¬left < bytes.length := by
            simp only [bytesOf] at hfits
            omega
          simp only [bytesOf] at hfits hdata
          obtain ⟨pieces, hpieces, hread⟩ :=
            ih (left - bytes.length) hclean.of_cons (by omega) (bytes :: done)
          refine ⟨pieces, by rw [hpieces, hdata]; simp, ?_⟩
          rw [List.cons_append, collectFrom, if_neg hbytes, hread, hdata, List.length_append,
            Nat.sub_sub]
      | trailers headers =>
          simp only [bytesOf, List.length_nil, List.nil_append] at hfits hdata
          obtain ⟨pieces, hpieces, hread⟩ := ih left hclean.of_cons (by omega) done
          exact ⟨pieces, by rw [hpieces, hdata],
            by rw [List.cons_append, collectFrom, hread, hdata]⟩
      | failed message => exact absurd (List.mem_cons_self ..) (hclean message)

theorem collect_of_arrives {limit : Nat} {frames : List Frame} {body : Bytes}
    (h : Arrives limit frames body) : collect limit frames = .ok body := by
  obtain ⟨hclean, rfl, hfits⟩ := h
  obtain ⟨pieces, hpieces, hread⟩ := collectFrom_append limit hclean hfits [] []
  rw [List.append_nil] at hread
  rw [collect, hread, collectFrom, hpieces]
  simp

theorem collect_of_overflows {limit : Nat} {frames : List Frame} (h : Overflows limit frames) :
    collect limit frames = .error .overLimit := by
  obtain ⟨before, bytes, after, rfl, hclean, hfits, hover⟩ := h
  obtain ⟨pieces, -, hread⟩ := collectFrom_append limit hclean hfits [] (.data bytes :: after)
  rw [collect, hread, collectFrom, if_pos (by omega)]

theorem collect_of_breaks {limit : Nat} {frames : List Frame} {message : String}
    (h : Breaks limit frames message) : collect limit frames = .error (.failed message) := by
  obtain ⟨before, after, rfl, hclean, hfits⟩ := h
  obtain ⟨pieces, -, hread⟩ := collectFrom_append limit hclean hfits [] (.failed message :: after)
  rw [collect, hread, collectFrom]

/-- Reading a body ends in one of the three ways. -/
theorem ends (limit : Nat) (frames : List Frame) :
    (∃ body, Arrives limit frames body) ∨ Overflows limit frames ∨
      ∃ message, Breaks limit frames message := by
  -- one frame more at the end changes nothing once the data are over or broken off
  induction frames using List.reverseRecOn with
  | nil => exact .inl ⟨[], by simp [Clean], rfl, by simp⟩
  | append_singleton frames frame ih =>
      rcases ih with ⟨body, hclean, rfl, hfits⟩ | ⟨before, bytes, after, rfl, h⟩ |
        ⟨message, before, after, rfl, h⟩
      · cases frame with
        | data bytes =>
            by_cases hover : limit < (dataOf frames).length + bytes.length
            · exact .inr (.inl ⟨frames, bytes, [], rfl, hclean, hfits, hover⟩)
            · refine .inl ⟨_, ?_, rfl, ?_⟩
              · simpa [Clean] using hclean
              · simp [dataOf, bytesOf] at hover ⊢
                omega
        | trailers headers =>
            refine .inl ⟨_, ?_, rfl, ?_⟩
            · simpa [Clean] using hclean
            · simpa [dataOf, bytesOf] using hfits
        | failed message => exact .inr (.inr ⟨message, frames, [], rfl, hclean, hfits⟩)
      · exact .inr (.inl ⟨before, bytes, after ++ [frame], by simp, h⟩)
      · exact .inr (.inr ⟨message, before, after ++ [frame], by simp, h⟩)

end Body

end AssemblyGate
