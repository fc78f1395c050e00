/-
**What is written as JSON is read back.**

A value without floating point numbers is read back from its written form as it was: members and
items in order, every character of every text in its place, every whole number of 64 bits with its
sign.  And the written form holds no control character, whatever its texts hold.  This is what a
client relies on who is sent a value: no text in it can break out of its quotes.

Main definitions:

* `AssemblyGate.JsonText.Exact` — the values without floating point numbers, by their depth;
* `AssemblyGate.JsonText.ReadsBack` — a value that is read back from its written form, whatever
  closes it;
* `AssemblyGate.JsonText.Shown` — a text without control characters.

Main results:

* `AssemblyGate.JsonText.body_escape` — the escapes of a text denote it;
* `AssemblyGate.JsonText.readsBack_whole`, `AssemblyGate.JsonText.readsBack_list`,
  `AssemblyGate.JsonText.readsBack_object` — which values are read back, one kind at a time;
* `AssemblyGate.JsonText.Exact.readsBack` — **exact values are read back**;
* `AssemblyGate.JsonText.parse?_encode_render` — **the UTF-8 form of what is written is read as the
  value that was written**;
* `AssemblyGate.JsonText.Exact.shown` — exact values are written without control characters.
-/
import AssemblyGate.Json.Printer
import AssemblyGate.Proofs.Json.ValueReader

set_option autoImplicit false

namespace AssemblyGate.JsonText

open Json

/-! ### Quoted texts -/

theorem hexDigit_digitChar {n : Nat} (h : n < 16) : HexDigit (Nat.digitChar n) n := by
  have hall : ∀ n < 16, Numeral.hexDigit? (Nat.digitChar n) = some n := by decide
  exact hexDigit_of_hexDigit? (hall n h)

/-- The number of a control character. -/
theorem codeUnit_control {c : Char} (h : c.toNat < 0x20) :
    CodeUnit ['0', '0', Nat.digitChar (c.toNat / 16), Nat.digitChar (c.toNat % 16)] c.toNat := by
  have hzero : HexDigit '0' 0 := hexDigit_of_hexDigit? (by decide)
  have hunit := CodeUnit.mk hzero hzero (hexDigit_digitChar (n := c.toNat / 16) (by omega))
    (hexDigit_digitChar (n := c.toNat % 16) (by omega))
  have hvalue : ((0 * 16 + 0) * 16 + c.toNat / 16) * 16 + c.toNat % 16 = c.toNat := by omega
  rwa [hvalue] at hunit

theorem symbol_escape (c : Char) : Symbol (escape c) c := by
  unfold escape
  split
  · rename_i h
    rcases h with rfl | rfl
    · exact .short .quote
    · exact .short .backslash
  rename_i hplain
  split
  · rename_i h
    exact h ▸ .short .backspace
  split
  · rename_i h
    exact h ▸ .short .formFeed
  split
  · rename_i h
    exact h ▸ .short .lineFeed
  split
  · rename_i h
    exact h ▸ .short .carriageReturn
  split
  · rename_i h
    exact h ▸ .short .tab
  split
  · rename_i h
    exact .unit (codeUnit_control h)
  · rename_i h
    exact .plain (fun heq => hplain (.inl heq)) (fun heq => hplain (.inr heq)) (Nat.le_of_not_lt h)

/-- The escapes of a text denote it. -/
theorem body_escape (text : List Char) : Body (text.flatMap escape) text := by
  induction text with
  | nil => exact .nil
  | cons c text ih => exact .cons (symbol_escape c) ih

theorem readText_quoted (s : String) (rest : List Char) :
    readText [] (s.toList.flatMap escape ++ '"' :: rest) = some (s, rest) := by
  simpa using readText_of_body (body_escape s.toList) [] rest

theorem quoted_append (s : String) (rest : List Char) :
    quoted s ++ rest = '"' :: (s.toList.flatMap escape ++ '"' :: rest) := by
  simp [quoted]

/-! ### Values -/

/-- A value that is read back from its written form, whatever closes it, when at most `depth` lists
and objects may still stand inside one another. -/
structure ReadsBack (depth : Nat) (v : Json) : Prop where
  opens : ∃ c tail, v.render = c :: tail ∧ Opens c
  read : ∀ fuel rest, 2 * v.render.length ≤ fuel → Ends rest →
    readValue fuel depth (v.render ++ rest) = some (v, rest)

/-- No gap is in front of a value. -/
theorem ReadsBack.solid {depth : Nat} {v : Json} (h : ReadsBack depth v) (rest : List Char) :
    skipGap (v.render ++ rest) = v.render ++ rest := by
  obtain ⟨c, tail, hv, hc⟩ := h.opens
  rw [hv]
  exact skipGap_of_solid (solid_cons hc.plain.1 _)

/-- A value is read back when it is read with some fuel. -/
theorem readsBack_of_succ {depth : Nat} {v : Json} {c : Char} {tail : List Char}
    (hv : v.render = c :: tail) (hc : Opens c)
    (h : ∀ fuel rest, 2 * tail.length < fuel → Ends rest →
      readValue (fuel + 1) depth (c :: (tail ++ rest)) = some (v, rest)) : ReadsBack depth v := by
  refine ⟨⟨c, tail, hv, hc⟩, fun fuel rest hfuel hrest => ?_⟩
  rw [hv, List.length_cons] at hfuel
  obtain ⟨fuel, rfl⟩ := Nat.exists_eq_add_one_of_ne_zero (n := fuel) (by omega)
  rw [hv, List.cons_append]
  exact h fuel rest (by omega) hrest

theorem readsBack_null (depth : Nat) : ReadsBack depth .null :=
  readsBack_of_succ rfl (.inl (by simp)) fun _ _ _ _ => rfl

theorem readsBack_bool (depth : Nat) (b : Bool) : ReadsBack depth (.bool b) := by
  cases b with
  | true => exact readsBack_of_succ rfl (.inl (by simp)) fun _ _ _ _ => rfl
  | false => exact readsBack_of_succ rfl (.inl (by simp)) fun _ _ _ _ => rfl

theorem readsBack_text (depth : Nat) (s : String) : ReadsBack depth (.text s) := by
  have hquote : (Json.text s).render = '"' :: (s.toList.flatMap escape ++ ['"']) := by
    simp [render, quoted]
  refine readsBack_of_succ hquote (.inl (by simp)) fun fuel rest _ _ => ?_
  simp [readValue, readText_quoted]

/-! ### What closes a value -/

theorem closes_comma : Closes ',' := by simp [Closes]

theorem closes_bracket : Closes ']' := by simp [Closes]

theorem closes_brace : Closes '\x7d' := by simp [Closes]

theorem Closes.skipGap {c : Char} (h : Closes c) (rest : List Char) :
    Json.skipGap (c :: rest) = c :: rest := skipGap_of_solid (h.solid rest)

/-! ### Whole numbers -/

/-- The literal that a whole number is written as. -/
def literalOf (n : Int) : JsonNumber.Literal :=
  ⟨decide (n < 0), Numeral.decimal n.natAbs, none, none⟩

theorem renderNumber_whole (n : Int) :
    renderNumber (.whole n) = sign (decide (n < 0)) ++ Numeral.decimal n.natAbs := by
  have hdecimal : ∀ m : Nat, m.repr.toList = Numeral.decimal m := by
    intro m
    rw [Nat.repr_eq_ofList_toDigits, String.toList_ofList]
    rfl
  cases n with
  | ofNat m => exact (hdecimal m).trans rfl
  | negSucc m =>
      have hlt : decide (Int.negSucc m < 0) = true := decide_eq_true (Int.negSucc_lt_zero m)
      rw [hlt]
      change ("-" ++ (m + 1).repr).toList = _
      rw [String.toList_append, hdecimal]
      rfl

theorem written_whole (n : Int) : Written (literalOf n) (renderNumber (.whole n)) := by
  have hwritten : Written (literalOf n) _ := .mk (Numeral.digits_decimal n.natAbs)
    Numeral.decimal_of_head .none .none
  rw [renderNumber_whole]
  simpa [literalOf] using hwritten

/-- A whole number of 64 bits, with a sign or without, is read as what it was. -/
theorem value?_literalOf {n : Int} (hlow : -2 ^ 63 ≤ n) (hhigh : n < 2 ^ 64) :
    (literalOf n).value? = some (.whole n) := by
  have hword : maxWord = 2 ^ 64 - 1 := rfl
  have hkept : JsonNumber.Literal.keepWhole (literalOf n).whole = (n.natAbs, 0) := by
    rw [literalOf, keepWhole_of_le (by rw [Numeral.ofDigits_decimal]; omega),
      Numeral.ofDigits_decimal]
  rw [value?_of_whole rfl rfl, hkept, if_pos rfl, JsonNumber.Literal.wholeValue]
  by_cases hneg : n < 0
  · have hpower : twoTo 63 = 2 ^ 63 := rfl
    have hvalue : Int.negOfNat n.natAbs = n := (Int.negOfNat_eq).trans (by
      change -(n.natAbs : Int) = n
      omega)
    rw [if_neg (by simp [literalOf, hneg]), if_neg (by omega), hvalue]
  · have hvalue : (n.natAbs : Int) = n := by omega
    rw [if_pos (by simp [literalOf, hneg]), hvalue]

theorem readsBack_whole (depth : Nat) {n : Int} (hlow : -2 ^ 63 ≤ n) (hhigh : n < 2 ^ 64) :
    ReadsBack depth (.number (.whole n)) := by
  obtain ⟨c, tail, hc, hopens⟩ := opens_of_written (written_whole n)
  have hrender : (Json.number (.whole n)).render = c :: tail := by rw [render, hc]
  have hfirst : Opens c := by
    rcases hopens with rfl | hdigit
    · exact .inl (by simp)
    · exact .inr hdigit
  refine readsBack_of_succ hrender hfirst fun fuel rest _ hrest => ?_
  have hread := read?_of_written (written_whole n) hrest
  rw [hc, List.cons_append] at hread
  rw [readValue_number hopens, readNumber, hread]
  simp [value?_literalOf hlow hhigh]

/-! ### Lists -/

theorem renderItems_cons (item next : Json) (rest : List Json) :
    renderItems (item :: next :: rest) = item.render ++ ',' :: renderItems (next :: rest) := by
  rw [renderItems]
  simp

/-- Items begin as the first of them does. -/
theorem renderItems_append {depth : Nat} {items : List Json} (hne : items ≠ [])
    (h : ∀ v ∈ items, ReadsBack depth v) (rest : List Char) :
    ∃ c tail, renderItems items ++ rest = c :: tail ∧ Opens c := by
  match items, hne with
  | [item], _ =>
      obtain ⟨c, tail, hitem, hc⟩ := (h item (by simp)).opens
      exact ⟨c, tail ++ rest, by rw [renderItems, hitem, List.cons_append], hc⟩
  | item :: next :: more, _ =>
      obtain ⟨c, tail, hitem, hc⟩ := (h item (by simp)).opens
      exact ⟨c, _, by rw [renderItems_cons, hitem, List.append_assoc, List.cons_append], hc⟩

/-- Items that are read back each are read back together. -/
theorem readItems_render {depth : Nat} {items : List Json} (hne : items ≠ [])
    (h : ∀ v ∈ items, ReadsBack depth v) (fuel : Nat) (done : List Json) (rest : List Char)
    (hfuel : 2 * (renderItems items).length < fuel) :
    readItems fuel depth done (renderItems items ++ ']' :: rest)
      = some (.list (done.reverse ++ items), rest) := by
  induction items generalizing fuel done with
  | nil => exact absurd rfl hne
  | cons item more ih =>
      have hitem : ReadsBack depth item := h item (by simp)
      obtain ⟨fuel, rfl⟩ := Nat.exists_eq_add_one_of_ne_zero (n := fuel) (by omega)
      cases more with
      | nil =>
          simp only [renderItems] at hfuel
          have hread := hitem.read fuel (']' :: rest) (by omega) (closes_bracket.ends rest)
          simp only [renderItems, readItems, hread, closes_bracket.skipGap]
          simp
      | cons next more =>
          have hmore : ∀ v ∈ next :: more, ReadsBack depth v := fun v hv => h v (by simp [hv])
          obtain ⟨c, tail, htail, hc⟩ :=
            renderItems_append (List.cons_ne_nil next more) hmore (']' :: rest)
          have hnext : skipGap (renderItems (next :: more) ++ ']' :: rest)
              = renderItems (next :: more) ++ ']' :: rest := by
            rw [htail]
            exact skipGap_of_solid (solid_cons hc.plain.1 tail)
          rw [renderItems_cons] at hfuel ⊢
          simp only [List.length_append, List.length_cons] at hfuel
          have hread := hitem.read fuel (',' :: (renderItems (next :: more) ++ ']' :: rest))
            (by omega) (closes_comma.ends _)
          have hrest := ih (by simp) hmore fuel (item :: done) (by omega)
          simp only [List.append_assoc, List.cons_append, readItems, hread,
            closes_comma.skipGap, hnext, hrest]
          simp

/-- A list is read back when its items are. -/
theorem readsBack_list {depth : Nat} {items : List Json} (h : ∀ v ∈ items, ReadsBack depth v) :
    ReadsBack (depth + 1) (.list items) := by
  have hrender : (Json.list items).render = '[' :: (renderItems items ++ [']']) := by
    simp [render]
  refine readsBack_of_succ hrender (.inl (by simp)) fun fuel rest hfuel _ => ?_
  simp only [List.length_append, List.length_cons, List.length_nil] at hfuel
  rw [List.append_assoc, List.singleton_append]
  by_cases hne : items = []
  · subst hne
    simp [renderItems, readValue, closes_bracket.skipGap]
  · obtain ⟨c, tail, htail, hc⟩ := renderItems_append hne h (']' :: rest)
    have hitems := readItems_render hne h fuel [] rest (by omega)
    have hskip : skipGap (c :: tail) = c :: tail := skipGap_of_solid (solid_cons hc.plain.1 tail)
    rw [htail] at hitems ⊢
    have hbracket : c ≠ ']' := hc.plain.2.1
    simp only [readValue, hskip]
    split
    · rename_i heq
      exact absurd (List.cons.inj heq).1 hbracket
    · simpa using hitems

/-! ### Objects -/

theorem readName_quoted (s : String) (rest : List Char) :
    readName (quoted s ++ ':' :: rest) = some (s, skipGap rest) := by
  rw [quoted_append]
  have hcolon : skipGap (':' :: rest) = ':' :: rest := skipGap_of_solid (solid_cons (by decide) _)
  simp [readName, readText_quoted, hcolon]

theorem renderMembers_cons (name : String) (value : Json) (next : String × Json)
    (rest : List (String × Json)) :
    renderMembers ((name, value) :: next :: rest)
      = quoted name ++ ':' :: value.render ++ ',' :: renderMembers (next :: rest) := by
  rw [renderMembers]
  simp

/-- Members begin with a quote. -/
theorem renderMembers_append {members : List (String × Json)} (hne : members ≠ [])
    (rest : List Char) : ∃ tail, renderMembers members ++ rest = '"' :: tail := by
  match members, hne with
  | [(name, value)], _ => exact ⟨_, by rw [renderMembers, List.append_assoc, quoted_append]⟩
  | (name, value) :: next :: more, _ =>
      exact ⟨_, by rw [renderMembers_cons, List.append_assoc, List.append_assoc, quoted_append]⟩

/-- No gap is in front of members. -/
theorem skipGap_renderMembers {members : List (String × Json)} (hne : members ≠ [])
    (rest : List Char) :
    skipGap (renderMembers members ++ rest) = renderMembers members ++ rest := by
  obtain ⟨tail, htail⟩ := renderMembers_append hne rest
  rw [htail]
  exact skipGap_of_solid (solid_cons (by decide) tail)

/-- Members that are read back each are read back together. -/
theorem readMembers_render {depth : Nat} {members : List (String × Json)} (hne : members ≠ [])
    (h : ∀ m ∈ members, ReadsBack depth m.2) (fuel : Nat) (done : List (String × Json))
    (rest : List Char) (hfuel : 2 * (renderMembers members).length < fuel) :
    readMembers fuel depth done (renderMembers members ++ '\x7d' :: rest)
      = some (.object (done.reverse ++ members), rest) := by
  induction members generalizing fuel done with
  | nil => exact absurd rfl hne
  | cons member more ih =>
      obtain ⟨name, value⟩ := member
      have hvalue : ReadsBack depth value := h (name, value) (by simp)
      obtain ⟨fuel, rfl⟩ := Nat.exists_eq_add_one_of_ne_zero (n := fuel) (by omega)
      cases more with
      | nil =>
          simp only [renderMembers, List.length_append, List.length_cons] at hfuel
          have hread := hvalue.read fuel ('\x7d' :: rest) (by omega) (closes_brace.ends rest)
          simp only [renderMembers, List.append_assoc, List.cons_append, readMembers,
            readName_quoted, hvalue.solid, hread, closes_brace.skipGap]
          simp
      | cons next more =>
          have hnext := skipGap_renderMembers (List.cons_ne_nil next more) ('\x7d' :: rest)
          rw [renderMembers_cons] at hfuel ⊢
          simp only [List.length_append, List.length_cons] at hfuel
          have hread := hvalue.read fuel
            (',' :: (renderMembers (next :: more) ++ '\x7d' :: rest)) (by omega)
            (closes_comma.ends _)
          have hmore := ih (by simp) (fun m hm => h m (by simp [hm])) fuel ((name, value) :: done)
            (by omega)
          simp only [List.append_assoc, List.cons_append, readMembers, readName_quoted,
            hvalue.solid, hread, closes_comma.skipGap, hnext, hmore]
          simp

/-- An object is read back when its members are. -/
theorem readsBack_object {depth : Nat} {members : List (String × Json)}
    (h : ∀ m ∈ members, ReadsBack depth m.2) : ReadsBack (depth + 1) (.object members) := by
  have hrender : (Json.object members).render = '\x7b' :: (renderMembers members ++ ['\x7d']) := by
    simp [render]
  refine readsBack_of_succ hrender (.inl (by simp)) fun fuel rest hfuel _ => ?_
  simp only [List.length_append, List.length_cons, List.length_nil] at hfuel
  rw [List.append_assoc, List.singleton_append]
  by_cases hne : members = []
  · subst hne
    simp [renderMembers, readValue, closes_brace.skipGap]
  · obtain ⟨tail, htail⟩ := renderMembers_append hne ('\x7d' :: rest)
    have hmembers := readMembers_render hne h fuel [] rest (by omega)
    have hskip := skipGap_renderMembers hne ('\x7d' :: rest)
    rw [htail] at hmembers hskip ⊢
    simp only [readValue, hskip]
    simpa using hmembers

/-! ### Exact values -/

/-- A value without floating point numbers in which at most `depth` lists and objects stand inside
one another.  Its numbers are whole ones of 64 bits, with a sign or without, and no object bears a
name twice. -/
inductive Exact : Nat → Json → Prop
  | null {depth : Nat} : Exact depth .null
  | bool {depth : Nat} (b : Bool) : Exact depth (.bool b)
  | whole {depth : Nat} {n : Int} : -2 ^ 63 ≤ n → n < 2 ^ 64 → Exact depth (.number (.whole n))
  | text {depth : Nat} (s : String) : Exact depth (.text s)
  | list {depth : Nat} {items : List Json} : (∀ v ∈ items, Exact depth v) →
      Exact (depth + 1) (.list items)
  | object {depth : Nat} {members : List (String × Json)} : (members.map Prod.fst).Nodup →
      (∀ m ∈ members, Exact depth m.2) → Exact (depth + 1) (.object members)

/-- **Exact values are read back.** -/
theorem Exact.readsBack {depth : Nat} {v : Json} (h : Exact depth v) : ReadsBack depth v := by
  induction h with
  | null => exact readsBack_null _
  | bool b => exact readsBack_bool _ b
  | whole hlow hhigh => exact readsBack_whole _ hlow hhigh
  | text s => exact readsBack_text _ s
  | list _ ih => exact readsBack_list ih
  | object _ _ ih => exact readsBack_object ih

/-! ### Whole texts -/

/-- **What is written is read back from its UTF-8 form.** -/
theorem parse?_encode_render {v : Json} (h : ReadsBack maxDepth v) :
    Json.parse? (Utf8.encode v.render) = some v := by
  have hsolid : skipGap v.render = v.render := by simpa using h.solid []
  have hread := h.read (2 * v.render.length + 2) [] (by omega) (by simp [Ends])
  rw [List.append_nil] at hread
  rw [Json.parse?, Utf8.decode?_iff_encode.2 rfl, Option.bind_some, ofChars?, hsolid, hread]
  rfl

/-! ### No control character -/

/-- A text without control characters. -/
def Shown (s : List Char) : Prop := ∀ c ∈ s, 0x20 ≤ c.toNat

theorem shown_nil : Shown [] := by simp [Shown]

theorem shown_cons {c : Char} {s : List Char} (hc : 0x20 ≤ c.toNat) (h : Shown s) :
    Shown (c :: s) := List.forall_mem_cons.2 ⟨hc, h⟩

theorem Shown.append {s t : List Char} (h : Shown s) (h' : Shown t) : Shown (s ++ t) :=
  List.forall_mem_append.2 ⟨h, h'⟩

theorem shown_digitChar {n : Nat} (h : n < 16) : 0x20 ≤ (Nat.digitChar n).toNat := by
  have hall : ∀ n < 16, 0x20 ≤ (Nat.digitChar n).toNat := by decide
  exact hall n h

theorem shown_decimal (n : Nat) : Shown (Numeral.decimal n) := by
  intro c hc
  have hlow : '0'.toNat ≤ c.toNat := ((Numeral.digits_decimal n).2 c hc).1
  exact le_trans (by decide) hlow

theorem shown_escape (c : Char) : Shown (escape c) := by
  unfold escape
  split
  · rename_i h
    rcases h with rfl | rfl <;> simp [Shown]
  iterate 5
    split
    · simp [Shown]
  split
  · rename_i h
    have hhigh := shown_digitChar (n := c.toNat / 16) (by omega)
    have hlow := shown_digitChar (n := c.toNat % 16) (by omega)
    simp [Shown, hhigh, hlow]
  · rename_i h
    simpa [Shown] using h

theorem shown_quoted (s : String) : Shown (quoted s) := by
  refine shown_cons (by decide) (Shown.append ?_ (shown_cons (by decide) shown_nil))
  intro c hc
  obtain ⟨d, _, hd⟩ := List.mem_flatMap.1 hc
  exact shown_escape d c hd

theorem shown_whole (n : Int) : Shown (renderNumber (.whole n)) := by
  rw [renderNumber_whole]
  refine Shown.append ?_ (shown_decimal n.natAbs)
  unfold sign
  split <;> simp [Shown]

theorem shown_items {items : List Json} (h : ∀ v ∈ items, Shown v.render) :
    Shown (renderItems items) := by
  match items with
  | [] => exact shown_nil
  | [item] => exact h item (by simp)
  | item :: next :: more =>
      rw [renderItems_cons]
      exact (h item (by simp)).append
        (shown_cons (by decide) (shown_items fun v hv => h v (by simp [hv])))

theorem shown_members {members : List (String × Json)} (h : ∀ m ∈ members, Shown m.2.render) :
    Shown (renderMembers members) := by
  match members with
  | [] => exact shown_nil
  | [(name, value)] =>
      exact (shown_quoted name).append (shown_cons (by decide) (h (name, value) (by simp)))
  | (name, value) :: next :: more =>
      rw [renderMembers_cons]
      have hvalue : Shown value.render := h (name, value) (by simp)
      have hmore : Shown (renderMembers (next :: more)) :=
        shown_members fun m hm => h m (by simp [hm])
      exact ((shown_quoted name).append (shown_cons (by decide) hvalue)).append
        (shown_cons (by decide) hmore)

theorem shown_object {members : List (String × Json)} (h : ∀ m ∈ members, Shown m.2.render) :
    Shown (Json.object members).render :=
  shown_cons (by decide) ((shown_members h).append (shown_cons (by decide) shown_nil))

/-- **Exact values are written without control characters.** -/
theorem Exact.shown {depth : Nat} {v : Json} (h : Exact depth v) : Shown v.render := by
  induction h with
  | null => simp [Shown, render]
  | bool b => cases b <;> simp [Shown, render]
  | whole _ _ => exact shown_whole _
  | text s => exact shown_quoted s
  | list _ ih => exact shown_cons (by decide) ((shown_items ih).append (by simp [Shown]))
  | object _ _ ih => exact shown_object ih

end AssemblyGate.JsonText
