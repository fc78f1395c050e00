/-
**Access lines cannot be forged.**

The line of an access entry holds texts that the client has chosen: a method, a path and its name
for itself.  As long as method and path hold no space, whoever reads the line by its quotation marks
and spaces finds the fields of the entry and nothing else in their places; and no text of the client
ends the line.  A line that is a JSON object is read back as a whole.

Main definitions:

* `AssemblyGate.Outside` — texts that stand outside quotation marks;
* `AssemblyGate.LineFields.read` — the fields of a line in the common or the combined format;
* `AssemblyGate.AccessEntry.Proper` — an entry of a request that could be received.

Main results:

* `AssemblyGate.AccessEntry.Proper.unbroken` — no line is ended from within;
* `AssemblyGate.AccessEntry.Proper.read_render` — **the fields of a line are those of its entry**;
* `AssemblyGate.AccessEntry.parse?_render` — a line in JSON is read as the object of its entry.
-/
import AssemblyGate.Journal.AccessEntry
import AssemblyGate.Net.Address
import AssemblyGate.Proofs.Json.ReadBack
import AssemblyGate.Proofs.Text.Cutting

set_option autoImplicit false

namespace AssemblyGate

/-! ### Texts outside quotation marks -/

/-- A text without control characters and quotation marks. -/
def Outside (s : List Char) : Prop := ∀ c ∈ s, 0x20 ≤ c.toNat ∧ c ≠ '"'

instance : DecidablePred Outside := fun s =>
  List.decidableBAll _ s

@[simp] theorem outside_nil : Outside [] := by simp [Outside]

@[simp] theorem outside_cons {c : Char} {s : List Char} :
    Outside (c :: s) ↔ (0x20 ≤ c.toNat ∧ c ≠ '"') ∧ Outside s := List.forall_mem_cons

@[simp] theorem outside_append {s t : List Char} : Outside (s ++ t) ↔ Outside s ∧ Outside t :=
  List.forall_mem_append

theorem outside_replicate {c : Char} (h : 0x20 ≤ c.toNat ∧ c ≠ '"') (n : Nat) :
    Outside (List.replicate n c) := fun _ hd => List.eq_of_mem_replicate hd ▸ h

theorem outside_digitChar {n : Nat} (h : n < 16) : Outside [Nat.digitChar n] := by
  have hall : ∀ n < 16, Outside [Nat.digitChar n] := by decide
  exact hall n h

/-- The digits of a number, in any base up to sixteen. -/
theorem outside_toDigits {base : Nat} (hlow : 1 < base) (hhigh : base ≤ 16) (n : Nat) :
    Outside (Nat.toDigits base n) := by
  induction n using Nat.strongRecOn with
  | ind n ih =>
      rcases Nat.lt_or_ge n base with hsmall | hlarge
      · rw [Nat.toDigits_of_lt_base hsmall]
        exact outside_digitChar (by omega)
      · have hdigit : n % base < 16 := (Nat.mod_lt n (by omega)).trans_le hhigh
        rw [Nat.toDigits_of_base_le hlow hlarge, outside_append]
        exact ⟨ih _ (Nat.div_lt_self (by omega) hlow), outside_digitChar hdigit⟩

@[simp] theorem outside_decimal (n : Nat) : Outside (Nat.toDigits 10 n) :=
  outside_toDigits (by decide) (by decide) n

@[simp] theorem outside_hex (n : Nat) : Outside (Nat.toDigits 16 n) :=
  outside_toDigits (by decide) (by decide) n

@[simp] theorem outside_padded (width n : Nat) : Outside (Numeral.padded width n) := by
  simpa [Numeral.padded] using outside_replicate (by decide) _

/-! ### Addresses and times -/

theorem outside_intercalate {gap : List Char} {texts : List (List Char)} (hgap : Outside gap)
    (h : ∀ s ∈ texts, Outside s) : Outside (gap.intercalate texts) := by
  induction texts with
  | nil => simp [List.intercalate]
  | cons s rest ih =>
      have hs : Outside s := h s (by simp)
      have hrest := ih fun t ht => h t (by simp [ht])
      cases rest with
      | nil => simpa [List.intercalate] using hs
      | cons t rest =>
          simp only [List.intercalate, List.intersperse_cons_cons, List.flatten_cons,
            outside_append] at hrest ⊢
          exact ⟨hs, hgap, hrest⟩

theorem outside_ipv4 (ip : Ipv4) : Outside ip.render := by
  simp [Ipv4.render]

theorem outside_groups (groups : List UInt16) : Outside (Ipv6.renderGroups groups) := by
  refine outside_intercalate (by simp) fun s hs => ?_
  obtain ⟨g, -, rfl⟩ := List.mem_map.1 hs
  exact outside_hex _

theorem outside_ipv6 (ip : Ipv6) : Outside ip.render := by
  unfold Ipv6.render
  split
  · exact outside_append.2 ⟨by decide, outside_ipv4 _⟩
  · dsimp only
    split
    · simp [outside_groups]
    · exact outside_groups _

theorem outside_address (address : SocketAddress) : Outside address.render.toList := by
  rw [SocketAddress.render, String.toList_ofList, SocketAddress.renderChars]
  cases address with
  | v4 ip port => simp [SocketAddress.renderHost, outside_ipv4]
  | v6 ip scope port =>
      have hscope : Outside (if scope = 0 then [] else '%' :: Nat.toDigits 10 scope.toNat) := by
        split <;> simp
      simp [SocketAddress.renderHost, outside_ipv6, hscope]

theorem outside_monthName (month : Nat) : Outside (Date.monthName month).toList := by
  unfold Date.monthName
  split <;> decide

theorem outside_year (y : Int) : Outside (Stamp.year y) := by
  unfold Stamp.year
  split
  · simp
  · split <;> simp

theorem outside_offsetForm (offset : Int) : Outside (Stamp.offsetForm [] offset) := by
  unfold Stamp.offsetForm
  dsimp only
  split <;> simp

theorem outside_logForm (s : Stamp) : Outside s.logForm := by
  simp [Stamp.logForm, Stamp.clock, outside_monthName, outside_year, outside_offsetForm]

/-! ### Reading a line -/

/-- The fields of an access line. -/
structure LineFields where
  method : List Char
  path : List Char
  version : List Char
  status : List Char
  size : List Char
deriving DecidableEq

/-- Read a line by its quotation marks and spaces. -/
def LineFields.read (line : List Char) : LineFields :=
  let (_, request) := cutAt '"' line
  let (method, rest) := cutAt ' ' request
  let (path, rest) := cutAt ' ' rest
  let (version, rest) := cutAt '"' rest
  let (_, rest) := cutAt ' ' rest
  let (status, rest) := cutAt ' ' rest
  ⟨method, path, version, status, (cutAt ' ' rest).1⟩

/-! ### Entries that can be received -/

namespace AccessEntry

/-- An entry of a request that could be received. -/
structure Proper (e : AccessEntry) : Prop where
  peer : Outside e.peer.toList
  method : ∀ c ∈ e.method.toList, 0x21 ≤ c.toNat
  path : ∀ c ∈ e.path.toList, 0x21 ≤ c.toNat
  version : Outside e.version.toList
  agent : ∀ agent ∈ e.agent, '\n' ∉ agent.toList

/-- The fields of the line of an entry. -/
def fields (e : AccessEntry) : LineFields where
  method := e.method.toList
  path := e.path.toList
  version := "HTTP/".toList ++ e.version.toList
  status := Nat.toDigits 10 e.status
  size := Nat.toDigits 10 e.bodyBytes

variable {e : AccessEntry}

theorem Proper.read_commonLine (h : e.Proper) {rest : List Char}
    (hrest : rest = [] ∨ rest.head? = some ' ') :
    LineFields.read (e.commonLine ++ rest) = e.fields := by
  have hquote : ∀ {s : List Char}, Outside s → '"' ∉ s := fun hs hmem => (hs _ hmem).2 rfl
  have hspace : ∀ {s : List Char}, (∀ c ∈ s, 0x21 ≤ c.toNat) → ' ' ∉ s :=
    fun hs hmem => absurd (hs _ hmem) (by decide)
  have hdigits : ∀ n : Nat, ' ' ∉ Nat.toDigits 10 n := by
    intro n hmem
    exact absurd ((Numeral.digits_decimal n).2 _ hmem).1 (by decide)
  have hfront : '"' ∉ e.peer.toList ++ " - - [".toList ++ e.time.logForm ++ "] ".toList :=
    hquote (by simp only [outside_append, h.peer, outside_logForm, true_and, and_true]; decide)
  have hversion : '"' ∉ "HTTP/".toList ++ e.version.toList :=
    hquote (outside_append.2 ⟨by decide, h.version⟩)
  -- the line as the reader cuts it, at each of its quotation marks and spaces in turn
  have hline : e.commonLine ++ rest
      = (e.peer.toList ++ " - - [".toList ++ e.time.logForm ++ "] ".toList) ++ '"' ::
          (e.method.toList ++ ' ' :: (e.path.toList ++ ' ' ::
            (("HTTP/".toList ++ e.version.toList) ++ '"' :: ([] ++ ' ' ::
              (Nat.toDigits 10 e.status ++ ' ' :: (Nat.toDigits 10 e.bodyBytes ++ rest)))))) := by
    simp [commonLine]
  rw [LineFields.read, hline, cutAt_append hfront]
  dsimp only
  rw [cutAt_append (hspace h.method), cutAt_append (hspace h.path)]
  dsimp only
  rw [cutAt_append hversion, cutAt_append (by simp), cutAt_append (hdigits _)]
  dsimp only
  rw [cutAt_fst (hdigits _) hrest]
  rfl

/-- **The fields of a line are those of its entry**, in the common and in the combined format. -/
theorem Proper.read_render (h : e.Proper) {format : AccessFormat} (hformat : format ≠ .json) :
    LineFields.read (e.render format).toList = e.fields := by
  rw [render, String.toList_ofList]
  cases format with
  | common => simpa [renderChars] using h.read_commonLine (.inl rfl)
  | combined =>
      have hline : e.combinedLine = e.commonLine ++ (" \"-\" \"".toList
          ++ (e.agent.getD "-").toList ++ "\" ".toList ++ Nat.toDigits 10 e.micros
          ++ "us".toList) := by
        simp only [combinedLine, List.append_assoc]
      rw [renderChars, hline]
      exact h.read_commonLine (.inr rfl)
  | json => exact absurd rfl hformat

/-! ### No line is ended from within -/

theorem Proper.unbroken_commonLine (h : e.Proper) : '\n' ∉ e.commonLine := by
  have houtside : ∀ {s : List Char}, Outside s → '\n' ∉ s :=
    fun hs hmem => absurd (hs _ hmem).1 (by decide)
  have hvisible : ∀ {s : List Char}, (∀ c ∈ s, 0x21 ≤ c.toNat) → '\n' ∉ s :=
    fun hs hmem => absurd (hs _ hmem) (by decide)
  have hdigits : ∀ n : Nat, '\n' ∉ Nat.toDigits 10 n := fun n => houtside (outside_decimal n)
  simp [commonLine, houtside h.peer, houtside (outside_logForm _), hvisible h.method,
    hvisible h.path, houtside h.version, hdigits]

/-- The members of the object of an entry. -/
def members (e : AccessEntry) : List (String × Json) :=
  [("remote_addr", .text e.peer),
    ("time", .text (String.ofList e.time.internetForm)),
    ("method", .text e.method),
    ("path", .text e.path),
    ("http_version", .text e.version),
    ("status", .number (.whole e.status)),
    ("body_bytes", .number (.whole e.bodyBytes)),
    ("user_agent", (e.agent.map Json.text).getD .null),
    ("compiled", (e.compiled.map Json.bool).getD .null),
    ("request_time_us", .number (.whole e.micros))]

theorem toJson_eq (e : AccessEntry) : e.toJson = .object e.members := rfl

theorem nodup_members (e : AccessEntry) : (e.members.map Prod.fst).Nodup := by
  simp [members]

/-- What stands in the object of an entry. -/
inductive Stands (e : AccessEntry) : Json → Prop
  | null : Stands e .null
  | bool (b : Bool) : Stands e (.bool b)
  | text (s : String) : Stands e (.text s)
  | number {n : Nat} : n ∈ [e.status, e.bodyBytes, e.micros] → Stands e (.number (.whole n))

theorem stands_of_mem (e : AccessEntry) : ∀ m ∈ e.members, Stands e m.2 := by
  have hagent : Stands e ((e.agent.map Json.text).getD .null) := by
    cases e.agent with
    | none => exact .null
    | some agent => exact .text agent
  have hcompiled : Stands e ((e.compiled.map Json.bool).getD .null) := by
    cases e.compiled with
    | none => exact .null
    | some b => exact .bool b
  simp [members, Stands.text, Stands.number, hagent, hcompiled]

theorem shown_toJson (e : AccessEntry) : JsonText.Shown e.toJson.render := by
  refine JsonText.shown_object fun ⟨name, v⟩ hm => ?_
  have hv : Stands e v := stands_of_mem e _ hm
  cases hv with
  | null => simp [JsonText.Shown, Json.render]
  | bool b => cases b <;> simp [JsonText.Shown, Json.render]
  | text s => exact JsonText.shown_quoted s
  | number _ => exact JsonText.shown_whole _

/-- **No line is ended from within**, whatever the client has sent. -/
theorem Proper.unbroken (h : e.Proper) (format : AccessFormat) :
    '\n' ∉ (e.render format).toList := by
  rw [render, String.toList_ofList]
  cases format with
  | common => exact h.unbroken_commonLine
  | combined =>
      have hagent : '\n' ∉ (e.agent.getD "-").toList := by
        cases hagent : e.agent with
        | none => decide
        | some agent => exact h.agent agent hagent
      have hmicros : '\n' ∉ Nat.toDigits 10 e.micros :=
        fun hmem => absurd (outside_decimal _ _ hmem).1 (by decide)
      simp [renderChars, combinedLine, h.unbroken_commonLine, hagent, hmicros]
  | json => exact fun hmem => absurd (shown_toJson e _ hmem) (by decide)

/-! ### Lines in JSON -/

/-- A line in JSON is read as the object of its entry, when the numbers in it have 64 bits. -/
theorem parse?_render (hstatus : e.status < 2 ^ 64) (hsize : e.bodyBytes < 2 ^ 64)
    (hmicros : e.micros < 2 ^ 64) :
    Json.parse? (Utf8.encode (e.render .json).toList) = some (.object e.members) := by
  have hexact : JsonText.Exact Json.maxDepth e.toJson := by
    refine .object (nodup_members e) fun ⟨name, v⟩ hm => ?_
    have hv : Stands e v := stands_of_mem e _ hm
    cases hv with
    | null => exact .null
    | bool b => exact .bool b
    | text s => exact .text s
    | number hn =>
        simp only [List.mem_cons, List.not_mem_nil, or_false] at hn
        exact .whole (by omega) (by omega)
  rw [render, String.toList_ofList, ← toJson_eq]
  exact JsonText.parse?_encode_render hexact.readsBack

end AccessEntry

end AssemblyGate
