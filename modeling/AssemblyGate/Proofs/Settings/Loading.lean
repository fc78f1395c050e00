/-
**What the settings are loaded as.**

The settings are the options that the layers choose, each converted to its type, and they are
refused when one of them does not convert or when a connection would not outlast the assembler.  In
what order the variables and the entries of the file come makes no difference: rearranging them
leaves every chosen option as it is, up to the order of entries inside it, which no conversion
looks at.

A file with a key that is a path into a known section is left out.  Such a key changes an option
that it is not the name of, and can make the settings unreadable.

Main definitions:

* `AssemblyGate.Raw.Rearranged` — the same value with the entries of its tables in another order.

Main results:

* `AssemblyGate.Settings.load_of_layers` — **the settings are the chosen options, converted,
  whatever order they come in**;
* `AssemblyGate.Settings.load_of_layers_port` — a port from the environment over one from a file;
* `AssemblyGate.Settings.pathKey_counts` — a key that is a path counts, whatever it is called.
-/
import AssemblyGate.Proofs.Settings.Layers
import Mathlib.Data.List.Forall2

set_option autoImplicit false

namespace AssemblyGate

namespace Raw

/-! ### Rearranged values -/

/-- The same value with the entries of its tables in another order. -/
inductive Rearranged : Raw → Raw → Prop
  | scalar (origin : Option String) (value : Scalar) :
      Rearranged (.scalar origin value) (.scalar origin value)
  | list (origin : Option String) {items items' : List Raw} :
      List.Forall₂ Rearranged items items' →
        Rearranged (.list origin items) (.list origin items')
  | table (origin : Option String) {entries mid entries' : List (String × Raw)} :
      entries.Perm mid → mid.map Prod.fst = entries'.map Prod.fst →
        List.Forall₂ Rearranged (mid.map Prod.snd) (entries'.map Prod.snd) →
          Rearranged (.table origin entries) (.table origin entries')

/-- Entries with the same keys and rearranged values, in another order. -/
def RearrangedEntries (entries entries' : List (String × Raw)) : Prop :=
  ∃ mid, entries.Perm mid ∧ List.Forall₂ (fun e e' => e.1 = e'.1 ∧ Rearranged e.2 e'.2) mid entries'

/-- What a table is rearranged to is a table. -/
theorem Rearranged.exists_entries {origin : Option String} {entries : List (String × Raw)}
    {raw : Raw} (h : Rearranged (.table origin entries) raw) :
    ∃ entries', raw = .table origin entries' ∧ RearrangedEntries entries entries' := by
  cases h with
  | @table _ _ mid entries' hperm hkeys hvalues =>
      refine ⟨entries', rfl, mid, hperm, ?_⟩
      clear hperm
      induction mid generalizing entries' with
      | nil =>
          obtain rfl : entries' = [] := by simpa using hkeys.symm
          exact .nil
      | cons e mid ih =>
          cases entries' with
          | nil => simp at hkeys
          | cons e' entries' =>
              simp only [List.map_cons, List.cons.injEq, List.forall₂_cons] at hkeys hvalues
              exact .cons ⟨hkeys.1, hvalues.1⟩ (ih hkeys.2 hvalues.2)

theorem Rearranged.entries {origin origin' : Option String} {entries entries' : List (String × Raw)}
    (h : Rearranged (.table origin entries) (.table origin' entries')) :
    RearrangedEntries entries entries' := by
  obtain ⟨_, heq, hentries⟩ := h.exists_entries
  cases heq
  exact hentries

theorem Rearranged.isLeaf {raw raw' : Raw} (h : Rearranged raw raw') (hleaf : raw.IsLeaf) :
    raw'.IsLeaf := by
  cases h with
  | table => exact hleaf.elim
  | scalar => trivial
  | list => trivial

theorem forall₂_exists {α β : Type} {R : α → β → Prop} {l : List α} {l' : List β}
    (h : List.Forall₂ R l l') {a : α} (ha : a ∈ l) : ∃ b ∈ l', R a b := by
  induction h with
  | nil => simp at ha
  | cons hpair _ ih =>
      rcases List.mem_cons.1 ha with rfl | ha
      · exact ⟨_, List.mem_cons_self, hpair⟩
      · obtain ⟨b, hb, hab⟩ := ih ha
        exact ⟨b, List.mem_cons_of_mem _ hb, hab⟩

theorem rel_bind {α β γ δ : Type} {R : α → β → Prop} {S : γ → δ → Prop} {x : Option α}
    {y : Option β} {f : α → Option γ} {g : β → Option δ} (h : Option.Rel R x y)
    (hnext : ∀ a b, R a b → Option.Rel S (f a) (g b)) :
    Option.Rel S (x.bind f) (y.bind g) := by
  cases h with
  | none => exact .none
  | some hab => exact hnext _ _ hab

namespace RearrangedEntries

variable {entries entries' : List (String × Raw)}

theorem keys_perm (h : RearrangedEntries entries entries') :
    (entries.map fun e => keyOf e.1).Perm (entries'.map fun e => keyOf e.1) := by
  obtain ⟨mid, hperm, hpairs⟩ := h
  have hkeys : (mid.map fun e => keyOf e.1) = entries'.map fun e => keyOf e.1 := by
    clear hperm
    induction hpairs with
    | nil => rfl
    | cons hpair _ ih => rw [List.map_cons, List.map_cons, hpair.1, ih]
  exact hkeys ▸ hperm.map _

theorem exists_left (h : RearrangedEntries entries entries') {e' : String × Raw}
    (he' : e' ∈ entries') : ∃ e ∈ entries, e.1 = e'.1 ∧ Rearranged e.2 e'.2 := by
  obtain ⟨mid, hperm, hpairs⟩ := h
  obtain ⟨e, he, hpair⟩ := forall₂_exists hpairs.flip he'
  exact ⟨e, hperm.mem_iff.2 he, hpair⟩

theorem exists_right (h : RearrangedEntries entries entries') {e : String × Raw}
    (he : e ∈ entries) : ∃ e' ∈ entries', e.1 = e'.1 ∧ Rearranged e.2 e'.2 := by
  obtain ⟨mid, hperm, hpairs⟩ := h
  obtain ⟨e', he', hpair⟩ := forall₂_exists hpairs (hperm.mem_iff.1 he)
  exact ⟨e', he', hpair⟩

/-- Distinct keys lead to the same entries, rearranged. -/
theorem find?_rel (h : RearrangedEntries entries entries')
    (hdistinct : (entries.map fun e => keyOf e.1).Nodup) (key : String) :
    Option.Rel (fun e e' => (e ∈ entries ∧ keyOf e.1 = key) ∧ Rearranged e.2 e'.2)
      (entries.find? fun e => keyOf e.1 == key) (entries'.find? fun e => keyOf e.1 == key) := by
  have hdistinct' := h.keys_perm.nodup_iff.1 hdistinct
  cases hfind : entries.find? (fun e => keyOf e.1 == key) with
  | none =>
      have hnone : entries'.find? (fun e => keyOf e.1 == key) = none := by
        rw [List.find?_eq_none] at hfind ⊢
        intro e' he'
        obtain ⟨e, he, hkey, -⟩ := h.exists_left he'
        exact hkey ▸ hfind e he
      rw [hnone]
      exact .none
  | some e =>
      obtain ⟨he, hkey⟩ := (find?_keyOf_eq_some_iff hdistinct).1 hfind
      obtain ⟨e', he', heq, hvalue⟩ := h.exists_right he
      rw [(find?_keyOf_eq_some_iff hdistinct').2 ⟨he', heq ▸ hkey⟩]
      exact .some ⟨⟨he, hkey⟩, hvalue⟩

theorem named?_rel (h : RearrangedEntries entries entries')
    (hdistinct : (entries.map fun e => keyOf e.1).Nodup) (key : String) :
    Option.Rel Rearranged (named? key entries) (named? key entries') := by
  rw [named?, named?, Option.map_eq_bind, Option.map_eq_bind]
  exact rel_bind (h.find?_rel hdistinct key) fun _ _ hpair => .some hpair.2

end RearrangedEntries

/-! ### Conversions do not look at the order of entries -/

/-- A conversion that takes rearranged values to the same result. -/
def IgnoresOrder {α : Type} (convert : Raw → Except LoadError α) : Prop :=
  ∀ {raw raw' : Raw}, Rearranged raw raw' → (convert raw).toOption = (convert raw').toOption

theorem ignoresOrder_toText : IgnoresOrder toText := by rintro _ _ ⟨⟩ <;> rfl

theorem ignoresOrder_toBool : IgnoresOrder Raw.toBool := by rintro _ _ ⟨⟩ <;> rfl

theorem ignoresOrder_toWord : IgnoresOrder toWord := by rintro _ _ ⟨⟩ <;> rfl

theorem ignoresOrder_toPort : IgnoresOrder toPort := by rintro _ _ ⟨⟩ <;> rfl

theorem ignoresOrder_toOption {α : Type} {convert : Raw → Except LoadError α}
    (h : IgnoresOrder convert) : IgnoresOrder (toOption convert) := by
  have hsome : ∀ {raw raw' : Raw}, Rearranged raw raw' →
      ((convert raw).map some).toOption = ((convert raw').map some).toOption := by
    intro raw raw' hraw
    have hsame := h hraw
    cases hleft : convert raw <;> cases hright : convert raw' <;>
      simp_all [Except.toOption, Except.map]
  intro raw raw' hraw
  cases hraw with
  | scalar origin value => rfl
  | list origin hitems => exact hsome (.list origin hitems)
  | table origin hperm hkeys hvalues => exact hsome (.table origin hperm hkeys hvalues)

theorem toOption_textsFrom_cons (position : Nat) (item : Raw) (rest : List Raw) :
    (textsFrom position (item :: rest)).toOption
      = item.toText.toOption.bind fun s =>
          (textsFrom (position + 1) rest).toOption.map (s :: ·) := by
  rw [textsFrom]
  cases item.toText with
  | error e => rfl
  | ok s => cases textsFrom (position + 1) rest <;> rfl

theorem ignoresOrder_toTexts : IgnoresOrder toTexts := by
  have hlist : ∀ {items items' : List Raw}, List.Forall₂ Rearranged items items' →
      ∀ position, (textsFrom position items).toOption = (textsFrom position items').toOption := by
    intro items items' hitems
    induction hitems with
    | nil => exact fun _ => rfl
    | cons hitem _ ih =>
        intro position
        rw [toOption_textsFrom_cons, toOption_textsFrom_cons, ignoresOrder_toText hitem, ih]
  intro raw raw' hraw
  cases hraw with
  | scalar => rfl
  | list origin hitems => exact hlist hitems 0
  | table => rfl

end Raw

namespace Settings

open Raw

/-- No option looks at the order of entries. -/
theorem ignoresOrder : ∀ o ∈ all, IgnoresOrder o.convert := by
  simp only [all, List.forall_mem_cons, List.not_mem_nil, false_implies, implies_true, and_true]
  simp only [ignoresOrder_toText, ignoresOrder_toBool, ignoresOrder_toWord, ignoresOrder_toPort,
    ignoresOrder_toTexts, ignoresOrder_toOption, and_self]

theorem Takes.iff_of_rel {α : Type} {convert : Raw → Except LoadError α}
    (hconvert : IgnoresOrder convert) {found found' : Option Raw}
    (h : Option.Rel Rearranged found found') (standard a : α) :
    Takes convert standard found a ↔ Takes convert standard found' a := by
  have hok : ∀ x : Except LoadError α, x = .ok a ↔ x.toOption = some a := by
    intro x
    cases x <;> simp [Except.toOption]
  cases h with
  | none => rfl
  | some hraw =>
      change convert _ = .ok a ↔ convert _ = .ok a
      rw [hok, hok, hconvert hraw]

end Settings

/-! ### Rearranged files -/

namespace ConfigFile

open Raw

variable {file file' : List (String × Raw)}

theorem IsPlain.option?_rel (h : IsPlain file) (hfiles : RearrangedEntries file file')
    {sec field : String} (hplace : (sec, field) ∈ Settings.places) :
    Option.Rel Rearranged (option? file sec field) (option? file' sec field) := by
  refine rel_bind (hfiles.find?_rel h.distinct sec) fun e e' hpair => ?_
  obtain ⟨⟨he, hkey⟩, hvalue⟩ := hpair
  obtain ⟨origin, entries, heq, hdistinct⟩ := h.tables e he (hkey ▸ Settings.mem_sections hplace)
  rw [heq] at hvalue ⊢
  obtain ⟨entries', hentries', hrearranged⟩ := hvalue.exists_entries
  rw [hentries']
  exact hrearranged.named?_rel hdistinct field

theorem IsPlain.rearranged (h : IsPlain file) (hfiles : RearrangedEntries file file') :
    IsPlain file' where
  distinct := hfiles.keys_perm.nodup_iff.1 h.distinct
  tables := by
    intro e' he' hsec
    obtain ⟨e, he, hkey, hvalue⟩ := hfiles.exists_left he'
    obtain ⟨origin, entries, heq, hdistinct⟩ := h.tables e he (hkey ▸ hsec)
    rw [heq] at hvalue
    obtain ⟨entries', hentries', hrearranged⟩ := hvalue.exists_entries
    exact ⟨origin, entries', hentries', hrearranged.keys_perm.nodup_iff.1 hdistinct⟩
  leaves := by
    intro e' he' f' hf' hplace
    obtain ⟨e, he, hkey, hvalue⟩ := hfiles.exists_left he'
    obtain ⟨origin, entries, heq, -⟩ :=
      h.tables e he (hkey ▸ Settings.mem_sections hplace)
    rw [heq] at hvalue
    obtain ⟨entries', hentries', hrearranged⟩ := hvalue.exists_entries
    rw [hentries'] at hf'
    obtain ⟨f, hf, hfield, hinner⟩ := hrearranged.exists_left hf'
    exact hinner.isLeaf (h.leaves e he f (heq ▸ hf) (by rwa [hkey, hfield]))

theorem HasNoPaths.rearranged (h : HasNoPaths file) (hfiles : RearrangedEntries file file') :
    HasNoPaths file' := by
  intro e' he'
  obtain ⟨e, he, hkey, -⟩ := hfiles.exists_left he'
  exact hkey ▸ h e he

end ConfigFile

namespace Settings

open Raw

variable {file file' : List (String × Raw)} {environment environment' : List (String × String)}

/-- Settings are made of the chosen options in whatever order they come. -/
theorem reads_iff_of_rearranged (hfile : ConfigFile.IsPlain file)
    (henvironment : Environment.IsPlain environment) (hfiles : RearrangedEntries file file')
    (hperm : environment.Perm environment') (s : Settings) :
    Reads (chosen? file environment) s ↔ Reads (chosen? file' environment') s := by
  refine forall_congr' fun o => forall_congr' fun ho => ?_
  have hplace : (o.sec, o.field) ∈ places := List.mem_map.2 ⟨o, ho, rfl⟩
  unfold chosen?
  rw [Environment.textOf?_perm henvironment hperm]
  cases Environment.textOf? environment o.sec o.field with
  | some text => rfl
  | none => exact Takes.iff_of_rel (ignoresOrder o ho) (hfile.option?_rel hfiles hplace) _ _

theorem toOption_eq_some_iff {ε α : Type} {x : Except ε α} {s : α} :
    x.toOption = some s ↔ x = .ok s := by
  cases x <;> simp [Except.toOption]

/-- **The settings are the chosen options, each converted.**  They load when every option converts
and a connection made of them outlasts the assembler, and the order of the variables and of the
file's entries does not matter. -/
theorem load_of_layers {view : FileView} {name : String}
    (hlayer : ConfigFile.layer view name = .ok file) (hfile : ConfigFile.IsPlain file)
    (hpaths : ConfigFile.HasNoPaths file) (henvironment : Environment.IsPlain environment) :
    (∀ s, load view environment name = .ok s ↔
      Reads (chosen? file environment) s ∧ s.outlasts = true) ∧
    ((∃ s, load view environment name = .ok s) ↔
      (∀ o ∈ all, ∃ a,
        Takes o.convert (o.get standard) (chosen? file environment o.sec o.field) a) ∧
      ∀ s, Reads (chosen? file environment) s → s.outlasts = true) ∧
    ∀ file' environment', Rearranged (.table none file) (.table none file') →
      environment.Perm environment' →
        (ofLayers file' (Environment.layer environment')).toOption
          = (load view environment name).toOption := by
  have hload : load view environment name = ofLayers file (Environment.layer environment) := by
    simp only [load, hlayer]
  have hiff := ofLayers_eq_ok_iff hfile hpaths henvironment
  have hread := ofRaw_eq_ok_iff (holds_merged hfile hpaths henvironment)
  rw [hload]
  refine ⟨hiff, ?_, ?_⟩
  · rw [← exists_reads_iff]
    constructor
    · rintro ⟨s, hs⟩
      obtain ⟨hreads, hlasts⟩ := (hiff s).1 hs
      refine ⟨⟨s, hreads⟩, fun s' hreads' => ?_⟩
      -- the tree converts to one result only
      have hsame : Except.ok s = Except.ok s' :=
        ((hread s).2 hreads).symm.trans ((hread s').2 hreads')
      cases hsame
      exact hlasts
    · rintro ⟨⟨s, hreads⟩, hlasts⟩
      exact ⟨s, (hiff s).2 ⟨hreads, hlasts s hreads⟩⟩
  · intro file' environment' hfiles hperm
    ext s
    have hiff' := ofLayers_eq_ok_iff (hfile.rearranged hfiles.entries)
      (hpaths.rearranged hfiles.entries) (henvironment.perm hperm) s
    rw [toOption_eq_some_iff, toOption_eq_some_iff, hiff', hiff s,
      reads_iff_of_rearranged hfile henvironment hfiles.entries hperm]

/-! ### A file and a variable -/

/-- A machine with one file of settings. -/
def viewOf (text : String) : FileView where
  current := "/"
  isFile path := path == "/config.toml"
  contents? path := if path == "/config.toml" then some (Utf8.encode text.toList) else none

/-- What the values of the file know of where they come from. -/
def fileOrigin : Option String := some "config.toml"

/-- The layer of a file that sets the port. -/
def portFile : List (String × Raw) :=
  [("Server", .table fileOrigin [("PORT", .scalar fileOrigin (.int 3000))])]

/-- A machine with such a file. -/
def portView : FileView := viewOf "[Server]\nPORT = 3000\n"

/-- An environment in which a variable sets the port. -/
def portEnvironment : List (String × String) :=
  [("asmcheck__Server__Port", "4000"), ("PATH", "/bin")]

/-- The only entry of a table, if it is a whole number. -/
def onlyInt? : List (String × Raw) → Option (String × Option String × Int)
  | [(key, .scalar origin (.int n))] => some (key, origin, n)
  | _ => none

/-- The only entry of a table, if it is a table. -/
def onlyTable? : List (String × Raw) → Option (String × Option String × List (String × Raw))
  | [(key, .table origin entries)] => some (key, origin, entries)
  | _ => none

theorem eq_of_onlyInt? {entries : List (String × Raw)} {key : String} {origin : Option String}
    {n : Int} (h : onlyInt? entries = some (key, origin, n)) :
    entries = [(key, .scalar origin (.int n))] := by
  unfold onlyInt? at h
  split at h
  · obtain ⟨rfl, rfl, rfl⟩ := by simpa using h
    rfl
  · cases h

theorem eq_of_onlyTable? {entries inner : List (String × Raw)} {key : String}
    {origin : Option String} (h : onlyTable? entries = some (key, origin, inner)) :
    entries = [(key, .table origin inner)] := by
  unfold onlyTable? at h
  split at h
  · obtain ⟨rfl, rfl, rfl⟩ := by simpa using h
    rfl
  · cases h

theorem layer_portView : ConfigFile.layer portView "config" = .ok portFile := by
  have hshape : ((ConfigFile.layer portView "config").toOption.bind onlyTable?).map
      (fun t => (t.1, t.2.1, onlyInt? t.2.2)) =
      some ("Server", fileOrigin, some ("PORT", fileOrigin, 3000)) := by decide +kernel
  obtain ⟨⟨sec, origin, inner⟩, htable, heq⟩ := Option.map_eq_some_iff.1 hshape
  simp only [Prod.mk.injEq] at heq
  obtain ⟨rfl, rfl, hint⟩ := heq
  obtain ⟨entries, hlayer, hentries⟩ := Option.bind_eq_some_iff.1 htable
  rw [toOption_eq_some_iff.1 hlayer, eq_of_onlyTable? hentries, eq_of_onlyInt? hint]
  rfl

theorem isPlain_portFile : ConfigFile.IsPlain portFile where
  distinct := by simp [portFile]
  tables := by
    intro e he _
    obtain rfl := List.mem_singleton.1 he
    exact ⟨_, _, rfl, by simp⟩
  leaves := by
    intro e he e' he' _
    obtain rfl := List.mem_singleton.1 he
    obtain rfl := List.mem_singleton.1 he'
    trivial

theorem hasNoPaths_portFile : ConfigFile.HasNoPaths portFile := by
  intro e he
  obtain rfl := List.mem_singleton.1 he
  have hname : KeyPath.IsName "Server".toList := by decide
  exact ⟨.inl (KeyPath.ofKey_of_isName hname),
    .inl (KeyPath.ofKey_of_isName (KeyPath.isName_keyOf hname))⟩

theorem isPlain_portEnvironment : Environment.IsPlain portEnvironment where
  named := by
    have hname : lowerCase "asmcheck__Server__Port".toList
        = Environment.spelling "server" "port" := by
      decide +kernel
    have hother : ¬Environment.IsMarked "PATH" := by
      unfold Environment.IsMarked
      decide +kernel
    intro v hv hmarked
    rcases List.mem_cons.1 hv with rfl | hv
    · exact ⟨"server", "port", isPair_of_mem (by decide), hname⟩
    · obtain rfl := List.mem_singleton.1 hv
      exact absurd hmarked hother
  apart := by
    have hne : lowerCase "asmcheck__Server__Port".toList ≠ lowerCase "PATH".toList := by
      decide +kernel
    exact List.pairwise_pair.2 fun _ => hne

/-- The variable goes before the file, and the default stays where neither says anything. -/
theorem load_of_layers_port :
    (∃ s, load portView portEnvironment "config" = .ok s) ∧
      ∀ s, load portView portEnvironment "config" = .ok s →
        s.server.port = 4000 ∧ s.server.host = "127.0.0.1" := by
  have hlayers := load_of_layers layer_portView isPlain_portFile hasNoPaths_portFile
    isPlain_portEnvironment
  constructor
  · have hload :
        (ofLayers portFile (Environment.layer portEnvironment)).toOption.isSome = true := by
      decide +kernel
    obtain ⟨s, hs⟩ := Option.isSome_iff_exists.1 hload
    refine ⟨s, ?_⟩
    simp only [load, layer_portView]
    exact toOption_eq_some_iff.1 hs
  · intro s hs
    obtain ⟨hreads, -⟩ := (hlayers.1 s).1 hs
    have hport : Takes toPort 8080 (chosen? portFile portEnvironment "server" "port")
        s.server.port := hreads ⟨"server", "port", UInt16, toPort, (·.server.port)⟩ (by simp [all])
    have hhost : Takes toText "127.0.0.1" (chosen? portFile portEnvironment "server" "host")
        s.server.host := hreads ⟨"server", "host", String, toText, (·.server.host)⟩ (by simp [all])
    have htext : Environment.textOf? portEnvironment "server" "port" = some "4000" := by
      decide +kernel
    have hconverted : toPort (Environment.valueOf "server.port" "4000") = .ok 4000 := by
      decide +kernel
    have hnone : (chosen? portFile portEnvironment "server" "host").isNone = true := by
      decide +kernel
    rw [chosen?, htext] at hport
    rw [Option.isNone_iff_eq_none.1 hnone] at hhost
    exact ⟨Except.ok.inj (hport.symm.trans hconverted), hhost⟩

/-! ### A key that is a path -/

/-- The layer of a file whose only key looks like the way to the port. -/
def pathFile : List (String × Raw) := [("server.port", .scalar fileOrigin (.int 3))]

/-- A machine with such a file. -/
def pathView : FileView := viewOf "\"server.port\" = 3\n"

theorem layer_pathView : ConfigFile.layer pathView "config" = .ok pathFile := by
  have hshape : (ConfigFile.layer pathView "config").toOption.bind onlyInt? =
      some ("server.port", fileOrigin, 3) := by decide +kernel
  obtain ⟨entries, hlayer, hentries⟩ := Option.bind_eq_some_iff.1 hshape
  rw [toOption_eq_some_iff.1 hlayer, eq_of_onlyInt? hentries]
  rfl

theorem keyOf_pathFile_notMem : keyOf "server.port" ∉ sections := by decide +kernel

theorem isPlain_pathFile : ConfigFile.IsPlain pathFile where
  distinct := by simp [pathFile]
  tables := by
    intro e he hsec
    obtain rfl := List.mem_singleton.1 he
    exact absurd hsec keyOf_pathFile_notMem
  leaves := by
    intro e he e' he' _
    obtain rfl := List.mem_singleton.1 he
    simp [tableParts] at he'

/-- **Not every key that is no section leaves the options alone**: a key that is the path of the
port sets it, although neither the environment nor a section of the file has a value for any
option. -/
theorem pathKey_counts :
    ¬∀ (view : FileView) (name : String) (file : List (String × Raw))
      (environment : List (String × String)), ConfigFile.layer view name = .ok file →
      ConfigFile.IsPlain file → Environment.IsPlain environment →
      ∀ s, load view environment name = .ok s ↔
        Reads (chosen? file environment) s ∧ s.outlasts = true := by
  intro h
  have hreads : Reads (chosen? pathFile []) standard := by
    intro o ho
    have hne : keyOf "server.port" ≠ o.sec := fun heq =>
      keyOf_pathFile_notMem (heq ▸ mem_sections (List.mem_map.2 ⟨o, ho, rfl⟩))
    have hnone : chosen? pathFile [] o.sec o.field = none := by
      simp [chosen?, Environment.textOf?, ConfigFile.option?, pathFile, hne]
    rw [hnone]
    rfl
  have hload := (h pathView "config" pathFile [] layer_pathView isPlain_pathFile
    ⟨by simp, List.Pairwise.nil⟩ standard).2 ⟨hreads, by decide⟩
  have hport :
      (ofLayers pathFile (Environment.layer [])).toOption.map (·.server.port) = some 3 := by
    decide +kernel
  simp only [load, layer_pathView] at hload
  rw [hload] at hport
  cases hport

end Settings

end AssemblyGate
