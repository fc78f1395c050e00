/-
**Where the options stand in a tree of settings.**

An option is an entry of a section, and a section an entry of the root.  Putting a value at a path
changes one entry of the root and no other; inside a section that is known it changes one option, or
those that the table put there names.  So what a layer leaves in the tree can be said option by
option: the value that the layer has for it, and otherwise the one that was there.

Main definitions:

* `AssemblyGate.Raw.option?` — the value of an option in a tree;
* `AssemblyGate.KeyPath.offer?` — what an entry of a layer has for an option;
* `AssemblyGate.Raw.IsOrderly` — a tree whose known sections are tables, and whose keys are kept in
  lower case, each once.

Main results:

* `AssemblyGate.Raw.option?_overlay` — **a layer has its way with the options that it names, and
  leaves the others as they were**;
* `AssemblyGate.Raw.IsOrderly.overlay` — a layer keeps a tree orderly.
-/
import AssemblyGate.Proofs.Settings.PathKeys
import Mathlib.Data.List.Nodup

set_option autoImplicit false

namespace AssemblyGate

/-! ### Entries -/

namespace Raw

theorem keyOf_keyOf (name : String) : keyOf (keyOf name) = keyOf name := by
  simp only [keyOf, String.toList_ofList, lowerCase_lowerCase]

/-- The entries of a table whose keys are in lower case and stand there once. -/
structure Tidy (entries : List (String × Raw)) : Prop where
  distinct : (entries.map Prod.fst).Nodup
  kept : ∀ e ∈ entries, keyOf e.1 = e.1

theorem tidy_nil : Tidy [] := ⟨List.nodup_nil, by simp⟩

theorem find?_store (key name : String) (value : Raw) (entries : List (String × Raw)) :
    find? key (store name value entries) =
      if name = key then some value else find? key entries := by
  induction entries with
  | nil => by_cases h : name = key <;> simp [store, find?, h]
  | cons e rest ih =>
      by_cases hname : e.1 = name
      · by_cases h : name = key <;> simp [store, find?, hname, h]
      · by_cases hkey : e.1 = key
        · subst hkey
          simp [store, find?, hname, Ne.symm hname]
        · simpa [store, find?, hname, hkey] using ih

theorem mem_store {name : String} {value : Raw} {e : String × Raw} {entries : List (String × Raw)}
    (h : e ∈ store name value entries) : e = (name, value) ∨ e ∈ entries := by
  induction entries with
  | nil => simpa [store] using h
  | cons e' rest ih =>
      unfold store at h
      split at h
      · rcases List.mem_cons.1 h with rfl | h
        · exact .inl rfl
        · exact .inr (List.mem_cons_of_mem _ h)
      · rcases List.mem_cons.1 h with rfl | h
        · exact .inr List.mem_cons_self
        · exact (ih h).imp_right (List.mem_cons_of_mem _)

theorem Tidy.store {entries : List (String × Raw)} (h : Tidy entries) {name : String}
    (hname : keyOf name = name) (value : Raw) : Tidy (store name value entries) := by
  constructor
  · induction entries with
    | nil => simp [Raw.store]
    | cons e rest ih =>
        obtain ⟨hnotin, hrest⟩ := List.nodup_cons.1 h.distinct
        unfold Raw.store
        split
        · rename_i heq
          exact List.nodup_cons.2 ⟨heq ▸ hnotin, hrest⟩
        · rename_i hne
          refine List.nodup_cons.2
            ⟨fun hmem => ?_, ih ⟨hrest, fun e' he' => h.kept e' (by simp [he'])⟩⟩
          obtain ⟨e', he', heq⟩ := List.mem_map.1 hmem
          rcases mem_store he' with rfl | he'
          · exact hne heq.symm
          · exact hnotin (List.mem_map.2 ⟨e', he', heq⟩)
  · intro e he
    rcases mem_store he with rfl | he
    · exact hname
    · exact h.kept e he

theorem find?_eq_some_of_mem {entries : List (String × Raw)} {e : String × Raw}
    (h : Tidy entries) (he : e ∈ entries) : find? e.1 entries = some e.2 := by
  induction entries with
  | nil => simp at he
  | cons e' rest ih =>
      obtain ⟨hnotin, hrest⟩ := List.nodup_cons.1 h.distinct
      rcases List.mem_cons.1 he with rfl | he
      · simp [find?]
      · have hne : e'.1 ≠ e.1 := fun heq => hnotin (heq ▸ List.mem_map_of_mem he)
        simpa [find?, hne] using ih ⟨hrest, fun e'' he'' => h.kept e'' (by simp [he''])⟩ he

/-! ### Putting a value under a key -/

/-- The value under a key, none if there is no table to look in. -/
def child? (key : String) (root : Raw) : Option Raw := find? key root.tableParts.2

/-- The value of the first entry whose key is the given one in lower case. -/
def named? (key : String) (entries : List (String × Raw)) : Option Raw :=
  (entries.find? fun e => keyOf e.1 == key).map (·.2)

/-- A value that is no table. -/
def IsLeaf : Raw → Prop
  | .table _ _ => False
  | _ => True

/-- What a value becomes when it is put where another one may be already. -/
def landing (old : Option Raw) : Raw → Raw
  | .table _ incoming => putAll incoming (old.getD empty)
  | value => value

theorem landing_of_isLeaf {value : Raw} (h : value.IsLeaf) (old : Option Raw) :
    landing old value = value := by
  cases value with
  | table => exact h.elim
  | scalar => rfl
  | list => rfl

theorem put_eq (name : String) (value root : Raw) :
    put name value root = .table root.tableParts.1
      (store (keyOf name) (landing (root.child? (keyOf name)) value) root.tableParts.2) := by
  cases value <;> rw [put] <;> rfl

theorem child?_put (key name : String) (value root : Raw) :
    (put name value root).child? key
      = if keyOf name = key then some (landing (root.child? key) value) else root.child? key := by
  rw [put_eq]
  simp only [child?, tableParts, find?_store]
  split
  · rename_i heq
    rw [heq]
  · rfl

/-- What is put under distinct keys is there afterwards, and the rest is as it was. -/
theorem child?_putAll {incoming : List (String × Raw)} {key : String}
    (hdistinct : (incoming.map fun e => keyOf e.1).Nodup)
    (hleaf : ∀ value, named? key incoming = some value → value.IsLeaf) (target : Raw) :
    (putAll incoming target).child? key = (named? key incoming).or (target.child? key) := by
  induction incoming generalizing target with
  | nil => simp [putAll, named?]
  | cons e rest ih =>
      obtain ⟨name, value⟩ := e
      obtain ⟨hnotin, hrest⟩ := List.nodup_cons.1 hdistinct
      rw [putAll]
      by_cases hname : keyOf name = key
      · -- no later entry has the key
        have hlater : named? key rest = none := by
          simp only [named?, Option.map_eq_none_iff, List.find?_eq_none, beq_iff_eq]
          intro e he heq
          exact hnotin (List.mem_map.2 ⟨e, he, heq.trans hname.symm⟩)
        have hhere : named? key ((name, value) :: rest) = some value := by simp [named?, hname]
        rw [ih hrest (by simp [hlater]), hlater, hhere, child?_put, if_pos hname,
          landing_of_isLeaf (hleaf value hhere)]
        rfl
      · have hhere : named? key ((name, value) :: rest) = named? key rest := by
          simp [named?, hname]
        rw [hhere] at hleaf ⊢
        rw [ih hrest hleaf, child?_put, if_neg hname]

/-- Of distinct keys there is one that is found. -/
theorem find?_keyOf_eq_some_iff {entries : List (String × Raw)} {key : String} {e : String × Raw}
    (h : (entries.map fun e => keyOf e.1).Nodup) :
    (entries.find? fun e => keyOf e.1 == key) = some e ↔ e ∈ entries ∧ keyOf e.1 = key := by
  constructor
  · exact fun hfind => ⟨List.mem_of_find?_eq_some hfind, by simpa using List.find?_some hfind⟩
  · rintro ⟨he, rfl⟩
    induction entries with
    | nil => simp at he
    | cons e' rest ih =>
        obtain ⟨hnotin, hrest⟩ := List.nodup_cons.1 h
        rcases List.mem_cons.1 he with rfl | he
        · simp
        · have hne : keyOf e'.1 ≠ keyOf e.1 := fun heq =>
            hnotin (List.mem_map.2 ⟨e, he, heq.symm⟩)
          simpa [hne] using ih hrest he

theorem find?_keyOf {entries : List (String × Raw)} (h : ∀ e ∈ entries, keyOf e.1 = e.1)
    (key : String) :
    (entries.find? fun e => keyOf e.1 == key) = entries.find? fun e => e.1 == key := by
  induction entries with
  | nil => rfl
  | cons e rest ih =>
      simp only [List.find?_cons, h e (by simp), ih fun e' he' => h e' (by simp [he'])]

theorem named?_eq_find? {entries : List (String × Raw)} (h : ∀ e ∈ entries, keyOf e.1 = e.1)
    (key : String) : named? key entries = find? key entries := by
  rw [named?, find?_keyOf h, find?]

/-! ### Tidy tables -/

/-- A table with tidy entries. -/
def IsTidyTable (root : Raw) : Prop := ∃ origin entries, root = .table origin entries ∧ Tidy entries

theorem isTidyTable_empty : empty.IsTidyTable := ⟨none, [], rfl, tidy_nil⟩

theorem isTidyTable_put {root : Raw} (h : Tidy root.tableParts.2) (name : String) (value : Raw) :
    (put name value root).IsTidyTable :=
  ⟨_, _, put_eq name value root, h.store (keyOf_keyOf name) _⟩

theorem IsTidyTable.tidy {root : Raw} (h : root.IsTidyTable) : Tidy root.tableParts.2 := by
  obtain ⟨origin, entries, rfl, htidy⟩ := h
  exact htidy

theorem IsTidyTable.putAll {root : Raw} (h : root.IsTidyTable) (incoming : List (String × Raw)) :
    (putAll incoming root).IsTidyTable := by
  induction incoming generalizing root with
  | nil => exact h
  | cons e rest ih => exact ih (isTidyTable_put h.tidy e.1 e.2)

/-! ### Options -/

/-- The value of an option, an entry of a section. -/
def option? (root : Raw) (sec field : String) : Option Raw := (root.child? sec).bind (child? field)

end Raw

/-! ### Putting a value at a path -/

namespace KeyPath

open Raw

/-- A change at a path changes one entry of the root. -/
theorem change_table (path : KeyPath) (f : Raw → Raw) (origin : Option String)
    (entries : List (String × Raw)) :
    ∃ value, change f path (.table origin entries)
      = .table origin (store (keyOf path.head) value entries) := by
  induction path generalizing f with
  | name key => exact ⟨_, rfl⟩
  | child parent key ih => exact ih _
  | item parent index ih => exact ih _

/-- What is put at a path goes into one entry of the root. -/
theorem put_table (path : KeyPath) (value : Raw) (origin : Option String)
    (entries : List (String × Raw)) :
    ∃ entry, put value path (.table origin entries)
      = .table origin (store (keyOf path.head) entry entries) := by
  cases path with
  | name key => exact ⟨_, put_eq key value _⟩
  | child parent key => exact change_table parent _ origin entries
  | item parent index => exact change_table parent _ origin entries

/-- What is put at a path of one key into a section. -/
theorem put_child (sec field : String) (value : Raw) (origin : Option String)
    (entries : List (String × Raw)) :
    put value (.child (.name sec) field) (.table origin entries)
      = .table origin (store (keyOf sec)
          (Raw.put field value ((find? (keyOf sec) entries).getD default)) entries) := rfl

/-- What an entry of a layer has for an option: the entry of that name in a table put under the
section, or the value itself when its path leads to the option. -/
def offer? (sec field : String) (value : Raw) : KeyPath → Option Raw
  | .name key => if keyOf key = sec then named? field value.tableParts.2 else none
  | .child (.name parent) key => if keyOf parent = sec ∧ keyOf key = field then some value else none
  | _ => none

/-- A value may be put at a path: a known section is a table with distinct keys, and no path leads
into the inside of an option. -/
def Suits (known : List String) (value : Raw) : KeyPath → Prop
  | .name key => keyOf key ∈ known →
      ∃ origin entries, value = .table origin entries ∧ (entries.map fun e => keyOf e.1).Nodup
  | .child (.name _) _ => True
  | path => keyOf path.head ∉ known

/-- Elsewhere than at the head of a path nothing changes. -/
theorem child?_put_of_ne {path : KeyPath} {key : String} (h : keyOf path.head ≠ key) (value : Raw)
    {root : Raw} (hroot : root.IsTidyTable) :
    (put value path root).child? key = root.child? key := by
  obtain ⟨origin, entries, rfl, -⟩ := hroot
  obtain ⟨entry, heq⟩ := put_table path value origin entries
  rw [heq]
  simp only [child?, tableParts, find?_store, if_neg h]

theorem offer?_of_head_ne {path : KeyPath} {sec : String} (h : keyOf path.head ≠ sec)
    (field : String) (value : Raw) : path.offer? sec field value = none := by
  unfold offer?
  split
  · exact if_neg h
  · exact if_neg fun hboth => h hboth.1
  · rfl

/-- **Putting a value at a path gives every option what the value has for it.** -/
theorem option?_put {known : List String} {path : KeyPath} {value root : Raw} {sec field : String}
    (hsec : sec ∈ known) (hsuits : path.Suits known value)
    (hleaf : ∀ v, path.offer? sec field value = some v → v.IsLeaf) (hroot : root.IsTidyTable) :
    (put value path root).option? sec field
      = (path.offer? sec field value).or (root.option? sec field) := by
  by_cases hhead : keyOf path.head = sec
  swap
  · rw [option?, child?_put_of_ne hhead value hroot, offer?_of_head_ne hhead]
    rfl
  unfold Suits at hsuits
  split at hsuits
  · rename_i key
    have hkey : keyOf key = sec := hhead
    obtain ⟨origin, entries, rfl, hdistinct⟩ := hsuits (hkey ▸ hsec)
    have hoffer : (KeyPath.name key).offer? sec field (.table origin entries)
        = named? field entries := if_pos hkey
    have hold : ((root.child? sec).getD empty).child? field = root.option? sec field := by
      cases h : root.child? sec with
      | none => rw [option?, h]; rfl
      | some old => rw [option?, h]; rfl
    rw [hoffer] at hleaf ⊢
    rw [put, option?, child?_put, if_pos hkey, Option.bind_some, landing,
      child?_putAll hdistinct hleaf, hold]
  · rename_i parent key
    have hparent : keyOf parent = sec := hhead
    obtain ⟨origin, entries, rfl, -⟩ := hroot
    have hhere : (put value (.child (.name parent) key) (.table origin entries)).option? sec field
        = (Raw.put key value ((find? sec entries).getD default)).child? field := by
      rw [put_child, option?, child?, tableParts, find?_store, if_pos hparent, hparent]
      rfl
    have hold : ((find? sec entries).getD default).child? field
        = (Raw.table origin entries).option? sec field := by
      cases h : find? sec entries with
      | none => simp [option?, child?, tableParts, h]; rfl
      | some old => simp [option?, child?, tableParts, h]
    rw [hhere, child?_put, hold]
    by_cases hkey : keyOf key = field
    · have hoffer : (KeyPath.child (.name parent) key).offer? sec field value = some value :=
        if_pos ⟨hparent, hkey⟩
      rw [if_pos hkey, hoffer, landing_of_isLeaf (hleaf value hoffer)]
      rfl
    · have hoffer : (KeyPath.child (.name parent) key).offer? sec field value = none :=
        if_neg fun h => hkey h.2
      rw [if_neg hkey, hoffer]
      rfl
  · exact absurd (hhead ▸ hsec) hsuits

end KeyPath

/-! ### Orderly trees -/

/-- A key is no path into a known section. -/
def KeyPath.LeadsNowhere (known : List String) (key : String) : Prop :=
  KeyPath.ofKey key = .name key ∨ Raw.keyOf (KeyPath.ofKey key).head ∉ known

namespace Raw

open KeyPath

/-- A tree whose entries are tidy, whose known sections are tidy tables, and which has no path into
one of them among its keys. -/
structure IsOrderly (known : List String) (root : Raw) : Prop where
  isTidyTable : root.IsTidyTable
  sections : ∀ sec ∈ known, ∀ value, root.child? sec = some value → value.IsTidyTable
  apart : ∀ e ∈ root.tableParts.2, LeadsNowhere known e.1

theorem isOrderly_empty (known : List String) : IsOrderly known empty where
  isTidyTable := isTidyTable_empty
  sections := by simp [child?, empty, tableParts, find?]
  apart := by simp [empty, tableParts]

/-- An entry of a layer keeps a tree orderly. -/
theorem IsOrderly.put {known : List String} {root : Raw} (h : IsOrderly known root)
    {path : KeyPath} {value : Raw} (hsuits : path.Suits known value)
    (hhead : LeadsNowhere known (keyOf path.head)) : IsOrderly known (path.put value root) where
  isTidyTable := by
    obtain ⟨origin, entries, rfl, htidy⟩ := h.isTidyTable
    obtain ⟨entry, heq⟩ := put_table path value origin entries
    exact ⟨origin, _, heq, htidy.store (keyOf_keyOf _) entry⟩
  sections := by
    intro sec hsec new hnew
    by_cases hne : keyOf path.head = sec
    swap
    · rw [child?_put_of_ne hne value h.isTidyTable] at hnew
      exact h.sections sec hsec new hnew
    unfold KeyPath.Suits at hsuits
    split at hsuits
    · rename_i key
      have hkey : keyOf key = sec := hne
      obtain ⟨origin, entries, rfl, -⟩ := hsuits (hkey ▸ hsec)
      rw [KeyPath.put, child?_put, if_pos hkey, Option.some.injEq] at hnew
      subst hnew
      cases hold : root.child? sec with
      | none => exact isTidyTable_empty.putAll entries
      | some old => exact (h.sections sec hsec old hold).putAll entries
    · rename_i parent key
      have hparent : keyOf parent = sec := hne
      obtain ⟨origin, entries, rfl, htidy⟩ := h.isTidyTable
      rw [put_child, child?, tableParts, find?_store, if_pos hparent, Option.some.injEq,
        hparent] at hnew
      subst hnew
      refine isTidyTable_put ?_ key value
      cases hold : find? sec entries with
      | none => exact tidy_nil
      | some old => exact (h.sections sec hsec old hold).tidy
    · exact absurd (hne ▸ hsec) hsuits
  apart := by
    obtain ⟨origin, entries, rfl, htidy⟩ := h.isTidyTable
    obtain ⟨entry, heq⟩ := put_table path value origin entries
    intro e he
    rw [heq] at he
    rcases mem_store he with rfl | he
    · exact hhead
    · exact h.apart e he

/-! ### Layers -/

/-- A layer that may be put over an orderly tree. -/
structure Fits (known : List String) (layer : List (String × Raw)) : Prop where
  suits : ∀ e ∈ layer, (ofKey e.1).Suits known e.2
  heads : ∀ e ∈ layer, LeadsNowhere known (keyOf (ofKey e.1).head)

theorem Fits.tail {known : List String} {e : String × Raw} {layer : List (String × Raw)}
    (h : Fits known (e :: layer)) : Fits known layer :=
  ⟨fun e' he' => h.suits e' (by simp [he']), fun e' he' => h.heads e' (by simp [he'])⟩

theorem IsOrderly.put_head {known : List String} {root : Raw} {e : String × Raw}
    {layer : List (String × Raw)} (h : IsOrderly known root) (hfits : Fits known (e :: layer)) :
    IsOrderly known ((ofKey e.1).put e.2 root) :=
  h.put (hfits.suits e (by simp)) (hfits.heads e (by simp))

/-- A layer keeps a tree orderly. -/
theorem IsOrderly.overlay {known : List String} {root : Raw} (h : IsOrderly known root)
    {layer : List (String × Raw)} (hfits : Fits known layer) :
    IsOrderly known (root.overlay layer) := by
  induction layer generalizing root with
  | nil => exact h
  | cons e layer ih => exact ih (h.put_head hfits) hfits.tail

/-- **A layer has its way with the options that it names, and leaves the others as they were.**  At
most one entry of the layer has a value for the option: the one that `mark` leads to. -/
theorem option?_overlay {known : List String} {layer : List (String × Raw)} {sec field : String}
    {mark : String × Raw → String} {goal : String} {value? : String × Raw → Option Raw}
    (hfits : Fits known layer) (hsec : sec ∈ known)
    (hoffer : ∀ e ∈ layer,
      (ofKey e.1).offer? sec field e.2 = if mark e = goal then value? e else none)
    (hdistinct : (layer.map mark).Nodup)
    (hleaf : ∀ v, (layer.find? (fun e => mark e == goal)).bind value? = some v → v.IsLeaf)
    {root : Raw} (hroot : IsOrderly known root) :
    (root.overlay layer).option? sec field
      = ((layer.find? (fun e => mark e == goal)).bind value?).or (root.option? sec field) := by
  induction layer generalizing root with
  | nil => rfl
  | cons e layer ih =>
      obtain ⟨hnotin, hrest⟩ := List.nodup_cons.1 hdistinct
      have hoffer' := fun e' he' => hoffer e' (List.mem_cons_of_mem e he')
      have hhere := hoffer e List.mem_cons_self
      change ((((ofKey e.1).put e.2 root).overlay layer).option? sec field) = _
      by_cases hmark : mark e = goal
      · have hlater : layer.find? (fun e => mark e == goal) = none := by
          simp only [List.find?_eq_none, beq_iff_eq]
          intro e' he' heq
          exact hnotin (List.mem_map.2 ⟨e', he', heq.trans hmark.symm⟩)
        have hfirst : (e :: layer).find? (fun e => mark e == goal) = some e := by simp [hmark]
        rw [hfirst, Option.bind_some] at hleaf ⊢
        rw [if_pos hmark] at hhere
        rw [ih hfits.tail hoffer' hrest (by simp [hlater]) (hroot.put_head hfits), hlater,
          option?_put hsec (hfits.suits e (by simp)) (hhere ▸ hleaf) hroot.isTidyTable, hhere]
        rfl
      · have hfirst : (e :: layer).find? (fun e => mark e == goal)
            = layer.find? (fun e => mark e == goal) := by simp [hmark]
        rw [hfirst] at hleaf ⊢
        rw [if_neg hmark] at hhere
        rw [ih hfits.tail hoffer' hrest hleaf (hroot.put_head hfits),
          option?_put hsec (hfits.suits e (by simp)) (by simp [hhere]) hroot.isTidyTable, hhere]
        rfl

end Raw

end AssemblyGate
