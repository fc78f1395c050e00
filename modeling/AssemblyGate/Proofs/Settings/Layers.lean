/-
**Which layer decides an option.**

An option is what the environment has for it, otherwise what the file has for it, and otherwise the
default.  This needs a file whose known sections are tables and whose keys stay distinct in lower
case, and an environment whose variables are named after a section and a field.  It also needs a
file without a key that is a path into a known section: such a key changes an option that has
another name.

The layers are put over one another twice, file and environment first, and the result over the
defaults.  What comes out of the first time has the properties of a file again, so one statement
about files serves for both.

Main definitions:

* `AssemblyGate.ConfigFile.IsPlain`, `AssemblyGate.ConfigFile.HasNoPaths` — the conditions on the
  layer of a file;
* `AssemblyGate.Settings.chosen?` — what environment and file have for an option.

Main results:

* `AssemblyGate.ConfigFile.IsPlain.option?_overlay` — **a file's layer sets the options that it has
  a value for**;
* `AssemblyGate.Settings.holds_merged` — the merged layers hold the chosen options over the
  defaults;
* `AssemblyGate.Settings.ofLayers_eq_ok_iff` — what file and environment load as.
-/
import AssemblyGate.Proofs.Settings.Conversion

set_option autoImplicit false

namespace AssemblyGate

open Raw KeyPath

/-! ### The layer of a file -/

namespace ConfigFile

/-- What the layer of a file has for an option. -/
def option? (file : List (String × Raw)) (sec field : String) : Option Raw :=
  (file.find? fun e => keyOf e.1 == sec).bind fun e => named? field e.2.tableParts.2

/-- A layer whose known sections are tables, whose options are no tables, and whose keys stay
distinct in lower case. -/
structure IsPlain (file : List (String × Raw)) : Prop where
  distinct : (file.map fun e => keyOf e.1).Nodup
  tables : ∀ e ∈ file, keyOf e.1 ∈ Settings.sections →
    ∃ origin entries, e.2 = .table origin entries ∧ (entries.map fun e => keyOf e.1).Nodup
  leaves : ∀ e ∈ file, ∀ e' ∈ e.2.tableParts.2,
    (keyOf e.1, keyOf e'.1) ∈ Settings.places → e'.2.IsLeaf

/-- No key of the layer is a path into a known section, as it is or in lower case. -/
def HasNoPaths (file : List (String × Raw)) : Prop :=
  ∀ e ∈ file, LeadsNowhere Settings.sections e.1 ∧ LeadsNowhere Settings.sections (keyOf e.1)

end ConfigFile

namespace Settings

theorem isPart_of_mem_sections : ∀ sec ∈ sections, IsPart sec := by decide +kernel

theorem isPlace_of_mem {sec field : String} (h : (sec, field) ∈ places) : IsPlace sec field := by
  have hall : ∀ place ∈ places, IsPlace place.1 place.2 := by decide +kernel
  exact hall _ h

theorem isPair_of_mem {sec field : String} (h : (sec, field) ∈ places) :
    Environment.IsPair sec field := by
  have hall : ∀ place ∈ places, Environment.IsPair place.1 place.2 := by decide +kernel
  exact hall _ h

theorem mem_sections {sec field : String} (h : (sec, field) ∈ places) : sec ∈ sections :=
  List.mem_map.2 ⟨_, h, rfl⟩

end Settings

namespace ConfigFile

open Settings

/-- What an entry has for an option when its key is no path into a known section. -/
theorem offer?_of_leadsNowhere {key sec : String} (h : LeadsNowhere sections key)
    (hsec : sec ∈ sections) (field : String) (value : Raw) :
    (ofKey key).offer? sec field value
      = if keyOf key = sec then named? field value.tableParts.2 else none := by
  by_cases hname : ofKey key = .name key
  · rw [hname, offer?]
  · have hhead : keyOf (ofKey key).head ≠ sec := fun heq => (h.resolve_left hname) (heq ▸ hsec)
    -- a point or a bracket is still there in lower case, and a section has none
    have hkey : keyOf key ≠ sec := by
      rintro rfl
      have hpart := (isPart_of_mem_sections _ hsec).1
      rw [keyOf, String.toList_ofList] at hpart
      rcases mem_key_of_ofKey_ne hname with hmem | hmem
      · have hsmall : IsSmall '.' := ⟨by decide, by decide, by decide +kernel⟩
        exact (hpart _ (mem_lowerCase_of_isSmall hsmall hmem)).1 rfl
      · have hsmall : IsSmall '[' := ⟨by decide, by decide, by decide +kernel⟩
        exact (hpart _ (mem_lowerCase_of_isSmall hsmall hmem)).2 rfl
    rw [offer?_of_head_ne hhead, if_neg hkey]

theorem suits_of_head {known : List String} {path : KeyPath} (h : keyOf path.head ∉ known)
    (value : Raw) : path.Suits known value := by
  unfold KeyPath.Suits
  split
  · exact fun hmem => absurd hmem h
  · trivial
  · exact h

theorem IsPlain.fits {file : List (String × Raw)} (h : IsPlain file) (hpaths : HasNoPaths file) :
    Fits Settings.sections file where
  suits := by
    intro e he
    rcases (hpaths e he).1 with hname | hhead
    · rw [hname]
      exact h.tables e he
    · exact suits_of_head hhead e.2
  heads := by
    intro e he
    rcases isName_head e.1 with hname | hname
    · rw [hname]
      exact (hpaths e he).2
    · exact .inl (ofKey_of_isName (isName_keyOf hname))

theorem IsPlain.isLeaf {file : List (String × Raw)} (h : IsPlain file) {sec field : String}
    (hplace : (sec, field) ∈ places) {value : Raw} (hvalue : option? file sec field = some value) :
    value.IsLeaf := by
  obtain ⟨e, hfind, hnamed⟩ := Option.bind_eq_some_iff.1 hvalue
  obtain ⟨e', hfind', rfl⟩ := Option.map_eq_some_iff.1 hnamed
  have hsec : keyOf e.1 = sec := by simpa using List.find?_some hfind
  have hfield : keyOf e'.1 = field := by simpa using List.find?_some hfind'
  exact h.leaves e (List.mem_of_find?_eq_some hfind) e' (List.mem_of_find?_eq_some hfind')
    (by rwa [hsec, hfield])

/-- **A file's layer sets the options that it has a value for.** -/
theorem IsPlain.option?_overlay {file : List (String × Raw)} (h : IsPlain file)
    (hpaths : HasNoPaths file) {root : Raw} (hroot : IsOrderly sections root) {sec field : String}
    (hplace : (sec, field) ∈ places) :
    (root.overlay file).option? sec field = (option? file sec field).or (root.option? sec field) :=
  Raw.option?_overlay (h.fits hpaths) (mem_sections hplace)
    (fun e he => offer?_of_leadsNowhere (hpaths e he).1 (mem_sections hplace) field e.2)
    h.distinct (fun _ hv => h.isLeaf hplace hv) hroot

/-! ### The layers that are given, as one layer -/

theorem section_of_mem {root : Raw} (h : IsOrderly sections root) {e : String × Raw}
    (he : e ∈ root.tableParts.2) (hsec : e.1 ∈ sections) : e.2.IsTidyTable :=
  h.sections e.1 hsec e.2 (find?_eq_some_of_mem h.isTidyTable.tidy he)

/-- The entries of an orderly tree have for an option what the tree has. -/
theorem option?_entries {root : Raw} (h : IsOrderly sections root) {sec field : String}
    (hsec : sec ∈ sections) : option? root.tableParts.2 sec field = root.option? sec field := by
  have htidy := h.isTidyTable.tidy
  rw [option?, find?_keyOf htidy.kept, Raw.option?, child?, Raw.find?, Option.bind_map]
  refine Option.bind_congr fun e he => ?_
  have hmem := List.mem_of_find?_eq_some he
  have hname : e.1 = sec := by simpa using List.find?_some he
  exact named?_eq_find? (section_of_mem h hmem (hname ▸ hsec)).tidy.kept field

theorem isPlain_entries {root : Raw} (h : IsOrderly sections root)
    (hleaf : ∀ {sec field : String}, (sec, field) ∈ places →
      ∀ v, root.option? sec field = some v → v.IsLeaf) :
    IsPlain root.tableParts.2 where
  distinct := by
    have htidy := h.isTidyTable.tidy
    have hkept : (root.tableParts.2.map fun e => keyOf e.1) = root.tableParts.2.map Prod.fst :=
      List.map_congr_left htidy.kept
    rw [hkept]
    exact htidy.distinct
  tables := by
    intro e he hsec
    rw [h.isTidyTable.tidy.kept e he] at hsec
    obtain ⟨origin, entries, heq, htidy⟩ := section_of_mem h he hsec
    have hkept : (entries.map fun e => keyOf e.1) = entries.map Prod.fst :=
      List.map_congr_left htidy.kept
    exact ⟨origin, entries, heq, hkept ▸ htidy.distinct⟩
  leaves := by
    intro e he e' he' hplace
    have hroot := h.isTidyTable.tidy
    rw [hroot.kept e he] at hplace
    have htidy := (section_of_mem h he (mem_sections hplace)).tidy
    rw [htidy.kept e' he'] at hplace
    refine hleaf hplace e'.2 ?_
    rw [Raw.option?, child?, find?_eq_some_of_mem hroot he]
    exact find?_eq_some_of_mem htidy he'

theorem hasNoPaths_entries {root : Raw} (h : IsOrderly sections root) :
    HasNoPaths root.tableParts.2 := by
  intro e he
  rw [h.isTidyTable.tidy.kept e he]
  exact ⟨h.apart e he, h.apart e he⟩

end ConfigFile

namespace Settings

/-! ### The defaults -/

theorem isDotted_of_mem_defaultLayer : ∀ e ∈ defaultLayer, IsDotted e.1 := by
  have hkeys : ∀ e ∈ defaultLayer, ∃ place ∈ places, e.1 = place.1 ++ "." ++ place.2 := by
    decide +kernel
  intro e he
  obtain ⟨place, hplace, heq⟩ := hkeys e he
  exact ⟨place.1, place.2, heq, (isPlace_of_mem hplace).isPart⟩

theorem isLeaf_of_default? {sec field : String} {value : Raw}
    (h : default? sec field = some value) : value.IsLeaf := by
  obtain ⟨e, hfind, rfl⟩ := Option.map_eq_some_iff.1 h
  have hall : ∀ e ∈ defaultLayer, e.2.IsLeaf := by
    intro e he
    rcases List.mem_append.1 he with he | he
    · obtain ⟨_, -, rfl⟩ := List.mem_map.1 he
      trivial
    · rw [List.mem_singleton.1 he]
      trivial
  exact hall e (List.mem_of_find?_eq_some hfind)

theorem isOrderly_defaults : IsOrderly sections (empty.overlay defaultLayer) :=
  (isOrderly_empty sections).overlay
    (fits_of_isDotted isPart_of_mem_sections isDotted_of_mem_defaultLayer)

theorem option?_defaults {sec field : String} (hplace : (sec, field) ∈ places) :
    (empty.overlay defaultLayer).option? sec field = default? sec field := by
  have hoverlay := option?_overlay_dotted isPart_of_mem_sections isDotted_of_mem_defaultLayer
    (by decide) (isPlace_of_mem hplace) (mem_sections hplace)
    (fun v hv => isLeaf_of_default? hv) (isOrderly_empty sections)
  rwa [show empty.option? sec field = none from rfl, Option.or_none] at hoverlay

/-! ### All layers -/

/-- What environment and file have for an option: the value of the variable that is named after it,
and otherwise the entry of the file. -/
def chosen? (file : List (String × Raw)) (environment : List (String × String))
    (sec field : String) : Option Raw :=
  ((Environment.textOf? environment sec field).map
    (Environment.valueOf (sec ++ "." ++ field))).or (ConfigFile.option? file sec field)

section Merging

variable {file : List (String × Raw)} {environment : List (String × String)}

/-- File and environment, the environment over the file. -/
def given (file : List (String × Raw)) (environment : List (String × String)) : Raw :=
  (empty.overlay file).overlay (Environment.layer environment)

theorem isOrderly_file (hfile : ConfigFile.IsPlain file) (hpaths : ConfigFile.HasNoPaths file) :
    IsOrderly sections (empty.overlay file) :=
  (isOrderly_empty sections).overlay (hfile.fits hpaths)

theorem isOrderly_given (hfile : ConfigFile.IsPlain file) (hpaths : ConfigFile.HasNoPaths file)
    (henvironment : Environment.IsPlain environment) :
    IsOrderly sections (given file environment) :=
  (isOrderly_file hfile hpaths).overlay
    (fits_of_isDotted isPart_of_mem_sections henvironment.tidy_layer.2)

theorem option?_given (hfile : ConfigFile.IsPlain file) (hpaths : ConfigFile.HasNoPaths file)
    (henvironment : Environment.IsPlain environment) {sec field : String}
    (hplace : (sec, field) ∈ places) :
    (given file environment).option? sec field = chosen? file environment sec field := by
  have hvariable := henvironment.find?_layer (isPair_of_mem hplace)
  have hleaf : ∀ v, find? (sec ++ "." ++ field) (Environment.layer environment) = some v →
      v.IsLeaf := by
    intro v hv
    obtain ⟨text, -, rfl⟩ := Option.map_eq_some_iff.1 (hvariable.symm.trans hv)
    exact Environment.isLeaf_valueOf _ text
  rw [given, option?_overlay_dotted isPart_of_mem_sections henvironment.tidy_layer.2
    henvironment.tidy_layer.1.distinct (isPlace_of_mem hplace) (mem_sections hplace) hleaf
    (isOrderly_file hfile hpaths), hvariable,
    hfile.option?_overlay hpaths (isOrderly_empty sections) hplace,
    show empty.option? sec field = none from rfl, Option.or_none]
  rfl

theorem isLeaf_of_chosen? (hfile : ConfigFile.IsPlain file) {sec field : String}
    (hplace : (sec, field) ∈ places) {value : Raw}
    (h : chosen? file environment sec field = some value) : value.IsLeaf := by
  rw [chosen?, Option.or_eq_some_iff] at h
  rcases h with h | ⟨-, h⟩
  · obtain ⟨text, -, rfl⟩ := Option.map_eq_some_iff.1 h
    exact Environment.isLeaf_valueOf _ text
  · exact hfile.isLeaf hplace h

/-- **The merged layers hold the chosen options over the defaults.** -/
theorem holds_merged (hfile : ConfigFile.IsPlain file) (hpaths : ConfigFile.HasNoPaths file)
    (henvironment : Environment.IsPlain environment) :
    Holds (merged file (Environment.layer environment)) (chosen? file environment) := by
  have hgiven := isOrderly_given hfile hpaths henvironment
  have hplain : ConfigFile.IsPlain (given file environment).tableParts.2 := by
    refine ConfigFile.isPlain_entries hgiven fun hplace v hv => ?_
    rw [option?_given hfile hpaths henvironment hplace] at hv
    exact isLeaf_of_chosen? hfile hplace hv
  have hnone := ConfigFile.hasNoPaths_entries hgiven
  constructor
  · exact isOrderly_defaults.overlay (hplain.fits hnone)
  · rintro ⟨sec, field⟩ hplace
    change ((empty.overlay defaultLayer).overlay (given file environment).tableParts.2).option?
      sec field = _
    rw [hplain.option?_overlay hnone isOrderly_defaults hplace, option?_defaults hplace,
      ConfigFile.option?_entries hgiven (mem_sections hplace),
      option?_given hfile hpaths henvironment hplace]

/-- What file and environment load as. -/
theorem ofLayers_eq_ok_iff (hfile : ConfigFile.IsPlain file) (hpaths : ConfigFile.HasNoPaths file)
    (henvironment : Environment.IsPlain environment) (s : Settings) :
    ofLayers file (Environment.layer environment) = .ok s ↔
      Reads (chosen? file environment) s ∧ s.outlasts = true := by
  have hread := ofRaw_eq_ok_iff (holds_merged hfile hpaths henvironment)
  unfold ofLayers
  cases hraw : ofRaw (merged file (Environment.layer environment)) with
  | error e =>
      simp only [reduceCtorEq, false_iff, not_and]
      intro hreads
      rw [(hread s).2 hreads] at hraw
      cases hraw
  | ok s' =>
      have hreads : Reads (chosen? file environment) s ↔ s' = s := by
        rw [← hread s, hraw, Except.ok.injEq]
      simp only [checked, hreads]
      split
      · rename_i hlasts
        simp only [Except.ok.injEq]
        exact ⟨fun heq => ⟨heq, heq ▸ hlasts⟩, fun h => h.1⟩
      · rename_i hlasts
        simp only [reduceCtorEq, false_iff]
        rintro ⟨rfl, h⟩
        exact hlasts h

end Merging

end Settings

end AssemblyGate
