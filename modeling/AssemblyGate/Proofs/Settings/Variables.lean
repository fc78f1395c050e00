/-
**What the variables of an environment set.**

A variable of the service is named after a section and a field, with two underscores between them
and no two in a row elsewhere.  So its key, in which a point stands for the two underscores, tells
section and field apart, and the layer of the environment has for every option the value of the
variable that is named after it.

Main definitions:

* `AssemblyGate.Environment.textOf?` — the text of the variable for a field of a section;
* `AssemblyGate.Environment.IsPlain` — an environment whose variables are named so, and apart from
  one another;
* `AssemblyGate.Raw.IsDotted` — a key made of a section and a field.

Main results:

* `AssemblyGate.Raw.option?_overlay_dotted` — a layer of such keys sets what it has a key for;
* `AssemblyGate.Environment.find?_layer` — **the layer of an environment has the variable's value
  for each option**;
* `AssemblyGate.Environment.textOf?_perm` — the order of the variables does not matter.
-/
import AssemblyGate.Proofs.Settings.Places
import AssemblyGate.Proofs.Text.Replacement
import AssemblyGate.Settings.Environment

set_option autoImplicit false

namespace AssemblyGate

/-! ### Keys made of two parts -/

/-- A text without points and opening brackets, in lower case. -/
def IsPart (text : String) : Prop :=
  (∀ c ∈ text.toList, c ≠ '.' ∧ c ≠ '[') ∧ Raw.keyOf text = text

instance (text : String) : Decidable (IsPart text) :=
  decidable_of_iff
    ((text.toList.all fun c => c ≠ '.' ∧ c ≠ '[') = true ∧ Raw.keyOf text = text)
    (by simp [IsPart])

/-- Names in lower case of a section and of a field in it. -/
structure IsPlace (sec field : String) : Prop where
  isPart : IsPart sec ∧ IsPart field
  isName : KeyPath.IsName sec.toList ∧ KeyPath.IsName field.toList
  nonempty : sec.toList ≠ [] ∧ field.toList ≠ []

instance (sec field : String) : Decidable (IsPlace sec field) :=
  decidable_of_iff (_ ∧ _ ∧ _)
    ⟨fun ⟨hpart, hname, hne⟩ => ⟨hpart, hname, hne⟩, fun h => ⟨h.isPart, h.isName, h.nonempty⟩⟩

theorem IsPlace.ofKey {sec field : String} (h : IsPlace sec field) :
    KeyPath.ofKey (sec ++ "." ++ field) = .child (.name sec) field :=
  KeyPath.ofKey_names h.isName.1 h.nonempty.1 h.isName.2 h.nonempty.2

theorem dotted_inj {sec sec' field field' : String} (h : IsPart sec) (h' : IsPart sec') :
    sec ++ "." ++ field = sec' ++ "." ++ field' ↔ sec = sec' ∧ field = field' := by
  refine ⟨fun heq => ?_, by rintro ⟨rfl, rfl⟩; rfl⟩
  have hlists : sec.toList ++ '.' :: field.toList = sec'.toList ++ '.' :: field'.toList := by
    simpa using congrArg String.toList heq
  -- the first point is the one between the two parts
  have hfront : ∀ part rest : List Char, (∀ c ∈ part, c ≠ '.' ∧ c ≠ '[') →
      (part ++ '.' :: rest).takeWhile (· ≠ '.') = part := by
    intro part rest hpart
    rw [List.takeWhile_append_of_pos fun c hc => by simpa using (hpart c hc).1]
    simp
  have hsec : sec.toList = sec'.toList := by
    rw [← hfront sec.toList field.toList h.1, hlists, hfront _ _ h'.1]
  rw [hsec, List.append_cancel_left_eq, List.cons.injEq] at hlists
  exact ⟨String.toList_inj.1 hsec, String.toList_inj.1 hlists.2⟩

namespace Raw

open KeyPath

/-- A key made of a section and a field. -/
def IsDotted (key : String) : Prop :=
  ∃ sec field : String, key = sec ++ "." ++ field ∧ IsPart sec ∧ IsPart field

theorem keyOf_dotted {sec field : String} (hsec : IsPart sec) (hfield : IsPart field) :
    keyOf (sec ++ "." ++ field) = sec ++ "." ++ field := by
  have hsmall : ∀ {part : String} {c : Char}, IsPart part → c ∈ part.toList → IsSmall c := by
    intro part c hpart hc
    rw [← hpart.2, keyOf, String.toList_ofList] at hc
    exact isSmall_of_mem_lowerCase hc
  have hall : ∀ c ∈ (sec ++ "." ++ field).toList, IsSmall c := by
    intro c hc
    rw [String.toList_append, String.toList_append, List.mem_append, List.mem_append] at hc
    rcases hc with (hc | hc) | hc
    · exact hsmall hsec hc
    · obtain rfl : c = '.' := by simpa using hc
      exact ⟨by decide, by decide, by decide +kernel⟩
    · exact hsmall hfield hc
  rw [keyOf, lowerCase_of_isSmall hall, String.ofList_toList]

theorem point_mem_dotted (sec field : String) : '.' ∈ (sec ++ "." ++ field).toList := by simp

/-- What an entry with such a key has for an option. -/
theorem offer?_of_isDotted {sec field key : String} (hplace : IsPlace sec field)
    (hkey : IsDotted key) (value : Raw) :
    (ofKey key).offer? sec field value =
      if key = sec ++ "." ++ field then some value else none := by
  obtain ⟨sec', field', rfl, hsec', hfield'⟩ := hkey
  rcases ofKey_dotted hsec'.1 hfield'.1 with ⟨-, hchild⟩ | hname
  · rw [hchild, offer?, hsec'.2, hfield'.2]
    simp only [dotted_inj hsec' hplace.isPart.1]
  · have hother : sec' ++ "." ++ field' ≠ sec ++ "." ++ field := by
      intro heq
      rw [heq, hplace.ofKey] at hname
      cases hname
    have hpoint : keyOf (sec' ++ "." ++ field') ≠ sec := by
      rw [keyOf_dotted hsec' hfield']
      intro heq
      exact (hplace.isPart.1.1 '.' (heq ▸ point_mem_dotted sec' field')).1 rfl
    rw [hname, if_neg hother, offer?, if_neg hpoint]

/-- A layer of such keys may be put over an orderly tree. -/
theorem fits_of_isDotted {known : List String} (hknown : ∀ sec ∈ known, IsPart sec)
    {layer : List (String × Raw)} (hlayer : ∀ e ∈ layer, IsDotted e.1) : Fits known layer := by
  have hentry : ∀ e ∈ layer,
      (ofKey e.1).Suits known e.2 ∧ LeadsNowhere known (keyOf (ofKey e.1).head) := by
    intro e he
    obtain ⟨sec, field, hkey, hsec, hfield⟩ := hlayer e he
    rw [hkey]
    rcases ofKey_dotted hsec.1 hfield.1 with ⟨hname, hchild⟩ | hname
    · rw [hchild]
      exact ⟨trivial, .inl (ofKey_of_isName (isName_keyOf hname))⟩
    · have hhead : keyOf (sec ++ "." ++ field) = sec ++ "." ++ field := keyOf_dotted hsec hfield
      rw [hname]
      refine ⟨fun hmem => ?_, ?_⟩
      · rw [hhead] at hmem
        exact absurd rfl ((hknown _ hmem).1 '.' (point_mem_dotted sec field)).1
      · rw [head, hhead]
        exact .inl hname
  exact ⟨fun e he => (hentry e he).1, fun e he => (hentry e he).2⟩

/-- **A layer of such keys sets the options that it has a key for.** -/
theorem option?_overlay_dotted {known : List String} (hknown : ∀ sec ∈ known, IsPart sec)
    {layer : List (String × Raw)} (hlayer : ∀ e ∈ layer, IsDotted e.1)
    (hdistinct : (layer.map Prod.fst).Nodup) {sec field : String} (hplace : IsPlace sec field)
    (hsec : sec ∈ known) (hleaf : ∀ v, find? (sec ++ "." ++ field) layer = some v → v.IsLeaf)
    {root : Raw} (hroot : IsOrderly known root) :
    (root.overlay layer).option? sec field
      = (find? (sec ++ "." ++ field) layer).or (root.option? sec field) := by
  have hfind : find? (sec ++ "." ++ field) layer
      = (layer.find? (fun e => e.1 == sec ++ "." ++ field)).bind fun e => some e.2 := by
    simp only [find?, Option.map_eq_bind]
    rfl
  rw [hfind] at hleaf ⊢
  exact option?_overlay (fits_of_isDotted hknown hlayer) hsec
    (fun e he => offer?_of_isDotted hplace (hlayer e he) e.2) hdistinct hleaf hroot

end Raw

namespace Environment

open Raw

/-! ### Names of variables -/

/-- A variable of the service. -/
def IsMarked (name : String) : Prop := mark <+: lowerCase name.toList

/-- The name in lower case of the variable for a field of a section. -/
def spelling (sec field : String) : List Char :=
  mark ++ (sec.toList ++ (['_', '_'] ++ field.toList))

/-- A section and a field that two underscores keep apart. -/
structure IsPair (sec field : String) : Prop where
  isPart : IsPart sec ∧ IsPart field
  sec : ¬['_', '_'] <:+: sec.toList ++ ['_']
  field : ¬['_', '_'] <:+: field.toList

instance (sec field : String) : Decidable (IsPair sec field) :=
  decidable_of_iff (_ ∧ _ ∧ _)
    ⟨fun ⟨hpart, hsec, hfield⟩ => ⟨hpart, hsec, hfield⟩, fun h => ⟨h.isPart, h.sec, h.field⟩⟩

/-- The key of a variable has a point for the two underscores in its name. -/
theorem keyOf?_of_isPair {name sec field : String} (h : IsPair sec field)
    (hname : lowerCase name.toList = spelling sec field) :
    keyOf? name = some (sec ++ "." ++ field) := by
  have hmark : mark.isPrefixOf (spelling sec field) = true :=
    List.isPrefixOf_iff_prefix.2 ⟨_, rfl⟩
  have hfront : ∀ p < sec.toList.length,
      ¬OccursAt ['_', '_'] (sec.toList ++ (['_', '_'] ++ field.toList)) p := by
    intro p hp hoccurs
    have hshape : sec.toList ++ (['_', '_'] ++ field.toList)
        = [] ++ (sec.toList ++ ['_']) ++ ('_' :: field.toList) := by simp
    rw [hshape] at hoccurs
    refine h.sec (hoccurs.within (by simp) ?_)
    simp only [List.length_cons, List.length_nil, List.length_append]
    omega
  have hreplaced : replaceAll ['_', '_'] ['.'] (sec.toList ++ (['_', '_'] ++ field.toList))
      = sec.toList ++ (['.'] ++ field.toList) := by
    rw [replaceAll_append (by simp) _ hfront, replaceAll_needle_append (by simp),
      replaceAll_of_not_infix (by simp) _ h.field]
  unfold keyOf?
  rw [hname, if_pos hmark, spelling, List.drop_left, hreplaced]
  congr 1
  apply String.toList_inj.1
  simp

theorem isMarked_of_keyOf? {name key : String} (h : keyOf? name = some key) : IsMarked name := by
  unfold keyOf? at h
  dsimp only at h
  split at h
  · rename_i hmark
    exact List.isPrefixOf_iff_prefix.1 hmark
  · cases h

/-! ### Environments -/

/-- The text of the variable for a field of a section. -/
def textOf? (environment : List (String × String)) (sec field : String) : Option String :=
  (environment.find? fun v => lowerCase v.1.toList == spelling sec field).map (·.2)

/-- An environment in which each variable of the service is named after a section and a field, and
no two have one name in lower case. -/
structure IsPlain (environment : List (String × String)) : Prop where
  named : ∀ v ∈ environment, IsMarked v.1 →
    ∃ sec field, IsPair sec field ∧ lowerCase v.1.toList = spelling sec field
  apart : environment.Pairwise fun v w =>
    IsMarked v.1 → lowerCase v.1.toList ≠ lowerCase w.1.toList

theorem IsPlain.tail {v : String × String} {environment : List (String × String)}
    (h : IsPlain (v :: environment)) : IsPlain environment :=
  ⟨fun w hw => h.named w (List.mem_cons_of_mem v hw), (List.pairwise_cons.1 h.apart).2⟩

theorem IsPlain.perm {environment other : List (String × String)} (h : IsPlain environment)
    (hperm : environment.Perm other) : IsPlain other where
  named v hv := h.named v (hperm.mem_iff.2 hv)
  apart := by
    refine (hperm.pairwise_iff ?_).1 h.apart
    intro v w hvw hw heq
    exact hvw (by rwa [IsMarked, ← heq]) heq.symm

theorem IsPlain.isDotted {environment : List (String × String)} (h : IsPlain environment)
    {v : String × String} (hv : v ∈ environment) {key : String} (hkey : keyOf? v.1 = some key) :
    IsDotted key := by
  obtain ⟨sec, field, hpair, hname⟩ := h.named v hv (isMarked_of_keyOf? hkey)
  rw [keyOf?_of_isPair hpair hname, Option.some.injEq] at hkey
  exact ⟨sec, field, hkey.symm, hpair.isPart⟩

/-- A variable sets the option that it is named after, and no other. -/
theorem IsPlain.keyOf?_eq_iff {environment : List (String × String)} (h : IsPlain environment)
    {v : String × String} (hv : v ∈ environment) {sec field : String} (hpair : IsPair sec field) :
    keyOf? v.1 = some (sec ++ "." ++ field) ↔ lowerCase v.1.toList = spelling sec field := by
  refine ⟨fun hkey => ?_, keyOf?_of_isPair hpair⟩
  obtain ⟨sec', field', hpair', hname⟩ := h.named v hv (isMarked_of_keyOf? hkey)
  rw [keyOf?_of_isPair hpair' hname, Option.some.injEq,
    dotted_inj hpair'.isPart.1 hpair.isPart.1] at hkey
  obtain ⟨rfl, rfl⟩ := hkey
  exact hname

theorem isMarked_of_spelling {name sec field : String}
    (h : lowerCase name.toList = spelling sec field) : IsMarked name := by
  rw [IsMarked, h]
  exact List.prefix_append _ _

theorem IsPlain.textOf?_eq_some_iff {environment : List (String × String)}
    (h : IsPlain environment) {sec field text : String} :
    textOf? environment sec field = some text ↔
      ∃ v ∈ environment, lowerCase v.1.toList = spelling sec field ∧ v.2 = text := by
  simp only [textOf?, Option.map_eq_some_iff]
  constructor
  · rintro ⟨v, hfind, htext⟩
    exact ⟨v, List.mem_of_find?_eq_some hfind, by simpa using List.find?_some hfind, htext⟩
  · rintro ⟨v, hv, hname, htext⟩
    induction environment with
    | nil => simp at hv
    | cons w rest ih =>
        by_cases hw : lowerCase w.1.toList = spelling sec field
        · rcases List.mem_cons.1 hv with rfl | hv
          · exact ⟨v, by simp [hw], htext⟩
          · exact absurd (hw.trans hname.symm)
              ((List.pairwise_cons.1 h.apart).1 v hv (isMarked_of_spelling hw))
        · have hv' : v ∈ rest :=
            (List.mem_cons.1 hv).resolve_left fun heq => hw (heq ▸ hname)
          obtain ⟨v', hfind, htext'⟩ := ih h.tail hv'
          exact ⟨v', by simpa [hw] using hfind, htext'⟩

/-- The order of the variables does not matter. -/
theorem textOf?_perm {environment other : List (String × String)} (h : IsPlain environment)
    (hperm : environment.Perm other) (sec field : String) :
    textOf? other sec field = textOf? environment sec field := by
  ext text
  rw [h.textOf?_eq_some_iff, (h.perm hperm).textOf?_eq_some_iff]
  simp only [hperm.mem_iff]

/-! ### The layer of an environment -/

/-- One variable's part in the layer. -/
def add (entries : List (String × Raw)) (v : String × String) : List (String × Raw) :=
  match keyOf? v.1 with
  | some key => store key (valueOf key v.2) entries
  | none => entries

theorem layer_eq (environment : List (String × String)) :
    layer environment = environment.foldl add [] := rfl

theorem IsPlain.tidy_layer {environment : List (String × String)} (h : IsPlain environment) :
    Tidy (layer environment) ∧ ∀ e ∈ layer environment, IsDotted e.1 := by
  have hfold : ∀ entries, Tidy entries → (∀ e ∈ entries, IsDotted e.1) →
      Tidy (environment.foldl add entries) ∧
        ∀ e ∈ environment.foldl add entries, IsDotted e.1 := by
    induction environment with
    | nil => exact fun entries htidy hdotted => ⟨htidy, hdotted⟩
    | cons v rest ih =>
        intro entries htidy hdotted
        rw [List.foldl_cons]
        cases hkey : keyOf? v.1 with
        | none => simpa only [add, hkey] using ih h.tail entries htidy hdotted
        | some key =>
            have hnew : IsDotted key := h.isDotted List.mem_cons_self hkey
            have hkept : keyOf key = key := by
              obtain ⟨sec, field, rfl, hsec, hfield⟩ := hnew
              exact keyOf_dotted hsec hfield
            simp only [add, hkey]
            refine ih h.tail _ (htidy.store hkept _) fun e he => ?_
            rcases mem_store he with rfl | he
            · exact hnew
            · exact hdotted e he
  exact hfold [] tidy_nil (by simp)

/-- **The layer of an environment has, for every option, the value of the variable that is named
after it.** -/
theorem IsPlain.find?_layer {environment : List (String × String)} (h : IsPlain environment)
    {sec field : String} (hpair : IsPair sec field) :
    find? (sec ++ "." ++ field) (layer environment)
      = (textOf? environment sec field).map (valueOf (sec ++ "." ++ field)) := by
  have hfold : ∀ entries, find? (sec ++ "." ++ field) (environment.foldl add entries)
      = ((textOf? environment sec field).map (valueOf (sec ++ "." ++ field))).or
          (find? (sec ++ "." ++ field) entries) := by
    induction environment with
    | nil => intro entries; simp [textOf?]
    | cons v rest ih =>
        intro entries
        rw [List.foldl_cons, ih h.tail]
        by_cases hname : lowerCase v.1.toList = spelling sec field
        · -- no later variable has the name
          have hlater : textOf? rest sec field = none := by
            rw [Option.eq_none_iff_forall_ne_some]
            intro text htext
            obtain ⟨w, hw, hspelled, -⟩ := h.tail.textOf?_eq_some_iff.1 htext
            exact (List.pairwise_cons.1 h.apart).1 w hw (isMarked_of_spelling hname)
              (hname.trans hspelled.symm)
          have hhere : textOf? (v :: rest) sec field = some v.2 := by simp [textOf?, hname]
          rw [hlater, hhere, add, keyOf?_of_isPair hpair hname]
          simp only [find?_store, if_pos]
          rfl
        · have hhere : textOf? (v :: rest) sec field = textOf? rest sec field := by
            simp [textOf?, hname]
          have hkey : ∀ key, keyOf? v.1 = some key → key ≠ sec ++ "." ++ field :=
            fun key hsome heq =>
              hname ((h.keyOf?_eq_iff List.mem_cons_self hpair).1 (heq ▸ hsome))
          have hadd : find? (sec ++ "." ++ field) (add entries v)
              = find? (sec ++ "." ++ field) entries := by
            unfold add
            split
            · rename_i key hsome
              rw [find?_store, if_neg (hkey key hsome)]
            · rfl
          rw [hhere, hadd]
  have hlayer := hfold []
  rwa [← layer_eq, show find? (sec ++ "." ++ field) [] = none from rfl, Option.or_none] at hlayer

theorem isLeaf_valueOf (key text : String) : (valueOf key text).IsLeaf := by
  unfold valueOf
  dsimp only
  split
  · split <;> trivial
  · trivial

end Environment

end AssemblyGate
