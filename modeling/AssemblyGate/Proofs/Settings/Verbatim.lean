/-
**What arrives of a variable's text.**

A variable that is the only one of the service changes its option and no other.  If the option is a
text, the variable's text arrives as it is, unless it reads as a truth value or as a number.  Then
the option is the written form of that value, so that `007` arrives as `7`.  Flags that are joined
by spaces arrive one by one; of two flags or more the text never reads as a value of another kind.

Main definitions:

* `AssemblyGate.Environment.Sole` — a variable is the only one of the service;
* `AssemblyGate.Settings.texts` — the options that are texts;
* `AssemblyGate.IsPlainText`, `AssemblyGate.Arrives` — a text that reads as nothing else, and what
  arrives of a text.

Main results:

* `AssemblyGate.Settings.load_sole`, `AssemblyGate.Settings.convert_of_load_sole` — **a variable
  that stands alone changes its option only**, and nothing but what its option takes;
* `AssemblyGate.Settings.variables_arrive` — **what arrives of texts and of flags**;
* `AssemblyGate.Settings.not_verbatim` — not every text arrives as it is, and not every flag.
-/
import AssemblyGate.Proofs.Number.NumberText
import AssemblyGate.Proofs.Settings.Loading

set_option autoImplicit false

namespace AssemblyGate

open Raw

/-! ### A variable that stands alone -/

namespace Environment

/-- The variable of an option is the only one of the service. -/
def Sole (environment : List (String × String)) (sec field text : String) : Prop :=
  ∃ before name after, environment = before ++ (name, text) :: after ∧
    lowerCase name.toList = spelling sec field ∧ ∀ v ∈ before ++ after, ¬IsMarked v.1

variable {environment : List (String × String)} {sec field text : String}

theorem Sole.isPlain (h : Sole environment sec field text) (hpair : IsPair sec field) :
    IsPlain environment := by
  obtain ⟨before, name, after, rfl, hname, hothers⟩ := h
  have hbefore : ∀ v ∈ before, ¬IsMarked v.1 := fun v hv => hothers v (by simp [hv])
  have hafter : ∀ v ∈ after, ¬IsMarked v.1 := fun v hv => hothers v (by simp [hv])
  constructor
  · intro v hv hmarked
    rcases List.mem_append.1 hv with hv | hv
    · exact absurd hmarked (hbefore v hv)
    · rcases List.mem_cons.1 hv with rfl | hv
      · exact ⟨sec, field, hpair, hname⟩
      · exact absurd hmarked (hafter v hv)
  · have hunmarked : ∀ l : List (String × String), (∀ v ∈ l, ¬IsMarked v.1) →
        l.Pairwise fun v w => IsMarked v.1 → lowerCase v.1.toList ≠ lowerCase w.1.toList :=
      fun l hl => List.pairwise_of_forall_mem_list fun v hv _ _ hmarked => absurd hmarked (hl v hv)
    refine List.pairwise_append.2 ⟨hunmarked _ hbefore,
      List.pairwise_cons.2 ⟨?_, hunmarked _ hafter⟩,
      fun v hv _ _ hmarked => absurd hmarked (hbefore v hv)⟩
    intro w hw hmarked heq
    exact hafter w hw (by rwa [IsMarked, ← heq])

/-- Its option has the variable's text, and no other option has one. -/
theorem Sole.textOf?_eq (h : Sole environment sec field text) (hpair : IsPair sec field)
    {sec' field' : String} (hpair' : IsPair sec' field') :
    textOf? environment sec' field'
      = if (sec', field') = (sec, field) then some text else none := by
  have hplain := h.isPlain hpair
  obtain ⟨before, name, after, rfl, hname, hothers⟩ := h
  have hmem : (name, text) ∈ before ++ (name, text) :: after := by simp
  split
  · rename_i heq
    obtain ⟨rfl, rfl⟩ := Prod.mk.inj heq
    exact hplain.textOf?_eq_some_iff.2 ⟨_, hmem, hname, rfl⟩
  · rename_i hne
    rw [Option.eq_none_iff_forall_ne_some]
    intro found hfound
    obtain ⟨v, hv, hspelled, -⟩ := hplain.textOf?_eq_some_iff.1 hfound
    obtain rfl : v = (name, text) := by
      by_contra hother
      refine hothers v ?_ (isMarked_of_spelling hspelled)
      simp only [List.mem_append, List.mem_cons] at hv ⊢
      tauto
    -- one name has one key only
    have hkeys := (keyOf?_of_isPair hpair' hspelled).symm.trans
      (keyOf?_of_isPair hpair hname)
    rw [Option.some.injEq, dotted_inj hpair'.isPart.1 hpair.isPart.1] at hkeys
    exact hne (Prod.mk.injEq .. ▸ hkeys)

/-- What the variable of an option gives to the options: its value to its own, and nothing to
others. -/
def soleValue? (sec field text : String) (sec' field' : String) : Option Raw :=
  if (sec', field') = (sec, field) then some (valueOf (sec' ++ "." ++ field') text) else none

theorem soleValue?_self (sec field text : String) :
    soleValue? sec field text sec field = some (valueOf (sec ++ "." ++ field) text) := if_pos rfl

theorem soleValue?_of_ne {sec' field' : String} (h : (sec', field') ≠ (sec, field)) :
    soleValue? sec field text sec' field' = none := if_neg h

end Environment

namespace Settings

open Environment (soleValue? soleValue?_self soleValue?_of_ne)

/-- The options that the time limits are compared by. -/
def times : List (String × String) :=
  [("performance", "read_timeout"), ("performance", "write_timeout"), ("assembler", "timeout_ms")]

variable {view : FileView} {name : String} {environment : List (String × String)} {text : String}

/-- When there is no file, the settings are read from what a variable that stands alone gives to
its option. -/
theorem load_sole_iff (hfile : ConfigFile.find? view name = none) {sec field : String}
    (hplace : (sec, field) ∈ places) (hsole : Environment.Sole environment sec field text)
    (s : Settings) : load view environment name = .ok s ↔
      Reads (soleValue? sec field text) s ∧ s.outlasts = true := by
  have hload : load view environment name = ofLayers [] (Environment.layer environment) := by
    simp only [load, ConfigFile.layer, hfile]
  have hpair := isPair_of_mem hplace
  have hchosen : ∀ o ∈ all,
      chosen? [] environment o.sec o.field = soleValue? sec field text o.sec o.field := by
    intro o ho
    rw [chosen?, hsole.textOf?_eq hpair (isPair_of_mem (List.mem_map.2 ⟨o, ho, rfl⟩)), soleValue?]
    split <;> rfl
  rw [hload, ofLayers_eq_ok_iff ⟨by simp, by simp, by simp⟩ (by simp [ConfigFile.HasNoPaths])
    (hsole.isPlain hpair)]
  exact and_congr_left' (forall₂_congr fun o ho => by rw [hchosen o ho])

/-- **A variable that stands alone changes its option only**, when there is no file. -/
theorem load_sole (hfile : ConfigFile.find? view name = none) {o : Setting} (ho : o ∈ all)
    (htimes : (o.sec, o.field) ∉ times)
    (hsole : Environment.Sole environment o.sec o.field text) {a : o.Value}
    (hconvert : o.convert (Environment.valueOf (o.sec ++ "." ++ o.field) text) = .ok a) :
    ∃ s, load view environment name = .ok s ∧ o.get s = a ∧
      ∀ o' ∈ all, (o'.sec, o'.field) ≠ (o.sec, o.field) → o'.get s = o'.get standard := by
  have hdistinct : places.Nodup := by decide
  have hsame : ∀ o' ∈ all, (o'.sec, o'.field) = (o.sec, o.field) → o' = o :=
    fun o' ho' heq => List.inj_on_of_nodup_map hdistinct ho' ho heq
  obtain ⟨s, hreads⟩ : ∃ s, Reads (soleValue? o.sec o.field text) s := by
    refine exists_reads_iff.2 fun o' ho' => ?_
    by_cases heq : (o'.sec, o'.field) = (o.sec, o.field)
    · obtain rfl := hsame o' ho' heq
      rw [soleValue?_self]
      exact ⟨a, hconvert⟩
    · rw [soleValue?_of_ne heq]
      exact ⟨_, rfl⟩
  have hothers : ∀ o' ∈ all, (o'.sec, o'.field) ≠ (o.sec, o.field) →
      o'.get s = o'.get standard := by
    intro o' ho' hne
    have htakes := hreads o' ho'
    rwa [soleValue?_of_ne hne] at htakes
  have hget : o.get s = a := by
    have htakes := hreads o ho
    rw [soleValue?_self] at htakes
    exact Except.ok.inj (htakes.symm.trans hconvert)
  have hlasts : s.outlasts = true := by
    have hread := hothers
      ⟨"performance", "read_timeout", UInt64, toWord, (·.performance.readTimeout)⟩
      (by simp [all]) (fun heq => htimes (heq ▸ by decide))
    have hwrite := hothers
      ⟨"performance", "write_timeout", UInt64, toWord, (·.performance.writeTimeout)⟩
      (by simp [all]) (fun heq => htimes (heq ▸ by decide))
    have hlimit := hothers ⟨"assembler", "timeout_ms", UInt64, toWord, (·.assembler.timeoutMs)⟩
      (by simp [all]) (fun heq => htimes (heq ▸ by decide))
    dsimp only at hread hwrite hlimit
    rw [outlasts, connectionMs, connectionSpan, connectionSeconds, hread, hwrite, hlimit]
    decide
  exact ⟨s, (load_sole_iff hfile (List.mem_map.2 ⟨o, ho, rfl⟩) hsole s).2 ⟨hreads, hlasts⟩, hget,
    hothers⟩

/-- If the settings are read, the option is what it makes of the value of its variable. -/
theorem convert_of_load_sole (hfile : ConfigFile.find? view name = none) {o : Setting}
    (ho : o ∈ all) (hsole : Environment.Sole environment o.sec o.field text) {s : Settings}
    (hload : load view environment name = .ok s) :
    o.convert (Environment.valueOf (o.sec ++ "." ++ o.field) text) = .ok (o.get s) := by
  have hreads := ((load_sole_iff hfile (List.mem_map.2 ⟨o, ho, rfl⟩) hsole s).1 hload).1
  have htakes := hreads o ho
  rwa [soleValue?_self] at htakes

end Settings

/-! ### What a text reads as -/

/-- The text reads neither as a truth value nor as a number. -/
structure IsPlainText (text : String) : Prop where
  truth : ∀ b : Bool, keyOf text ≠ toString b
  whole : ∀ n, ¬WholeText text.toList n
  float : ∀ x, ¬FloatText text.toList x

/-- What arrives of a text: the written form of the value that it reads as, and the text itself if
it reads as no other value. -/
inductive Arrives (text : String) : String → Prop
  | truth (b : Bool) : keyOf text = toString b → Arrives text (toString b)
  | whole {n : Int} : (∀ b : Bool, keyOf text ≠ toString b) → WholeText text.toList n →
      Arrives text (toString n)
  | float {x : Binary64} : (∀ b : Bool, keyOf text ≠ toString b) →
      (∀ n, ¬WholeText text.toList n) → FloatText text.toList x →
      Arrives text (String.ofList x.positional)
  | verbatim : IsPlainText text → Arrives text text

/-- A text with a space reads as nothing else. -/
theorem IsPlainText.of_space {text : String} (h : ' ' ∈ text.toList) : IsPlainText text where
  truth b heq := by
    have hsmall : IsSmall ' ' := ⟨by decide, by decide, by decide +kernel⟩
    have hmem : ' ' ∈ (keyOf text).toList := by
      rw [keyOf, String.toList_ofList]
      exact mem_lowerCase_of_isSmall hsmall h
    rw [heq] at hmem
    cases b <;> exact absurd hmem (by decide)
  whole _ hwhole := hwhole.space_not_mem h
  float _ hfloat := hfloat.space_not_mem h

theorem isPlainText_iff {text : String} : IsPlainText text ↔
    (∀ b : Bool, keyOf text ≠ toString b) ∧ (Numeral.signed? text.toList).isNone ∧
      (Binary64.ofText? text.toList).isNone := by
  simp only [Option.isNone_iff_eq_none, Option.eq_none_iff_forall_ne_some, Ne,
    Numeral.signed?_eq_some_iff, Binary64.ofText?_eq_some_iff]
  exact ⟨fun h => ⟨h.truth, h.whole, h.float⟩, fun h => ⟨h.1, h.2.1, h.2.2⟩⟩

instance : DecidablePred IsPlainText := fun _ => decidable_of_iff _ isPlainText_iff.symm

namespace Environment

variable {text : String}

theorem scalarOf_of_truth {b : Bool} (h : keyOf text = toString b) : scalarOf text = .bool b := by
  unfold scalarOf
  dsimp only
  rw [h]
  cases b <;> rfl

theorem scalarOf_of_not_truth (h : ∀ b : Bool, keyOf text ≠ toString b) :
    scalarOf text = match Numeral.signed? text.toList with
      | some n => .int n
      | none =>
          match Binary64.ofText? text.toList with
          | some x => .float x
          | none => .text text := by
  have htrue : keyOf text ≠ "true" := h true
  have hfalse : keyOf text ≠ "false" := h false
  unfold scalarOf
  refine (if_neg htrue).trans ((if_neg hfalse).trans ?_)
  rfl

theorem scalarOf_of_whole (h : ∀ b : Bool, keyOf text ≠ toString b) {n : Int}
    (hwhole : WholeText text.toList n) : scalarOf text = .int n := by
  rw [scalarOf_of_not_truth h, Numeral.signed?_eq_some_iff.2 hwhole]

theorem signed?_eq_none (h : ∀ n, ¬WholeText text.toList n) :
    Numeral.signed? text.toList = none := by
  rw [Option.eq_none_iff_forall_ne_some]
  exact fun n hn => h n (Numeral.signed?_eq_some_iff.1 hn)

theorem scalarOf_of_float (h : ∀ b : Bool, keyOf text ≠ toString b)
    (hwhole : ∀ n, ¬WholeText text.toList n) {x : Binary64} (hfloat : FloatText text.toList x) :
    scalarOf text = .float x := by
  rw [scalarOf_of_not_truth h, signed?_eq_none hwhole, Binary64.ofText?_eq_some_iff.2 hfloat]

theorem scalarOf_of_isPlainText (h : IsPlainText text) : scalarOf text = .text text := by
  obtain ⟨htruth, hwhole, hfloat⟩ := isPlainText_iff.1 h
  rw [scalarOf_of_not_truth htruth, Option.isNone_iff_eq_none.1 hwhole,
    Option.isNone_iff_eq_none.1 hfloat]

/-- What arrives of a text is the written form of the scalar that it reads as. -/
theorem toText_scalarOf {u : String} (h : Arrives text u) (origin : Option String) :
    (Raw.scalar origin (scalarOf text)).toText = .ok u := by
  cases h with
  | truth b hb => rw [scalarOf_of_truth hb, toText]
  | whole htruth hwhole => rw [scalarOf_of_whole htruth hwhole, toText]
  | float htruth hwhole hfloat => rw [scalarOf_of_float htruth hwhole hfloat, toText]
  | verbatim hplain => rw [scalarOf_of_isPlainText hplain, toText]

/-- One text arrives. -/
theorem arrives_unique {u v : String} (hu : Arrives text u) (hv : Arrives text v) : u = v :=
  Except.ok.inj ((toText_scalarOf hu none).symm.trans (toText_scalarOf hv none))

theorem exists_arrives (text : String) : ∃ u, Arrives text u := by
  by_cases htruth : ∃ b : Bool, keyOf text = toString b
  · obtain ⟨b, hb⟩ := htruth
    exact ⟨_, .truth b hb⟩
  rw [not_exists] at htruth
  by_cases hwhole : ∃ n, WholeText text.toList n
  · obtain ⟨n, hn⟩ := hwhole
    exact ⟨_, .whole htruth hn⟩
  rw [not_exists] at hwhole
  by_cases hfloat : ∃ x, FloatText text.toList x
  · obtain ⟨x, hx⟩ := hfloat
    exact ⟨_, .float htruth hwhole hx⟩
  rw [not_exists] at hfloat
  exact ⟨text, .verbatim ⟨htruth, hwhole, hfloat⟩⟩

/-- Only the flags are a list. -/
theorem valueOf_of_ne {key : String} (hkey : key ≠ flagsKey) (text : String) :
    valueOf key text = .scalar (some originName) (scalarOf text) := by
  unfold valueOf
  dsimp only
  split
  · rename_i s hs
    rw [if_neg hkey, hs]
  · rfl

/-! ### Flags -/

/-- Flags are cut at the spaces, unless they read as another value. -/
theorem valueOf_flags (h : IsPlainText text) :
    valueOf flagsKey text = .list (some originName)
      (((splitSpaces text.toList).map String.ofList).map fun flag =>
        .scalar (some originName) (.text flag)) := by
  unfold valueOf
  rw [scalarOf_of_isPlainText h]
  dsimp only
  rw [if_pos rfl, List.map_map]
  rfl

theorem splitSpaces_cons (c : Char) (text : List Char) :
    splitSpaces (c :: text) =
      if c = ' ' then [] :: splitSpaces text else (splitSpaces text).modifyHead (c :: ·) := by
  unfold splitSpaces
  rw [List.foldl_reverse, List.foldl_reverse, List.foldr_cons]
  dsimp only
  split <;> rfl

theorem splitSpaces_eq (text : List Char) : splitSpaces text = text.splitOn ' ' := by
  induction text with
  | nil => rfl
  | cons c text ih =>
      rw [splitSpaces_cons, ih, List.splitOn_cons_eq_if_modifyHead]
      simp only [beq_iff_eq]

/-- Texts without spaces are found again between the spaces that join them. -/
theorem splitSpaces_intercalate {flags : List String} (hne : flags ≠ [])
    (hspaces : ∀ flag ∈ flags, ' ' ∉ flag.toList) :
    (splitSpaces (" ".intercalate flags).toList).map String.ofList = flags := by
  have hpieces : ∀ piece ∈ flags.map String.toList, ' ' ∉ piece := by
    intro piece hpiece
    obtain ⟨flag, hflag, rfl⟩ := List.mem_map.1 hpiece
    exact hspaces flag hflag
  rw [splitSpaces_eq, String.toList_intercalate]
  have hsplit := List.splitOn_intercalate ' ' hpieces (by simpa using hne)
  rw [show " ".toList = [' '] from rfl, hsplit, List.map_map]
  simp

end Environment

theorem textsFrom_texts (origin : Option String) (texts : List String) (position : Nat) :
    textsFrom position (texts.map fun s => .scalar origin (.text s)) = .ok texts := by
  induction texts generalizing position with
  | nil => rfl
  | cons s texts ih => rw [List.map_cons, textsFrom, ih]; rfl

/-- Two joined flags or more have a space between them. -/
theorem space_mem_intercalate {flags : List String} (h : 2 ≤ flags.length) :
    ' ' ∈ (" ".intercalate flags).toList := by
  obtain _ | ⟨first, _ | ⟨second, rest⟩⟩ := flags
  · simp at h
  · simp at h
  · rw [String.toList_intercalate]
    simp [List.intercalate]

namespace Settings

/-! ### The options that are texts -/

/-- An option that is a text, or may be one. -/
structure TextOption where
  sec : String
  field : String
  get : Settings → Option String

/-- The options that are texts. -/
def texts : List TextOption :=
  [⟨"server", "host", fun s => some s.server.host⟩,
    ⟨"logging", "level", fun s => some s.logging.level⟩,
    ⟨"logging", "access_log_format", fun s => some s.logging.accessLogFormat⟩,
    ⟨"logging", "access_log_file", (·.logging.accessLogFile)⟩,
    ⟨"logging", "error_log_file", (·.logging.errorLogFile)⟩,
    ⟨"http", "server_name", fun s => some s.http.serverName⟩,
    ⟨"health", "liveness_path", fun s => some s.health.livenessPath⟩,
    ⟨"health", "readiness_path", fun s => some s.health.readinessPath⟩,
    ⟨"assembler", "binary", fun s => some s.assembler.binary⟩,
    ⟨"assembler", "locale", fun s => some s.assembler.locale⟩,
    ⟨"assembler", "staging_dir", (·.assembler.stagingDir)⟩,
    ⟨"assembler", "placeholder", fun s => some s.assembler.placeholder⟩]

/-- The option is a setting that takes what is written for its value. -/
def TextOption.TakesText (o : TextOption) : Prop :=
  ∃ setting ∈ all, setting.sec = o.sec ∧ setting.field = o.field ∧
    ∀ {raw : Raw} {t : String}, raw.toText = .ok t →
      ∃ a, setting.convert raw = .ok a ∧ ∀ s, setting.get s = a → o.get s = some t

theorem takesText_of_text {sec field : String} {get : Settings → String}
    (h : (⟨sec, field, String, toText, get⟩ : Setting) ∈ all) :
    TextOption.TakesText ⟨sec, field, fun s => some (get s)⟩ :=
  ⟨_, h, rfl, rfl, fun ht => ⟨_, ht, fun _ hs => congrArg some hs⟩⟩

theorem takesText_of_option {sec field : String} {get : Settings → Option String}
    (h : (⟨sec, field, Option String, toOption toText, get⟩ : Setting) ∈ all) :
    TextOption.TakesText ⟨sec, field, get⟩ := by
  refine ⟨_, h, rfl, rfl, fun {raw t} ht => ⟨some t, ?_, fun _ hs => hs⟩⟩
  change toOption toText raw = _
  unfold toOption
  split
  · cases ht
  · rw [ht]
    rfl

theorem takesText : ∀ o ∈ texts, o.TakesText := by
  simp only [texts, List.forall_mem_cons, List.not_mem_nil, false_implies, implies_true, and_true]
  refine ⟨takesText_of_text ?_, takesText_of_text ?_, takesText_of_text ?_, takesText_of_option ?_,
    takesText_of_option ?_, takesText_of_text ?_, takesText_of_text ?_, takesText_of_text ?_,
    takesText_of_text ?_, takesText_of_text ?_, takesText_of_option ?_, takesText_of_text ?_⟩
  all_goals simp [all]

/-! ### What arrives -/

variable {view : FileView} {name : String}

/-- **What arrives of texts and of flags.**  There is no file, and the option's variable is the only
one of the service.  An option that is a text gets what arrives of the variable's text: the text
itself, if that reads neither as a truth value nor as a number.  Flags without spaces, joined by
spaces, arrive one by one; the text of one flag only must not read as another value. -/
theorem variables_arrive (hfile : ConfigFile.find? view name = none)
    (environment : List (String × String)) :
    (∀ o ∈ texts, ∀ text, Environment.Sole environment o.sec o.field text →
      ∃ s arrived, load view environment name = .ok s ∧ o.get s = some arrived ∧
        (∀ u, Arrives text u ↔ u = arrived) ∧ (IsPlainText text → arrived = text)) ∧
    ∀ flags : List String, flags ≠ [] → (∀ flag ∈ flags, ' ' ∉ flag.toList) →
      2 ≤ flags.length ∨ IsPlainText (" ".intercalate flags) →
      Environment.Sole environment "assembler" "flags" (" ".intercalate flags) →
      ∃ s, load view environment name = .ok s ∧ s.assembler.flags = flags := by
  constructor
  · intro o ho text hsole
    have hkey : o.sec ++ "." ++ o.field ≠ Environment.flagsKey ∧ (o.sec, o.field) ∉ times := by
      have hall : ∀ place ∈ texts.map fun o => (o.sec, o.field),
          place.1 ++ "." ++ place.2 ≠ Environment.flagsKey ∧ place ∉ times := by decide
      exact hall _ (List.mem_map.2 ⟨o, ho, rfl⟩)
    obtain ⟨arrived, harrives⟩ := Environment.exists_arrives text
    obtain ⟨setting, hsetting, hsec, hfield, htakes⟩ := takesText o ho
    obtain ⟨a, ha, hget⟩ :=
      htakes (Environment.toText_scalarOf harrives (some Environment.originName))
    rw [← Environment.valueOf_of_ne hkey.1, ← hsec, ← hfield] at ha
    obtain ⟨s, hload, hvalue, -⟩ := load_sole hfile hsetting (by rw [hsec, hfield]; exact hkey.2)
      (by rwa [hsec, hfield]) ha
    exact ⟨s, arrived, hload, hget s hvalue,
      fun u => ⟨fun hu => Environment.arrives_unique hu harrives, fun hu => hu ▸ harrives⟩,
      fun hplain => Environment.arrives_unique harrives (.verbatim hplain)⟩
  · intro flags hne hspaces hlist hsole
    have hplain : IsPlainText (" ".intercalate flags) :=
      hlist.elim (fun h => .of_space (space_mem_intercalate h)) id
    have hconvert : toTexts (Environment.valueOf Environment.flagsKey (" ".intercalate flags))
        = .ok flags := by
      rw [Environment.valueOf_flags hplain, Environment.splitSpaces_intercalate hne hspaces]
      exact textsFrom_texts _ flags 0
    obtain ⟨s, hload, hget, -⟩ := load_sole hfile
      (o := ⟨"assembler", "flags", List String, toTexts, (·.assembler.flags)⟩)
      (by simp [all]) (by decide) hsole hconvert
    exact ⟨s, hload, hget⟩

/-- The machine has no file of settings under this name. -/
theorem find?_portView : ConfigFile.find? portView "service" = none := by decide +kernel

/-- An environment with one variable, the one of the staging directory. -/
def stagingEnvironment (text : String) : List (String × String) :=
  [("ASMCHECK__ASSEMBLER__STAGING_DIR", text)]

theorem sole_stagingEnvironment (text : String) :
    Environment.Sole (stagingEnvironment text) "assembler" "staging_dir" text :=
  ⟨[], _, [], rfl, by decide +kernel, by simp⟩

/-- An environment with one variable, the one of the flags. -/
def flagsEnvironment (text : String) : List (String × String) :=
  [("ASMCHECK__ASSEMBLER__FLAGS", text)]

theorem sole_flagsEnvironment (text : String) :
    Environment.Sole (flagsEnvironment text) "assembler" "flags" text :=
  ⟨[], _, [], rfl, by decide +kernel, by simp⟩

/-- A directory and two flags arrive as they are. -/
theorem variables_arrive_directory :
    (∃ s, load portView (stagingEnvironment "/var/tmp/007") "service" = .ok s ∧
      s.assembler.stagingDir = some "/var/tmp/007") ∧
    ∃ s, load portView (flagsEnvironment "-mthumb -I007") "service" = .ok s ∧
      s.assembler.flags = ["-mthumb", "-I007"] := by
  have hdirectory := (variables_arrive find?_portView
    (stagingEnvironment "/var/tmp/007")).1 ⟨"assembler", "staging_dir", (·.assembler.stagingDir)⟩
    (by simp [texts]) "/var/tmp/007" (sole_stagingEnvironment _)
  obtain ⟨s, arrived, hload, hget, -, hplain⟩ := hdirectory
  refine ⟨⟨s, hload, ?_⟩, ?_⟩
  · rw [← hplain (by decide +kernel)]
    exact hget
  · exact (variables_arrive find?_portView (flagsEnvironment "-mthumb -I007")).2
      ["-mthumb", "-I007"] (by simp) (by decide) (.inl (by simp)) (sole_flagsEnvironment _)

/-- **Not every text arrives as it is**, and not every list of flags: a directory that is named
`007` becomes `7`, and one flag that is a number is refused. -/
theorem not_verbatim :
    (¬∀ (view : FileView) (name : String) (environment : List (String × String)),
      ConfigFile.find? view name = none → ∀ o ∈ texts, ∀ text, '\x00' ∉ text.toList →
        Environment.Sole environment o.sec o.field text →
          ∃ s, load view environment name = .ok s ∧ o.get s = some text) ∧
    ¬∀ (view : FileView) (name : String) (environment : List (String × String)),
      ConfigFile.find? view name = none → ∀ flags : List String, flags ≠ [] →
        (∀ flag ∈ flags, ' ' ∉ flag.toList) →
        Environment.Sole environment "assembler" "flags" (" ".intercalate flags) →
          ∃ s, load view environment name = .ok s ∧ s.assembler.flags = flags := by
  constructor
  · intro h
    obtain ⟨s, hload, hget⟩ := h portView "service" (stagingEnvironment "007") find?_portView
      ⟨"assembler", "staging_dir", (·.assembler.stagingDir)⟩ (by simp [texts]) "007" (by decide)
      (sole_stagingEnvironment _)
    have hread := convert_of_load_sole find?_portView
      (o := ⟨"assembler", "staging_dir", Option String, toOption toText, (·.assembler.stagingDir)⟩)
      (by simp [all]) (sole_stagingEnvironment "007") hload
    have hseven : toOption toText (Environment.valueOf "assembler.staging_dir" "007")
        = .ok (some "7") := by decide +kernel
    have hshown := Except.ok.inj (hread.symm.trans hseven)
    exact absurd (hget.symm.trans hshown) (by decide)
  · intro h
    obtain ⟨s, hload, -⟩ := h portView "service" (flagsEnvironment "5") find?_portView ["5"]
      (by simp) (by decide) (sole_flagsEnvironment _)
    have hread := convert_of_load_sole find?_portView
      (o := ⟨"assembler", "flags", List String, toTexts, (·.assembler.flags)⟩)
      (by simp [all]) (sole_flagsEnvironment "5") hload
    have hrefused : (toTexts (Environment.valueOf "assembler.flags" "5")).toOption = none := by
      decide +kernel
    have htaken := congrArg Except.toOption hread
    exact absurd (hrefused.symm.trans htaken) (by simp [Except.toOption])

end Settings

end AssemblyGate
