/-
**Calls that overlap.**

Any number of calls run on one machine, each one a step at a time: a directory is made, the source
is written, the assembler is started, it reads its source and writes its result, it ends, its words
are freed of the paths, and the directory is removed.  The steps of different calls come in any
order.

What holds of one call is kept by its own steps and, as long as the areas of the calls lie apart, by
the steps of all others.  A name that is free when it is drawn keeps the areas apart, even if it was
in use before.

Main definitions:

* `AssemblyGate.Phase`, `AssemblyGate.Step` — how far a call has come, and one step of it;
* `AssemblyGate.Calls`, `AssemblyGate.Moves` — all calls with the machine they share, and a step of
  one of them;
* `AssemblyGate.Sound` — what holds of a call at every moment;
* `AssemblyGate.Isolated` — what holds of all of them.

Main results:

* `AssemblyGate.Step.sound`, `AssemblyGate.Step.frame` — a call's own steps, and those of another;
* `AssemblyGate.assemble_steps` — an assembly is a run of steps;
* `AssemblyGate.interleaved_calls` — **overlapping calls do not disturb one another**.
-/
import AssemblyGate.Proofs.Assembler.Machine
import Mathlib.Logic.Function.Basic
import Mathlib.Logic.Relation

set_option autoImplicit false

namespace AssemblyGate

/-! ### The steps of a call -/

/-- How far a call has come. -/
inductive Phase
  | waiting
  | made (area : StagingArea)
  | refused (area : StagingArea) (cause : Fault)
  | staged (area : StagingArea)
  | started (area : StagingArea)
  | fed (area : StagingArea) (found : Option Bytes)
  | ended (area : StagingArea) (run : Run)
  | concluded (area : StagingArea) (outcome : Except AssembleError Outcome)
  | returned (outcome : Except AssembleError Outcome)

namespace Phase

/-- The area of a call that has one. -/
def area? : Phase → Option StagingArea
  | waiting | returned _ => none
  | made area | refused area _ | staged area | started area | fed area _ | ended area _
  | concluded area _ => some area

/-- The area of a call whose source has been written. -/
def written? : Phase → Option StagingArea
  | waiting | returned _ | made _ | refused .. => none
  | staged area | started area | fed area _ | ended area _ | concluded area _ => some area

/-- How many steps a call has still before it at most. -/
def rank : Phase → Nat
  | waiting => 7
  | made _ => 6
  | staged _ => 5
  | started _ => 4
  | fed .. => 3
  | ended .. => 2
  | refused .. | concluded .. => 1
  | returned _ => 0

end Phase

variable (bench : Workbench) (a : AssemblerSettings) (source : String)

/-- One step of a call with a source. -/
inductive Step : Store × Phase → Store × Phase → Prop
  | tooLarge {s : Store} : a.maxSourceBytes.toNat < source.utf8ByteSize →
      Step (s, .waiting)
        (s, .returned (.error (.sourceTooLarge source.utf8ByteSize a.maxSourceBytes.toNat)))
  | notMade {s : Store} {fault : Fault} : source.utf8ByteSize ≤ a.maxSourceBytes.toNat →
      bench.parent a.stagingDir = .error fault →
      Step (s, .waiting) (s, .returned (.error (.staging fault)))
  | make {s : Store} {parent : {path : String // Path.isAbsolute path = true}} {name : String} :
      source.utf8ByteSize ≤ a.maxSourceBytes.toNat → bench.parent a.stagingDir = .ok parent →
      Discreet bench a source parent name → s.directories (Path.join parent name) = false →
      Step (s, .waiting) (s.make (Path.join parent name), .made ⟨Path.join parent name⟩)
  | notWritten {s : Store} {area : StagingArea} {fault : Fault} :
      bench.writing (Utf8.encode source.toList) = some fault →
      Step (s, .made area) (s, .refused area fault)
  | withdraw {s : Store} {area : StagingArea} {fault : Fault} :
      Step (s, .refused area fault) (s.remove area.directory, .returned (.error (.staging fault)))
  | write {s : Store} {area : StagingArea} : bench.writing (Utf8.encode source.toList) = none →
      Step (s, .made area) (s.write area.source (Utf8.encode source.toList), .staged area)
  | notStarted {s : Store} {area : StagingArea} {fault : Fault} :
      bench.starting a.binary = some fault →
      Step (s, .staged area) (s, .ended area (.notStarted fault))
  | start {s : Store} {area : StagingArea} : bench.starting a.binary = none →
      Step (s, .staged area) (s, .started area)
  | feed {s : Store} {area : StagingArea} :
      Step (s, .started area)
        (s.emit area.result (bench.result (s.files area.source)), .fed area (s.files area.source))
  | finish {s : Store} {area : StagingArea} {found : Option Bytes} :
      Step (s, .fed area found)
        (s, .ended area ((bench.conduct a.timeoutMs.toNat found).run (Mention.path area)))
  | conclude {s : Store} {area : StagingArea} {run : Run} :
      Step (s, .ended area run) (s, .concluded area (Assembler.conclude a area run))
  | clear {s : Store} {area : StagingArea} {outcome : Except AssembleError Outcome} :
      Step (s, .concluded area outcome) (s.remove area.directory, .returned outcome)

/-! ### What holds of a call -/

/-- A call owns its area: it was drawn a discreet name, and the directory is there. -/
structure Owns (s : Store) (area : StagingArea) : Prop where
  named : ∃ parent name, bench.parent a.stagingDir = .ok parent ∧
    Discreet bench a source parent name ∧ area = ⟨Path.join parent name⟩
  made : s.directories area.directory = true

/-- What a call has learned by the time it has come so far. -/
def OnCourse : Phase → Prop
  | .waiting => True
  | .made _ => source.utf8ByteSize ≤ a.maxSourceBytes.toNat
  | .refused _ fault => bench.expected a source = .error (.staging fault)
  | .staged _ => source.utf8ByteSize ≤ a.maxSourceBytes.toNat ∧
      bench.writing (Utf8.encode source.toList) = none
  | .started _ => bench.expected a source = Workbench.verdict a (bench.answer a source)
  | .fed _ found => bench.expected a source = Workbench.verdict a (bench.answer a source) ∧
      found = some (Utf8.encode source.toList)
  | .ended area run => Assembler.conclude a area run = bench.expected a source
  | .concluded _ outcome | .returned outcome => outcome = bench.expected a source

/-- What holds of a call at every moment. -/
structure Sound (s : Store) (phase : Phase) : Prop where
  owns : ∀ area, phase.area? = some area → Owns bench a source s area
  holds : ∀ area, phase.written? = some area →
    s.files area.source = some (Utf8.encode source.toList)
  course : OnCourse bench a source phase

variable {bench a source}

/-- An area that a call gets is its own already, or free. -/
theorem Step.area_eq {s s' : Store} {p p' : Phase} (h : Step bench a source (s, p) (s', p'))
    {area : StagingArea} (harea : p'.area? = some area) :
    p.area? = some area ∨ s.directories area.directory = false := by
  cases h with
  | make _ _ _ hfree =>
      obtain rfl := Option.some.inj harea
      exact .inr hfree
  | tooLarge | notMade | withdraw | clear => simp [Phase.area?] at harea
  | notWritten | write | notStarted | start | feed | finish | conclude => exact .inl harea

/-- Every step brings a call nearer to its end. -/
theorem Step.rank_lt {s s' : Store} {p p' : Phase} (h : Step bench a source (s, p) (s', p')) :
    p'.rank < p.rank := by
  cases h <;> simp [Phase.rank]

theorem Owns.named_conclude {s : Store} {area : StagingArea} (h : Owns bench a source s area) :
    Assembler.conclude a area ((bench.answer a source).run (Mention.path area))
      = Workbench.verdict a (bench.answer a source) := by
  obtain ⟨parent, name, -, hdiscreet, rfl⟩ := h.named
  exact conclude_run hdiscreet

theorem Owns.exists_drawn {s : Store} {area : StagingArea} (h : Owns bench a source s area) :
    ∃ parent name, bench.parent a.stagingDir = .ok parent ∧ StagingName name ∧
      area = ⟨Path.join parent name⟩ := by
  obtain ⟨parent, name, hparent, hdiscreet, harea⟩ := h.named
  exact ⟨parent, name, hparent, hdiscreet.drawn, harea⟩

theorem Owns.source_ne_result {s : Store} {area : StagingArea} (h : Owns bench a source s area) :
    area.source ≠ area.result := by
  obtain ⟨parent, name, -, hname, rfl⟩ := h.exists_drawn
  intro heq
  have hpaths : Mention.path ⟨Path.join parent name⟩ .source
      = Mention.path ⟨Path.join parent name⟩ .result := congrArg String.toList heq
  rw [path_eq_markedPath parent.2 hname, path_eq_markedPath parent.2 hname] at hpaths
  have hprefix : markedPath (Path.stem parent) name.toList .source
      <+: markedPath (Path.stem parent) name.toList .result ++ [] := by
    rw [hpaths, List.append_nil]
  exact absurd (markedPath_inj hprefix) (by decide)

/-- **A call's own steps keep what holds of it.** -/
theorem Step.sound {s s' : Store} {p p' : Phase} (h : Step bench a source (s, p) (s', p'))
    (hp : Sound bench a source s p) : Sound bench a source s' p' := by
  cases h with
  | tooLarge hlarge => exact ⟨by simp [Phase.area?], by simp [Phase.written?], by
      simp [OnCourse, Workbench.expected, hlarge]⟩
  | notMade hfits hparent => exact ⟨by simp [Phase.area?], by simp [Phase.written?], by
      simp [OnCourse, Workbench.expected, Nat.not_lt.2 hfits, hparent]⟩
  | make hfits hparent hdiscreet hfree =>
      refine ⟨?_, by simp [Phase.written?], hfits⟩
      intro area harea
      obtain rfl := Option.some.inj harea
      exact ⟨⟨_, _, hparent, hdiscreet, rfl⟩, by simp [Store.make]⟩
  | notWritten hwriting =>
      -- that the area was made tells that its parent is there
      refine ⟨hp.owns, by simp [Phase.written?], ?_⟩
      obtain ⟨parent, name, hparent, -⟩ := (hp.owns _ rfl).named
      have hfits : source.utf8ByteSize ≤ a.maxSourceBytes.toNat := hp.course
      simp [OnCourse, Workbench.expected, Nat.not_lt.2 hfits, hparent, hwriting]
  | withdraw => exact ⟨by simp [Phase.area?], by simp [Phase.written?], hp.course.symm⟩
  | write hwriting =>
      refine ⟨fun area harea => ⟨(hp.owns area harea).named, (hp.owns area harea).made⟩, ?_,
        hp.course, hwriting⟩
      intro area harea
      obtain rfl := Option.some.inj harea
      simp [Store.write]
  | notStarted hstarting =>
      refine ⟨hp.owns, hp.holds, ?_⟩
      obtain ⟨parent, name, hparent, -⟩ := (hp.owns _ rfl).named
      obtain ⟨hfits, hwriting⟩ := hp.course
      simp [OnCourse, Assembler.conclude, Workbench.expected, Nat.not_lt.2 hfits, hparent, hwriting,
        hstarting]
  | start hstarting =>
      refine ⟨hp.owns, hp.holds, ?_⟩
      obtain ⟨parent, name, hparent, -⟩ := (hp.owns _ rfl).named
      obtain ⟨hfits, hwriting⟩ := hp.course
      simp [OnCourse, Workbench.expected, Nat.not_lt.2 hfits, hparent, hwriting, hstarting]
  | @feed area =>
      have howns := hp.owns _ rfl
      have hsource := hp.holds _ rfl
      refine ⟨fun area' harea => ⟨(hp.owns area' harea).named, ?_⟩, ?_, hp.course, hsource⟩
      · rw [Store.emit_directories]
        exact (hp.owns area' harea).made
      · -- the result is written beside the source, and not over it
        intro area' harea
        obtain rfl := Option.some.inj harea
        rw [Store.emit_files howns.source_ne_result, hsource]
  | finish =>
      -- the words mention the paths, and what they come to does not
      refine ⟨hp.owns, hp.holds, ?_⟩
      obtain ⟨hexpected, rfl⟩ := hp.course
      exact ((hp.owns _ rfl).named_conclude).trans hexpected.symm
  | conclude => exact ⟨hp.owns, hp.holds, hp.course⟩
  | clear => exact ⟨by simp [Phase.area?], by simp [Phase.written?], hp.course⟩

/-! ### Areas that lie apart -/

/-- Nothing that happens in one area touches another one's directory and source. -/
structure Apart (area other : StagingArea) : Prop where
  source_ne : other.source ≠ area.source
  result_ne : other.source ≠ area.result
  directory_out : Store.leadsInto area.directory other.directory = false
  source_out : Store.leadsInto area.directory other.source = false

/-- The text up to the first slash is known from the whole. -/
theorem eq_of_slash {u v x y : List Char} (hu : '/' ∉ u) (hv : '/' ∉ v)
    (h : u ++ '/' :: x = v ++ '/' :: y) : u = v := by
  have hfront : ∀ {w z : List Char}, '/' ∉ w → (w ++ '/' :: z).takeWhile (· ≠ '/') = w := by
    intro w z hw
    have hplain : ∀ c ∈ w, decide (c ≠ '/') = true := by
      intro c hc
      rw [decide_eq_true_eq]
      rintro rfl
      exact hw hc
    rw [List.takeWhile_append_of_pos hplain]
    simp
  rw [← hfront (z := x) hu, h, hfront hv]

theorem Mention.path_ne {parent name name' : String} (hparent : Path.isAbsolute parent = true)
    (hname : StagingName name) (hname' : StagingName name') (hne : name ≠ name') (m m' : Mention) :
    m.path ⟨Path.join parent name⟩ ≠ m'.path ⟨Path.join parent name'⟩ := by
  intro heq
  rw [path_eq_markedPath hparent hname, path_eq_markedPath hparent hname', markedPath, markedPath,
    List.append_assoc, List.append_assoc, List.append_cancel_left_eq] at heq
  obtain ⟨tail, htail⟩ := m.exists_ending
  obtain ⟨tail', htail'⟩ := m'.exists_ending
  rw [htail, htail'] at heq
  exact hne (String.toList_injective (eq_of_slash hname.slash_notMem hname'.slash_notMem heq))

theorem leadsInto_iff {directory path : String} :
    Store.leadsInto directory path = true ↔
      ∃ rest, path.toList = directory.toList ++ '/' :: rest := by
  rw [Store.leadsInto, List.isPrefixOf_iff_prefix]
  constructor
  · rintro ⟨rest, hrest⟩
    exact ⟨rest, by rw [← hrest]; simp⟩
  · rintro ⟨rest, hrest⟩
    exact ⟨rest, by rw [hrest]; simp⟩

theorem join_stagingName {parent name : String} (hparent : Path.isAbsolute parent = true)
    (hname : StagingName name) :
    (Path.join parent name).toList = Path.stem parent ++ name.toList := by
  obtain ⟨rest, hrest⟩ := hname.exists_cons
  refine Path.join_toList (by simp [hrest]) ?_
  rintro rfl
  exact absurd hparent (by decide)

/-- Areas with different directories in one parent lie apart. -/
theorem Owns.apart {source' : String} {s s' : Store} {area other : StagingArea}
    (h : Owns bench a source s area) (h' : Owns bench a source' s' other)
    (hne : area.directory ≠ other.directory) : Apart area other := by
  obtain ⟨parent, name, hparent, hname, rfl⟩ := h.exists_drawn
  obtain ⟨parent', name', hparent', hname', rfl⟩ := h'.exists_drawn
  -- both are in the one parent, so only their names can differ
  obtain rfl : parent = parent' := Except.ok.inj (hparent.symm.trans hparent')
  have hnames : name ≠ name' := fun heq => hne (heq ▸ rfl)
  have hpath := fun m m' => Mention.path_ne parent.2 hname' hname (Ne.symm hnames) m m'
  refine ⟨fun heq => hpath .source .source (congrArg String.toList heq),
    fun heq => hpath .source .result (congrArg String.toList heq), ?_, ?_⟩
  · rw [Bool.eq_false_iff, Ne, leadsInto_iff]
    rintro ⟨rest, hrest⟩
    rw [join_stagingName parent.2 hname, join_stagingName parent.2 hname', List.append_assoc,
      List.append_cancel_left_eq] at hrest
    exact hname'.slash_notMem (by rw [hrest]; simp)
  · rw [Bool.eq_false_iff, Ne, leadsInto_iff]
    rintro ⟨rest, hrest⟩
    have hsource := path_eq_markedPath parent.2 hname' .source
    rw [Mention.path, hrest, join_stagingName parent.2 hname, markedPath, List.append_assoc,
      List.append_assoc, List.append_cancel_left_eq] at hsource
    exact hnames (String.toList_injective
      (eq_of_slash hname.slash_notMem hname'.slash_notMem hsource))

/-- **Another call's steps keep what holds of a call**, as long as the two areas lie apart. -/
theorem Step.frame {source' : String} {s s' : Store} {p p' q : Phase}
    (h : Step bench a source (s, p) (s', p')) (hp : Sound bench a source s p)
    (hq : Sound bench a source' s q)
    (hapart : ∀ area other, p.area? = some area → q.area? = some other →
      area.directory ≠ other.directory) : Sound bench a source' s' q := by
  have hseparate : ∀ area other, p.area? = some area → q.area? = some other → Apart area other :=
    fun area other harea hother =>
      (hp.owns area harea).apart (hq.owns other hother) (hapart area other harea hother)
  have hwritten : ∀ other, q.written? = some other → q.area? = some other := by
    intro other hother
    cases q <;> simp_all [Phase.written?, Phase.area?]
  -- removing an area takes nothing away from another one
  have hremove : ∀ area, p.area? = some area →
      Sound bench a source' (s.remove area.directory) q := by
    intro area harea
    refine ⟨fun other hother => ⟨(hq.owns other hother).named, ?_⟩, ?_, hq.course⟩
    · have hout := (hseparate area other harea hother).directory_out
      simp [Store.remove, Ne.symm (hapart area other harea hother), hout,
        (hq.owns other hother).made]
    · intro other hother
      have hout := (hseparate area other harea (hwritten other hother)).source_out
      simp [Store.remove, hout, hq.holds other hother]
  cases h with
  | tooLarge | notMade | notWritten | notStarted | start | finish | conclude => exact hq
  | make =>
      refine ⟨fun other hother => ⟨(hq.owns other hother).named, ?_⟩, hq.holds, hq.course⟩
      simp [Store.make, (hq.owns other hother).made]
  | write =>
      refine ⟨fun other hother => ⟨(hq.owns other hother).named, (hq.owns other hother).made⟩, ?_,
        hq.course⟩
      intro other hother
      have hne := (hseparate _ other rfl (hwritten other hother)).source_ne
      simp [Store.write, hne, hq.holds other hother]
  | feed =>
      refine ⟨fun other hother => ⟨(hq.owns other hother).named, ?_⟩, ?_, hq.course⟩
      · rw [Store.emit_directories]
        exact (hq.owns other hother).made
      · intro other hother
        rw [Store.emit_files (hseparate _ other rfl (hwritten other hother)).result_ne]
        exact hq.holds other hother
  | withdraw | clear => exact hremove _ rfl

/-! ### All calls -/

/-- All calls, and the machine that they share. -/
structure Calls (ι : Type) where
  store : Store
  phase : ι → Phase

section Calls

variable {ι : Type} (bench : Workbench) (a : AssemblerSettings) (sources : ι → String)

/-- A step of one of the calls. -/
inductive Moves [DecidableEq ι] (now : Calls ι) : Calls ι → Prop
  | mk {i : ι} {s : Store} {p : Phase} :
      Step bench a (sources i) (now.store, now.phase i) (s, p) →
      Moves now ⟨s, Function.update now.phase i p⟩

/-- What holds of all calls at every moment. -/
structure Isolated (now : Calls ι) : Prop where
  sound : ∀ i, Sound bench a (sources i) now.store (now.phase i)
  apart : ∀ i j area other, i ≠ j → (now.phase i).area? = some area →
    (now.phase j).area? = some other → area.directory ≠ other.directory

variable {bench a sources}

theorem isolated_of_waiting {start : Calls ι} (h : ∀ i, start.phase i = .waiting) :
    Isolated bench a sources start := by
  refine ⟨fun i => ?_, fun i j area other _ harea => ?_⟩
  · rw [h i]
    exact ⟨by simp [Phase.area?], by simp [Phase.written?], trivial⟩
  · simp [h i, Phase.area?] at harea

variable [DecidableEq ι]

/-- Every step keeps the calls isolated. -/
theorem Isolated.step {now next : Calls ι} (h : Isolated bench a sources now)
    (hmove : Moves bench a sources now next) : Isolated bench a sources next := by
  obtain @⟨i, s, p, hstep⟩ := hmove
  -- the area of the call that moves is new or its own, so it differs from all others
  have hnew : ∀ j area other, j ≠ i → p.area? = some area → (now.phase j).area? = some other →
      area.directory ≠ other.directory := by
    intro j area other hj harea hother
    rcases hstep.area_eq harea with hown | hfree
    · exact h.apart i j area other (Ne.symm hj) hown hother
    · intro heq
      have hmade := ((h.sound j).owns other hother).made
      rw [← heq, hfree] at hmade
      exact Bool.false_ne_true hmade
  constructor
  · intro j
    by_cases hj : j = i
    · subst hj
      simpa using hstep.sound (h.sound j)
    · simpa [Function.update_of_ne hj] using hstep.frame (h.sound i) (h.sound j)
        fun area other => h.apart i j area other (Ne.symm hj)
  · intro j k area other hjk harea hother
    dsimp only at harea hother
    by_cases hj : j = i
    · subst hj
      rw [Function.update_self] at harea
      rw [Function.update_of_ne (Ne.symm hjk)] at hother
      exact hnew k area other (Ne.symm hjk) harea hother
    · rw [Function.update_of_ne hj] at harea
      by_cases hk : k = i
      · subst hk
        rw [Function.update_self] at hother
        exact (hnew j other area hj hother harea).symm
      · rw [Function.update_of_ne hk] at hother
        exact h.apart j k area other hjk harea hother

theorem isolated_of_run {start now : Calls ι} (hstart : ∀ i, start.phase i = .waiting)
    (hrun : Relation.ReflTransGen (Moves bench a sources) start now) :
    Isolated bench a sources now := by
  induction hrun with
  | refl => exact isolated_of_waiting hstart
  | tail _ hmove ih => exact ih.step hmove

end Calls

/-! ### A call alone -/

/-- A way of drawing names suits a call when what it draws is discreet and free. -/
def Suits (bench : Workbench) (a : AssemblerSettings) (source : String) (draw : Store → String)
    (s : Store) : Prop :=
  ∀ parent, bench.parent a.stagingDir = .ok parent →
    Discreet bench a source parent (draw s) ∧ s.directories (Path.join parent (draw s)) = false

/-- The steps of a call that nothing else disturbs. -/
abbrev Steps (bench : Workbench) (a : AssemblerSettings) (source : String) :
    Store × Phase → Store × Phase → Prop := Relation.ReflTransGen (Step bench a source)

theorem Steps.sound {x y : Store × Phase} (h : Steps bench a source x y)
    (hx : Sound bench a source x.1 x.2) : Sound bench a source y.1 y.2 := by
  induction h with
  | refl => exact hx
  | tail _ hstep ih => exact hstep.sound ih

/-- A command that can be started does what the assembler does with the source it finds. -/
theorem run_invocation (draw : Store → String) (area : StagingArea) (s : Store)
    (hstarting : bench.starting a.binary = none) :
    (bench.host draw).run (Assembler.invocation a area) a.timeoutMs.toNat s =
      ((bench.conduct a.timeoutMs.toNat (s.files area.source)).run (Mention.path area),
        s.emit area.result (bench.result (s.files area.source))) := by
  have hsource : Mention.source.argument (Assembler.invocation a area) = area.source :=
    String.toList_injective (Mention.argument_invocation a area .source)
  have hresult : Mention.result.argument (Assembler.invocation a area) = area.result :=
    String.toList_injective (Mention.argument_invocation a area .result)
  have hstart : bench.starting (Assembler.invocation a area).program = none := hstarting
  simp only [Workbench.host, hstart, hsource, hresult, Mention.argument_invocation]

theorem run_notStarted (draw : Store → String) (area : StagingArea) (s : Store) {fault : Fault}
    (hstarting : bench.starting a.binary = some fault) :
    (bench.host draw).run (Assembler.invocation a area) a.timeoutMs.toNat s
      = (.notStarted fault, s) := by
  have hstart : bench.starting (Assembler.invocation a area).program = some fault := hstarting
  simp only [Workbench.host, hstart]

/-- From a staged source on, the rest of an assembly is a run of steps. -/
theorem steps_of_staged (draw : Store → String) (area : StagingArea) (s : Store) :
    Steps bench a source (s, .staged area)
      (((bench.host draw).run (Assembler.invocation a area) a.timeoutMs.toNat s).2.remove
          area.directory,
        .returned (Assembler.conclude a area
          ((bench.host draw).run (Assembler.invocation a area) a.timeoutMs.toNat s).1)) := by
  cases hstarting : bench.starting a.binary with
  | some fault =>
      rw [run_notStarted draw area s hstarting]
      exact ((Relation.ReflTransGen.single (.notStarted hstarting)).tail .conclude).tail .clear
  | none =>
      rw [run_invocation draw area s hstarting]
      exact ((((Relation.ReflTransGen.single (.start hstarting)).tail .feed).tail .finish).tail
        .conclude).tail .clear

/-- **An assembly is a run of steps**, and ends with what it comes to. -/
theorem assemble_steps {draw : Store → String} {s : Store} (h : Suits bench a source draw s) :
    Steps bench a source (s, .waiting)
      ((Assembler.assemble (bench.host draw) a source s).state,
        .returned (Assembler.assemble (bench.host draw) a source s).outcome) := by
  unfold Assembler.assemble
  split
  · rename_i hlarge
    exact .single (.tooLarge hlarge)
  rename_i hfits
  have hfits : source.utf8ByteSize ≤ a.maxSourceBytes.toNat := Nat.not_lt.1 hfits
  cases hparent : bench.parent a.stagingDir with
  | error fault =>
      have hcreate : StagingArea.create (bench.host draw) a.stagingDir source s
          = (.error fault, s) := by
        simp [StagingArea.create, Workbench.host, hparent]
      rw [hcreate]
      exact .single (.notMade hfits hparent)
  | ok parent =>
      obtain ⟨hdiscreet, hfree⟩ := h parent hparent
      have hmake := Relation.ReflTransGen.single (Step.make hfits hparent hdiscreet hfree)
      cases hwriting : bench.writing (Utf8.encode source.toList) with
      | some fault =>
          have hcreate : StagingArea.create (bench.host draw) a.stagingDir source s
              = (.error fault, (s.make (Path.join parent (draw s))).remove
                  (Path.join parent (draw s))) := by
            simp [StagingArea.create, Workbench.host, hparent, hwriting]
          rw [hcreate]
          exact (hmake.tail (.notWritten hwriting)).tail .withdraw
      | none =>
          have hcreate : StagingArea.create (bench.host draw) a.stagingDir source s
              = (.ok ⟨Path.join parent (draw s)⟩, (s.make (Path.join parent (draw s))).write
                  (StagingArea.source ⟨Path.join parent (draw s)⟩)
                  (Utf8.encode source.toList)) := by
            simp [StagingArea.create, Workbench.host, hparent, hwriting]
          rw [hcreate]
          exact (hmake.tail (.write hwriting)).trans (steps_of_staged draw _ _)

/-- What a call comes to alone does not depend on the machine or on the names it draws. -/
theorem assemble_outcome {draw : Store → String} {s : Store} (h : Suits bench a source draw s) :
    (Assembler.assemble (bench.host draw) a source s).outcome = bench.expected a source := by
  have hsound : Sound bench a source s .waiting :=
    ⟨by simp [Phase.area?], by simp [Phase.written?], trivial⟩
  exact (Steps.sound (assemble_steps h) hsound).course

/-- A call that has not ended can go on, if a name is at hand where one is needed. -/
theorem exists_step {s : Store} {p : Phase}
    (hname : ∀ parent, bench.parent a.stagingDir = .ok parent →
      ∃ name, Discreet bench a source parent name ∧ s.directories (Path.join parent name) = false)
    (hp : ∀ outcome, p ≠ .returned outcome) : ∃ next, Step bench a source (s, p) next := by
  cases p with
  | waiting =>
      by_cases hfits : source.utf8ByteSize ≤ a.maxSourceBytes.toNat
      · cases hparent : bench.parent a.stagingDir with
        | error fault => exact ⟨_, .notMade hfits hparent⟩
        | ok parent =>
            obtain ⟨name, hdiscreet, hfree⟩ := hname parent hparent
            exact ⟨_, .make hfits hparent hdiscreet hfree⟩
      · exact ⟨_, .tooLarge (Nat.lt_of_not_le hfits)⟩
  | made area =>
      cases hwriting : bench.writing (Utf8.encode source.toList) with
      | none => exact ⟨_, .write hwriting⟩
      | some fault => exact ⟨_, .notWritten hwriting⟩
  | refused area cause => exact ⟨_, .withdraw⟩
  | staged area =>
      cases hstarting : bench.starting a.binary with
      | none => exact ⟨_, .start hstarting⟩
      | some fault => exact ⟨_, .notStarted hstarting⟩
  | started area => exact ⟨_, .feed⟩
  | fed area found => exact ⟨_, .finish⟩
  | ended area run => exact ⟨_, .conclude⟩
  | concluded area outcome => exact ⟨_, .clear⟩
  | returned outcome => exact absurd rfl (hp outcome)

/-! ### Isolation -/

/-- **Overlapping calls do not disturb one another.**  In whatever order their steps come, the areas
of the calls that have one differ, every source that has been written is still there, a call that
ends comes to what it comes to alone, and one that has not ended can go on and has fewer steps
before it each time. -/
theorem interleaved_calls {ι : Type} [DecidableEq ι] (bench : Workbench) (a : AssemblerSettings)
    (sources : ι → String) {start now : Calls ι} (hstart : ∀ i, start.phase i = .waiting)
    (hrun : Relation.ReflTransGen (Moves bench a sources) start now) :
    (∀ i j area other, i ≠ j → (now.phase i).area? = some area →
      (now.phase j).area? = some other → area.directory ≠ other.directory) ∧
    (∀ i area, (now.phase i).written? = some area →
      now.store.files area.source = some (Utf8.encode (sources i).toList)) ∧
    (∀ i outcome, now.phase i = .returned outcome → ∀ draw s, Suits bench a (sources i) draw s →
      (Assembler.assemble (bench.host draw) a (sources i) s).outcome = outcome) ∧
    (∀ i draw, Suits bench a (sources i) draw now.store → (∀ outcome, now.phase i ≠ .returned outcome) →
      ∃ s p, Step bench a (sources i) (now.store, now.phase i) (s, p) ∧
        Moves bench a sources now ⟨s, Function.update now.phase i p⟩ ∧
        p.rank < (now.phase i).rank) := by
  have hisolated := isolated_of_run hstart hrun
  refine ⟨hisolated.apart, fun i => (hisolated.sound i).holds, ?_, ?_⟩
  · intro i outcome hover draw s hsuits
    have hcourse := (hisolated.sound i).course
    rw [hover] at hcourse
    rw [assemble_outcome hsuits]
    exact hcourse.symm
  · intro i draw hsuits hover
    obtain ⟨⟨s, p⟩, hstep⟩ := exists_step
      (fun parent hparent => ⟨draw now.store, hsuits parent hparent⟩) hover
    exact ⟨s, p, hstep, .mk hstep, hstep.rank_lt⟩

/-! ### Two calls that overlap -/

/-- An assembler that accepts an empty source and finds fault with all others. -/
def gossip : Workbench where
  parent _ := .ok ⟨"/tmp", by decide⟩
  writing _ := none
  starting _ := none
  conduct _ found :=
    .ended (.exited (if found = some [] then 0 else 1))
      ⟨[], [(.source, Utf8.encode ": no such opcode, see ".toList), (.result, [10])]⟩
  result found := found

/-- Settings for it. -/
def gossipSettings : AssemblerSettings := ⟨"as", [], "C", 1000, 65536, none, "input.S"⟩

theorem discreet_gossip {source name : String} (hname : StagingName name)
    (hapart : ¬name.toList <:+: "/tmp".toList)
    (hunsaid : ¬name.toList <:+: "input.S: no such opcode, see input.o\n".toList) :
    Discreet gossip gossipSettings source "/tmp" name := by
  refine ⟨hname, hapart, ?_⟩
  intro status speech hanswer
  obtain ⟨-, rfl⟩ := Conduct.ended.inj hanswer
  have hshown : Speech.shown "input.S"
      ⟨[], [(.source, Utf8.encode ": no such opcode, see ".toList), (.result, [10])]⟩
        = "input.S: no such opcode, see input.o\n".toList := by decide +kernel
  exact hshown ▸ hunsaid

/-- The first of two names. -/
theorem discreet_gossip_zeros (source : String) :
    Discreet gossip gossipSettings source "/tmp" "asm-000000" :=
  discreet_gossip ⟨"000000".toList, by decide, by decide, List.all_eq_true.1 (by decide)⟩
    (by decide +kernel) (by decide +kernel)

/-- The second one. -/
theorem discreet_gossip_ones (source : String) :
    Discreet gossip gossipSettings source "/tmp" "asm-111111" :=
  discreet_gossip ⟨"111111".toList, by decide, by decide, List.all_eq_true.1 (by decide)⟩
    (by decide +kernel) (by decide +kernel)

/-- The areas of the two calls. -/
def gossipArea (name : String) : StagingArea := ⟨Path.join "/tmp" name⟩

theorem step_gossip {source name : String} {s : Store}
    (hfits : source.utf8ByteSize ≤ gossipSettings.maxSourceBytes.toNat)
    (hname : Discreet gossip gossipSettings source "/tmp" name)
    (hfree : s.directories (gossipArea name).directory = false) :
    Step gossip gossipSettings source (s, .waiting)
      (s.make (gossipArea name).directory, .made (gossipArea name)) :=
  @Step.make gossip gossipSettings source s ⟨"/tmp", by decide⟩ name hfits rfl hname hfree

/-- A machine with nothing on it. -/
def bareStore : Store := ⟨fun _ => false, fun _ => none⟩

theorem suits_gossip_zeros (source : String) :
    Suits gossip gossipSettings source (fun _ => "asm-000000") bareStore := by
  intro parent hparent
  obtain rfl := Except.ok.inj hparent
  exact ⟨discreet_gossip_zeros source, rfl⟩

/-- Two calls that have both put their sources in place keep them apart, and when the first one has
returned, the other one's source is still there. -/
theorem interleaved_calls_gossip :
    ∃ (both later : Calls Bool) (outcome : Except AssembleError Outcome),
      (both.phase false).written? = some (gossipArea "asm-000000") ∧
      (both.phase true).written? = some (gossipArea "asm-111111") ∧
      (gossipArea "asm-000000").directory ≠ (gossipArea "asm-111111").directory ∧
      both.store.files (gossipArea "asm-000000").source = some (Utf8.encode "ret".toList) ∧
      both.store.files (gossipArea "asm-111111").source = some (Utf8.encode "nop".toList) ∧
      later.phase false = .returned outcome ∧
      (Assembler.assemble (gossip.host fun _ => "asm-000000") gossipSettings "ret"
        bareStore).outcome = outcome ∧
      (later.phase true).written? = some (gossipArea "asm-111111") ∧
      later.store.files (gossipArea "asm-111111").source = some (Utf8.encode "nop".toList) := by
  have hfree : ((bareStore.make (gossipArea "asm-000000").directory).directories
      (gossipArea "asm-111111").directory) = false := by decide +kernel
  have h₁ := step_gossip (s := bareStore) (by decide +kernel) (discreet_gossip_zeros "ret") rfl
  have h₂ := step_gossip (by decide +kernel) (discreet_gossip_ones "nop") hfree
  have hboth : Relation.ReflTransGen
      (Moves gossip gossipSettings fun i : Bool => if i then "nop" else "ret")
      ⟨bareStore, fun _ => .waiting⟩ _ :=
    (((Relation.ReflTransGen.single (Moves.mk (i := false) h₁)).tail
      (Moves.mk (i := true) h₂)).tail
      (Moves.mk (i := false) (Step.write rfl))).tail
      (Moves.mk (i := true) (Step.write rfl))
  have hlater := ((((hboth.tail (Moves.mk (i := false) (Step.start rfl))).tail
    (Moves.mk (i := false) Step.feed)).tail (Moves.mk (i := false) Step.finish)).tail
    (Moves.mk (i := false) Step.conclude)).tail (Moves.mk (i := false) Step.clear)
  obtain ⟨hapart, hwritten, -⟩ :=
    interleaved_calls gossip gossipSettings _ (fun _ => rfl) hboth
  obtain ⟨-, hkept, hreturned, -⟩ :=
    interleaved_calls gossip gossipSettings _ (fun _ => rfl) hlater
  exact ⟨_, _, _, rfl, rfl, hapart false true _ _ (by decide) rfl rfl, hwritten false _ rfl,
    hwritten true _ rfl, rfl, hreturned false _ rfl _ _ (suits_gossip_zeros "ret"), rfl,
    hkept true _ rfl⟩

end AssemblyGate
