/-
**What a log holds.**

The settings name an outlet for each of the two kinds of lines, and a threshold.  When a run of
events has been logged, the outlets hold what they held before, and then, one after the other and in
the order of the calls, the lines of the events that were sent there and reach the threshold.  Where
both kinds of lines are sent to one file, by whatever paths, it holds all of them in that order.

Main definitions:

* `AssemblyGate.Event.reaches`, `AssemblyGate.Event.isAlarm` — whether an event is logged at a
  threshold, and whether it is a warning or an error;
* `AssemblyGate.Journal.selected`, `AssemblyGate.Journal.written` — the events that are logged, and
  their lines;
* `AssemblyGate.Machine.Leads` — the settings name an outlet.

Main results:

* `AssemblyGate.Journal.textFor_of_ne`, `AssemblyGate.Journal.textFor_of_eq` — how two sinks share
  the events, and what a single one gets;
* `AssemblyGate.Journal.selected_of_le` — what a higher threshold leaves out;
* `AssemblyGate.Journal.output_exact` — **the outlets of a journal hold what they held and the
  selected lines**.
-/
import AssemblyGate.Proofs.Journal.Outlets

set_option autoImplicit false

namespace AssemblyGate

/-! ### What is logged -/

namespace Event

/-- Whether an event is logged at a threshold. -/
def reaches (threshold : Level) : Event → Bool
  | .note level _ => decide (threshold ≤ level)
  | .access _ => true

/-- Whether an event is a warning or an error. -/
def isAlarm : Event → Bool
  | .note .warn _ | .note .error _ => true
  | .note .debug _ | .note .info _ | .access _ => false

end Event

namespace Journal

/-- The events of a sort that are logged at a threshold. -/
def selected (threshold : Level) (sort : Event → Bool) (events : List Event) : List Event :=
  events.filter fun e => e.reaches threshold && sort e

/-- The lines of events, each with a line feed after it. -/
def written (events : List Event) : Bytes := events.flatMap fun e => lineBytes e.line

/-- What a higher threshold selects is what a lower one does, without the messages below it. -/
theorem selected_of_le {low high : Level} (h : low ≤ high) (sort : Event → Bool)
    (events : List Event) :
    selected high sort events = (selected low sort events).filter (Event.reaches high) := by
  have hreaches : ∀ e : Event, e.reaches high = true → e.reaches low = true := by
    intro e he
    cases e with
    | access line => rfl
    | note level message =>
        exact decide_eq_true (Level.le_trans h (of_decide_eq_true he))
  rw [selected, selected, List.filter_filter]
  refine List.filter_congr fun e _ => ?_
  cases hhigh : e.reaches high with
  | false => rfl
  | true => rw [hreaches e hhigh, Bool.true_and, Bool.true_and]

theorem textFor_eq_written (j : Journal) (sink : Sink) (events : List Event) :
    j.textFor sink events =
      written (selected j.threshold (fun e => decide (j.sink e = sink)) events) := by
  induction events with
  | nil => rfl
  | cons e events ih =>
      have hadmits : j.admits e = e.reaches j.threshold := by cases e <;> rfl
      have hone : j.textFor sink [e] =
          if e.reaches j.threshold && decide (j.sink e = sink) then lineBytes e.line else [] := by
        cases hreaches : e.reaches j.threshold <;>
          simp [textFor, route, hadmits, hreaches]
      have hcons : j.textFor sink (e :: events) = j.textFor sink [e] ++ j.textFor sink events :=
        textFor_append j sink [e] events
      unfold selected at ih ⊢
      rw [hcons, hone, ih, List.filter_cons]
      split <;> simp [written]

/-- Warnings and errors go to one sink, all else to the other. -/
theorem sink_eq (j : Journal) (e : Event) : j.sink e = if e.isAlarm then j.errors else j.access := by
  cases e with
  | access line => rfl
  | note level message => cases level <;> rfl

/-- Two sinks share the events out between them. -/
theorem textFor_of_ne {j : Journal} (h : j.access ≠ j.errors) (events : List Event) :
    j.textFor j.access events = written (selected j.threshold (fun e => !e.isAlarm) events) ∧
      j.textFor j.errors events = written (selected j.threshold Event.isAlarm events) := by
  rw [textFor_eq_written, textFor_eq_written]
  constructor <;> congr 2 <;> funext e <;> rw [sink_eq] <;> cases e.isAlarm <;> simp [h, h.symm]

/-- One sink gets all of them. -/
theorem textFor_of_eq {j : Journal} (h : j.access = j.errors) (events : List Event) :
    j.textFor j.access events = written (selected j.threshold (fun _ => true) events) := by
  rw [textFor_eq_written]
  congr 2
  funext e
  simp [sink_eq, h]

end Journal

/-! ### The outlets that settings name -/

namespace Machine

/-- The settings name an outlet: the stream that is used where no file is named, or the place of
the regular file that a path leads to. -/
inductive Leads (m : Machine) (stream : Outlet) : Option String → Outlet → Prop
  | stream : Leads m stream none stream
  | file {path : String} {place : FileTree.Place} :
      m.resolve true (ByteText.ofString path) = .ok place →
      (m.numberAt? (.file place.names)).isSome = true →
      Leads m stream (some path) (.file place.names)

/-- A sink that serves what the settings name comes to the outlet that they name. -/
theorem feeds_of_directs {m : Machine} (hsound : m.Sound) {standard sink : Sink}
    {stream o : Outlet} {path : Option String} (hstream : m.Feeds standard stream)
    (h : m.Directs standard path sink) (hleads : m.Leads stream path o) : m.Feeds sink o := by
  cases hleads with
  | stream => exact h ▸ hstream
  | file hplace hnumber =>
      obtain ⟨place, node, hserves⟩ := h
      obtain rfl := Except.ok.inj (hserves.resolves.symm.trans hplace)
      obtain ⟨number, hnumber⟩ := Option.isSome_iff_exists.1 hnumber
      obtain ⟨⟨info, content⟩, hfile, rfl⟩ := Option.map_eq_some_iff.1 hnumber
      have hget := fileAt?_eq_some_iff.1 hfile
      have hnode := Option.some.inj (hserves.found.symm.trans hget)
      rw [hserves.writes info content hnode]
      -- no file bears the number that stands for the device without room
      exact ⟨hnumber, Nat.ne_of_gt (hsound.files _ _ _ hget)⟩

/-- The outlets that settings name are not the same stream. -/
theorem Leads.file_of_eq {m : Machine} {path path' : Option String} {o o' : Outlet}
    (h : m.Leads .stdout path o) (h' : m.Leads .stderr path' o') (heq : o = o') :
    ∃ names, o = .file names := by
  cases h with
  | file => exact ⟨_, rfl⟩
  | stream => cases h' <;> cases heq

/-- Two options with one path name one file. -/
theorem Leads.sameFile {m : Machine} {stream stream' : Outlet} {path : String} {o o' : Outlet}
    (h : m.Leads stream (some path) o) (h' : m.Leads stream' (some path) o') :
    m.SameFile o o' := by
  cases h with
  | file hplace hnumber =>
      cases h' with
      | file hplace' =>
          obtain rfl := Except.ok.inj (hplace.symm.trans hplace')
          obtain ⟨number, hnumber⟩ := Option.isSome_iff_exists.1 hnumber
          exact ⟨number, hnumber, hnumber⟩

/-- What is read from the path of an outlet: what it holds in the end, and what it held. -/
theorem Leads.reads {m opened after : Machine} {standard sink : Sink} {stream o : Outlet}
    {path : String} (h : opened.Leads stream (some path) o)
    (hdirects : opened.Directs standard (some path) sink) (hextends : m.Extends opened)
    (hgrows : opened.Grows after) (hfeeds : after.Feeds sink o) :
    after.read (ByteText.ofString path) = .ok (after.contents o) ∧
      ∀ content, m.read (ByteText.ofString path) = .ok content → m.contents o = content := by
  cases h with
  | @file _ place hplace hnumber =>
      obtain ⟨number, hnumber⟩ := Option.isSome_iff_exists.1 hnumber
      obtain ⟨_, node, hserves⟩ := hdirects
      obtain rfl := Except.ok.inj (hplace.symm.trans hserves.resolves)
      refine ⟨?_, fun content => contents_of_read hextends hplace hnumber⟩
      -- what is written changes no path
      have hplace' : after.resolve true (ByteText.ofString path) = .ok place := by
        rw [Machine.resolve] at hplace ⊢
        rw [hgrows.current]
        exact FileTree.resolve_of_grows hgrows.root hplace
          (FileTree.noNewLink_of_grows hgrows.root hserves.found)
      cases sink with
      | stdout | stderr => cases hfeeds
      | file found => exact read_of_resolve hplace' hserves.asDirectory hfeeds.1

end Machine

namespace Journal

open Machine (logFiles recorder)

/-- **The outlets of a journal hold what they held and the selected lines.**  Where a journal is
opened and the log files that the settings name are regular ones, every event of a run is delivered.
In the end the two outlets hold what they held before the journal was opened, and then the lines of
the events that reach the threshold, each with a line feed after it, in order: warnings and errors
on the one side and all others on the other, or all of them where both outlets are one file, as they
are if both options have one path.  That is what is read from the paths of the files.  What a higher
threshold selects is what a lower one does without the messages below it. -/
theorem output_exact {m opened : Machine} {logging : LoggingSettings} {j : Journal}
    {access errors : Outlet} (hsound : m.Sound)
    (hopen : openOnce logFiles none logging m = (.ok j, opened))
    (haccess : opened.Leads .stdout logging.accessLogFile access)
    (herrors : opened.Leads .stderr logging.errorLogFile errors) (events : List Event) :
    ∃ after, deliverAll recorder j events opened = .ok after ∧
      (¬opened.SameFile access errors →
        after.contents access = m.contents access ++
            written (selected (Level.ofName logging.level) (fun e => !e.isAlarm) events) ∧
          after.contents errors = m.contents errors ++
            written (selected (Level.ofName logging.level) Event.isAlarm events)) ∧
      (opened.SameFile access errors → ∀ o ∈ [access, errors],
        after.contents o = m.contents o ++
          written (selected (Level.ofName logging.level) (fun _ => true) events)) ∧
      (logging.accessLogFile ≠ none → logging.accessLogFile = logging.errorLogFile →
        opened.SameFile access errors) ∧
      (∀ path o, (logging.accessLogFile = some path ∧ o = access ∨
          logging.errorLogFile = some path ∧ o = errors) →
        after.read (ByteText.ofString path) = .ok (after.contents o) ∧
          ∀ content, m.read (ByteText.ofString path) = .ok content → m.contents o = content) ∧
      ∀ low high sort, low ≤ high →
        selected high sort events = (selected low sort events).filter (Event.reaches high) := by
  obtain ⟨hextends, hthreshold, hdirects, hdirects'⟩ := Machine.directs_of_openOnce hsound hopen
  have hsound' := hsound.extends hextends
  have hstdout : opened.Feeds .stdout .stdout := rfl
  have hstderr : opened.Feeds .stderr .stderr := rfl
  have hfeeds := Machine.feeds_of_directs hsound' hstdout hdirects haccess
  have hfeeds' := Machine.feeds_of_directs hsound' hstderr hdirects' herrors
  have hsinks := Machine.sink_eq_iff hfeeds hfeeds' (haccess.file_of_eq herrors)
  obtain ⟨after, hafter, hgrows, hcontents⟩ :=
    Machine.contents_of_deliverAll hfeeds hfeeds' events
  obtain ⟨hlast, hadded⟩ := hcontents _ _ hfeeds
  obtain ⟨hlast', hadded'⟩ := hcontents _ _ hfeeds'
  rw [hextends.contents] at hadded hadded'
  refine ⟨after, hafter, fun hapart => ?_, fun hsame => ?_, fun hnamed heq => ?_, ?_,
    fun low high sort h => selected_of_le h sort events⟩
  · obtain ⟨htext, htext'⟩ := textFor_of_ne (fun h => hapart (hsinks.1 h)) events
    rw [← hthreshold, ← htext, ← htext']
    exact ⟨hadded, hadded'⟩
  · have hone := hsinks.2 hsame
    rw [← hone] at hadded'
    rw [← hthreshold, ← textFor_of_eq hone]
    simp [hadded, hadded']
  · obtain ⟨path, hpath⟩ := Option.ne_none_iff_exists'.1 hnamed
    rw [← heq, hpath] at herrors
    rw [hpath] at haccess
    exact haccess.sameFile herrors
  · rintro path o (⟨hpath, rfl⟩ | ⟨hpath, rfl⟩)
    · rw [hpath] at haccess hdirects
      exact haccess.reads hdirects hextends hgrows hlast
    · rw [hpath] at herrors hdirects'
      exact herrors.reads hdirects' hextends hgrows hlast'

/-! ### A file that gets all lines -/

/-- A machine with a log file that holds a line. -/
def keptLog : Machine where
  root := .directory 0o755
    [("service.log".toList, .file ⟨16, 0o644, 0⟩ (Utf8.encode "old\n".toList))]
  current := []
  environment := []
  nextFile := 17
  changes := 0
  stagings := 0
  clock := 0
  stdout := []
  stderr := []

/-- Settings that send all lines to it. -/
def sharedLogging : LoggingSettings where
  level := "debug"
  accessLog := true
  accessLogFormat := "combined"
  accessLogFile := some "service.log"
  errorLogFile := some "service.log"

theorem sound_keptLog : keptLog.Sound where
  current := ⟨_, rfl, rfl⟩
  files := by
    intro names info content hfile
    cases names with
    | nil => cases hfile
    | cons name rest =>
        by_cases hname : "service.log".toList = name
        · subst hname
          cases rest <;> cases hfile
          decide
        · have hchild : keptLog.root.child? name = none := by
            simpa [keptLog, Node.child?, Node.entries] using hname
          rw [Node.get?, hchild] at hfile
          cases hfile
  nextFile := by decide

theorem resolve_keptLog :
    keptLog.resolve true (ByteText.ofString "service.log") =
      .ok ⟨[], some "service.log".toList, false⟩ := by
  have hpath : ByteText.ofString "service.log" = "service.log".toList := by decide +kernel
  have hnames : FileTree.namesIn "service.log".toList = ["service.log".toList] := by
    decide +kernel
  rw [hpath]
  change FileTree.walk keptLog.root true FileTree.maxLinks [] false
    (FileTree.namesIn "service.log".toList) = _
  rw [hnames]
  exact FileTree.walk_of_not_link (by decide) (by decide) (by decide) (by rintro target ⟨⟩)

theorem openLog_keptLog : logFiles.openLog "service.log" keptLog = (.ok (.file 16), keptLog) := by
  have hparent : Path.parent? "service.log" = some "" := by decide +kernel
  have hensure : logFiles.ensure "" keptLog = (.ok (), keptLog) := rfl
  have hnul : Machine.hasNul "service.log" = false := by decide +kernel
  have hopen :
      keptLog.openFile (ByteText.ofString "service.log") .atEnd = .ok (.file 16, keptLog) := by
    have hfollow : (!Machine.OpenWish.atEnd.isExclusive) = true := rfl
    rw [Machine.openFile, hfollow, resolve_keptLog]
    rfl
  simp only [LogFiles.openLog, hparent, hensure]
  simp only [logFiles, Machine.withPath, hnul, hopen]
  rfl

theorem openOnce_keptLog :
    openOnce logFiles none sharedLogging keptLog =
      (.ok ⟨.debug, .file 16, .file 16⟩, keptLog) := by
  have hlevel : Level.ofName "debug" = .debug := by decide +kernel
  simp only [openOnce, openFrom, sharedLogging, LogFiles.openOr, openLog_keptLog, hlevel]

/-- Both options name one file, which held a line before. -/
theorem output_exact_shared :
    openOnce logFiles none sharedLogging keptLog = (.ok ⟨.debug, .file 16, .file 16⟩, keptLog) ∧
    ∃ after, deliverAll recorder ⟨.debug, .file 16, .file 16⟩
        [.note .error "e", .note .debug "d", .access "a", .note .warn "w"] keptLog = .ok after ∧
      after.read (ByteText.ofString "service.log") =
        .ok (Utf8.encode "old\n[ERROR] e\n[DEBUG] d\na\n[WARN] w\n".toList) := by
  have hleads : ∀ stream, keptLog.Leads stream (some "service.log") (.file ["service.log".toList]) :=
    fun stream => .file resolve_keptLog rfl
  obtain ⟨after, hafter, -, hshared, hsame, hread, -⟩ :=
    output_exact sound_keptLog openOnce_keptLog (hleads .stdout) (hleads .stderr)
      [.note .error "e", .note .debug "d", .access "a", .note .warn "w"]
  refine ⟨openOnce_keptLog, after, hafter, ?_⟩
  rw [(hread _ _ (.inl ⟨rfl, rfl⟩)).1, hshared (hsame (by simp [sharedLogging]) rfl) _ (by simp)]
  rfl

end Journal

end AssemblyGate
