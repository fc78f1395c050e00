/-
**Lines that cannot be written.**

A line for a file that cannot be written is lost, and whoever logs it goes on.  A line for a standard
stream that cannot be written makes them break off.  So only such lines matter: where both sinks are
files, or where the streams can be written to, everything is delivered.

Main definitions:

* `AssemblyGate.Journal.Fails` — a line for a standard stream cannot be written;
* `AssemblyGate.Recorder.KeepsStreams` — the standard streams can be written to;
* `AssemblyGate.LogFiles.OpensFiles` — log files are files.

Main results:

* `AssemblyGate.Journal.deliver_eq_error_iff` — **whoever logs an event breaks off exactly where its
  line fails**;
* `AssemblyGate.Journal.not_fails_of_files`, `AssemblyGate.Journal.not_fails_of_keepsStreams` — where
  no line does;
* `AssemblyGate.Journal.files_of_openFrom` — settings that name two log files leave no stream.
-/
import AssemblyGate.Journal.Opening

set_option autoImplicit false

namespace AssemblyGate

variable {τ : Type}

/-- The standard streams can be written to. -/
def Recorder.KeepsStreams (r : Recorder τ) : Prop :=
  ∀ (sink : Sink) (bytes : Bytes) (s : τ), sink.isVital = true → ∃ s', r.write sink bytes s = .ok s'

/-- What is opened as a log file is no standard stream. -/
def LogFiles.OpensFiles (files : LogFiles τ) : Prop :=
  ∀ path s sink s', files.openAtEnd path s = (.ok sink, s') → sink.isVital = false

namespace Journal

/-- The line of an event is for a standard stream and cannot be written to it. -/
def Fails (r : Recorder τ) (j : Journal) (s : τ) (e : Event) : Prop :=
  ∃ sink line fault, j.route e = some (sink, line) ∧ sink.isVital = true ∧
    r.write sink (lineBytes line) s = .error fault

/-- Whoever logs an event breaks off exactly where its line fails, and nothing is changed then. -/
theorem deliver_eq_error_iff {r : Recorder τ} {j : Journal} {s s' : τ} {e : Event} :
    j.deliver r s e = .error s' ↔ s' = s ∧ j.Fails r s e := by
  unfold deliver
  constructor
  · intro h
    split at h
    · cases h
    rename_i sink line hroute
    split at h
    · cases h
    rename_i fault hwrite
    split at h
    · rename_i hvital
      cases h
      exact ⟨rfl, sink, line, fault, hroute, hvital, hwrite⟩
    · cases h
  · rintro ⟨rfl, sink, line, fault, hroute, hvital, hwrite⟩
    simp only [hroute, hwrite, hvital, if_true]

/-- A line that does not fail is dealt with. -/
theorem exists_deliver_of_not_fails {r : Recorder τ} {j : Journal} {s : τ} {e : Event}
    (h : ¬j.Fails r s e) : ∃ s', j.deliver r s e = .ok s' := by
  cases hdeliver : j.deliver r s e with
  | ok s' => exact ⟨s', rfl⟩
  | error s' => exact absurd (deliver_eq_error_iff.1 hdeliver).2 h

theorem not_fails_of_keepsStreams {r : Recorder τ} (h : r.KeepsStreams) (j : Journal) (s : τ)
    (e : Event) : ¬j.Fails r s e := by
  rintro ⟨sink, line, fault, -, hvital, hwrite⟩
  obtain ⟨s', hkept⟩ := h sink (lineBytes line) s hvital
  cases hwrite.symm.trans hkept

/-- Where both sinks are files no line fails, whether or not anything can be written to them. -/
theorem not_fails_of_files {j : Journal} (haccess : j.access.isVital = false)
    (herrors : j.errors.isVital = false) (r : Recorder τ) (s : τ) (e : Event) :
    ¬j.Fails r s e := by
  rintro ⟨sink, line, fault, hroute, hvital, -⟩
  obtain ⟨-, hsink⟩ := Option.ite_none_right_eq_some.1 hroute
  obtain rfl : j.sink e = sink := congrArg Prod.fst (Option.some.inj hsink)
  have hfile : (j.sink e).isVital = false := by
    cases e with
    | access line => exact haccess
    | note level message =>
        cases level with
        | debug | info => exact haccess
        | warn | error => exact herrors
  simp [hfile] at hvital

theorem not_isVital_of_openOr {files : LogFiles τ} (hfiles : files.OpensFiles)
    {standard sink : Sink} {path : Option String} {s s' : τ}
    (h : files.openOr standard path s = (.ok sink, s')) (hnamed : path ≠ none) :
    sink.isVital = false := by
  cases path with
  | none => exact absurd rfl hnamed
  | some path =>
      rw [LogFiles.openOr, LogFiles.openLog] at h
      split at h
      · exact hfiles _ _ _ _ h
      · split at h
        · cases h
        · exact hfiles _ _ _ _ h

/-- Where the settings name two log files, both sinks are files. -/
theorem files_of_openFrom {files : LogFiles τ} (hfiles : files.OpensFiles)
    {logging : LoggingSettings} {s s' : τ} {j : Journal}
    (h : openFrom files logging s = (.ok j, s')) (haccess : logging.accessLogFile ≠ none)
    (herrors : logging.errorLogFile ≠ none) :
    j.access.isVital = false ∧ j.errors.isVital = false := by
  unfold openFrom at h
  split at h
  · cases h
  rename_i access between hopened
  split at h
  · cases h
  rename_i errors last hopened'
  cases h
  exact ⟨not_isVital_of_openOr hfiles hopened haccess,
    not_isVital_of_openOr hfiles hopened' herrors⟩

end Journal

end AssemblyGate
