/-
**Writing what is logged.**

A journal sends each line to one of its sinks, with a line feed after it.  When a line cannot be
written to a file it is lost and nothing else happens; when it cannot be written to a standard
stream, whoever is logging breaks off.

Main definitions:

* `AssemblyGate.Recorder` — a way to write to sinks;
* `AssemblyGate.Journal.deliver`, `AssemblyGate.Journal.deliverAll` — the writing of events;
* `AssemblyGate.Journal.textFor` — what the events of a run bring to one sink.

Main results:

* `AssemblyGate.Journal.textFor_append` — the text of two runs is the text of the one and then of
  the other.
-/
import AssemblyGate.Host.Fault
import AssemblyGate.Journal.Event
import AssemblyGate.Text.Utf8

set_option autoImplicit false

namespace AssemblyGate

/-- A way to write to sinks, which may fail. -/
structure Recorder (σ : Type) where
  write : Sink → Bytes → σ → Except Fault σ

/-- Whether writers break off when a line cannot be written to a sink. -/
def Sink.isVital : Sink → Bool
  | .stdout | .stderr => true
  | .file _ => false

namespace Journal

/-- The bytes of a line with its end. -/
def lineBytes (line : String) : Bytes := Utf8.encode (line.toList ++ ['\n'])

variable {σ : Type}

/-- Write an event, if it is admitted.  An error is the condition in which the writer breaks off. -/
def deliver (r : Recorder σ) (j : Journal) (s : σ) (e : Event) : Except σ σ :=
  match j.route e with
  | none => .ok s
  | some (sink, line) =>
      match r.write sink (lineBytes line) s with
      | .ok s => .ok s
      | .error _ => if sink.isVital then .error s else .ok s

/-- Write events in order. -/
def deliverAll (r : Recorder σ) (j : Journal) (events : List Event) (s : σ) : Except σ σ :=
  events.foldlM (deliver r j) s

/-- What events bring to a sink. -/
def textFor (j : Journal) (sink : Sink) (events : List Event) : Bytes :=
  events.flatMap fun e =>
    match j.route e with
    | some (target, line) => if target = sink then lineBytes line else []
    | none => []

theorem textFor_append (j : Journal) (sink : Sink) (first second : List Event) :
    j.textFor sink (first ++ second) = j.textFor sink first ++ j.textFor sink second :=
  List.flatMap_append

end Journal

end AssemblyGate
