/-
**Redirections.**

The descriptors of a command lead to files that are opened for it, to where other descriptors lead,
or to texts.  They are taken back when the command has ended.

Main definitions:

* `AssemblyGate.Shell.Target` — where a redirection leads;
* `AssemblyGate.Shell.openPath` — what is opened at a path;
* `AssemblyGate.Shell.withTargets` — an action with redirections that are taken back after it.
-/
import AssemblyGate.Posix.Shell.Expansion

set_option autoImplicit false

namespace AssemblyGate.Shell

/-- Where a redirection leads: to what is opened at a path, to where another descriptor leads, to
nothing, or to a text. -/
inductive Target
  | opened (direction : Direction) (path : ByteText)
  | copied (source : Nat)
  | closed
  | text (content : ByteText)

/-- Where a redirection leads, once its word is expanded. -/
def resolve (listen : Listener) (r : Redirection) : Action (Nat × Target) := do
  let .mk descriptor direction word := r
  match direction with
  | .document number =>
      let parts := (find? number (← get).documents).getD []
      let pieces ← expand listen maxParts false parts
      return (descriptor, .text (joinedText (← get).between pieces))
  | _ =>
      let path ← expandText listen word
      match direction with
      | .copyInput | .copyOutput =>
          match path with
          | ['-'] => return (descriptor, .closed)
          | [c] =>
              if Numeral.isDigit c then return (descriptor, .copied (c.toNat - '0'.toNat))
              else fail (chars "Syntax error: Bad fd number")
          | _ => fail (chars "Syntax error: Bad fd number")
      | _ => return (descriptor, .opened direction path)

/-- What is said about a file that could not be opened. -/
def openError (isMade : Bool) (e : Errno) : ByteText :=
  if e = Errno.noEntry ∨ e = Errno.notDirectory then
    chars (if isMade then "Directory nonexistent" else "No such file")
  else chars (Errno.message e)

/-- Open anew what a descriptor leads to: a file from its beginning, or else the same once more. -/
def openAgain (descriptor : Nat) (access : Access) (truncates : Bool) : Action (Option Nat) := do
  let s ← get
  match s.opened? descriptor with
  | none => return none
  | some (_, .file number _ _ before) =>
      if truncates then
        modifyWorld fun w => { w with machine := w.machine.changeContent number fun _ => [] }
      return some (← newDescription (.file number 0 access before))
  | some (n, _) => return some n

/-- Open what is at a path. -/
def openPath (direction : Direction) (path : ByteText) : Action Nat := do
  let s ← get
  let m := s.world.machine
  let isMade := direction ≠ .input
  let refuse (e : Errno) : Action Nat :=
    fail (chars (if isMade then "cannot create " else "cannot open ") ++ path ++ chars ": "
      ++ openError isMade e)
  let again (descriptor : Nat) (access : Access) (truncates : Bool) : Action Nat := do
    match ← openAgain descriptor access truncates with
    | some n => return n
    | none => refuse Errno.noEntry
  if direction = .input then
    match m.stat path with
    | .error e => refuse e
    | .ok (.file info content) =>
        newDescription (.file info.number 0 ⟨true, false, false⟩ content)
    | .ok (.directory ..) => newDescription .directory
    | .ok (.device kind) => newDescription (.device kind)
    | .ok (.descriptor n) => again n ⟨true, false, false⟩ false
    | .ok _ => newDescription (.text [] false 0)
  else
    let truncates := direction = .output || direction = .overwrite
    let access : Access := ⟨direction = .both, true, direction = .append⟩
    if direction = .output && s.hasOption 'C' && m.isFile path then refuse Errno.inUse
    else
      match m.openFile path ⟨truncates, false, 0o666 &&& (0o777 - s.mask)⟩ with
      | .error e => refuse e
      | .ok (opened, m) =>
          modifyWorld fun w => { w with machine := m }
          match opened with
          | .file number => newDescription (.file number 0 access [])
          | .device kind => newDescription (.device kind)
          | .descriptor n => again n access truncates

/-- Let a descriptor lead to a target. -/
def apply (descriptor : Nat) (target : Target) : Action Unit := do
  match target with
  | .opened direction path =>
      let n ← openPath direction path
      modify fun s => s.connect descriptor (some n)
  | .closed => modify fun s => s.connect descriptor none
  | .text content =>
      let n ← newDescription (.text content false 0)
      modify fun s => s.connect descriptor (some n)
  | .copied source =>
      match find? source (← get).descriptors with
      | some n => modify fun s => s.connect descriptor (some n)
      | none =>
          fail (Numeral.decimal source ++ chars ": " ++ chars (Errno.message Errno.badDescriptor))

/-- Do something and, however it ends, something else after it. -/
def guarded {α : Type} (after : Action Unit) (action : Action α) : Action α := do
  let result ← tryCatch action fun e => do
    after
    throw e
  after
  return result

/-- Let descriptors lead where they led before, and forget what was opened since a number and is not
used any more. -/
def takeBack (descriptors : List Nat) (before : List (Nat × Nat)) (since : Nat) : Action Unit :=
  modify fun s =>
    let restored := descriptors.foldl (fun all d => put d (find? d before) all) s.descriptors
    let isUsed (n : Nat) : Bool := n < since || restored.any fun d => d.2 = n
    { s with
      descriptors := restored
      world := { s.world with
        descriptions := s.world.descriptions.filter fun d => isUsed d.1 } }

/-- Do something with targets in place, or something else if they cannot be reached.  They are taken
back after it. -/
def withTargets (targets : List (Nat × Target)) (otherwise action : Action Unit) : Action Unit := do
  if targets.isEmpty then action
  else
    let s ← get
    let restore := takeBack (targets.map (·.1)) s.descriptors s.world.next
    let attempt : Action Bool := do
      targets.forM fun (descriptor, target) => apply descriptor target
      return true
    let reached ← tryCatch attempt fun e => do
      if e = .error then return false else throw e
    if reached then guarded restore action
    else
      restore
      otherwise

end AssemblyGate.Shell
