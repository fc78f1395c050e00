/-
**Comparing sorted lines.**

Two sorted texts are gone through side by side.  The lesser line is taken from its text; lines that
are equal are taken from both.  Lines that turn out not to be sorted are told about, once for each
text.

Main definitions:

* `AssemblyGate.Tool.MergeSide.advance` — one text and the check of its order;
* `AssemblyGate.Tool.merge` — the lines of both texts;
* `AssemblyGate.Tool.comm` — the tool.
-/
import AssemblyGate.Posix.Tool.Basic

set_option autoImplicit false

namespace AssemblyGate.Tool

/-- One of two texts: the lines that are left, the line that was taken last, and whether it was told
that the lines are not sorted. -/
structure MergeSide where
  lines : List ByteText
  last : Option ByteText
  isTold : Bool

/-- Take a line.  With its successor, or else its predecessor, it may show that the lines are not
sorted. -/
def MergeSide.advance (isChecked : Bool) (s : MergeSide) : MergeSide × Bool :=
  match s.lines with
  | [] => (s, false)
  | line :: rest =>
      let pair := match rest with
        | next :: _ => some (line, next)
        | [] => s.last.map fun before => (before, line)
      let isWrong := isChecked && !s.isTold && pair.any fun p => p.2 < p.1
      (⟨rest, some line, s.isTold || isWrong⟩, isWrong)

/-- How the order of lines is checked: as soon as the texts differ, always, or never. -/
inductive OrderCheck
  | usual
  | always
  | never
deriving DecidableEq

/-- What is known while two texts are merged: both sides, whether they differ, what was said, last
piece first, how many lines there were of each kind, and whether the work was given up. -/
structure MergeWork where
  first : MergeSide
  second : MergeSide
  differs : Bool
  said : List Remark
  counts : List Nat
  isStopped : Bool

/-- Take the next line of two texts, given how a line of a kind is written and how disorder in a
text is told. -/
def MergeWork.step (check : OrderCheck) (written : Nat → ByteText → ByteText)
    (disorder : Nat → Remark) (w : MergeWork) : MergeWork :=
  let kind : Nat := match w.first.lines, w.second.lines with
    | a :: _, b :: _ => if a = b then 3 else if a < b then 1 else 2
    | _ :: _, [] => 1
    | [], _ => 2
  let line := (if kind = 2 then w.second else w.first).lines.headD []
  let differs := w.differs || kind ≠ 3
  let isChecked := check = .always || check = .usual && differs
  let (first, isFirstWrong) := if kind = 2 then (w.first, false) else w.first.advance isChecked
  let stops := isFirstWrong && check = .always
  let (second, isSecondWrong) := if kind = 1 || stops then (w.second, false)
    else w.second.advance isChecked
  let told := (if isFirstWrong then [disorder 1] else [])
    ++ (if isSecondWrong then [disorder 2] else [])
  { first, second, differs
    said := told.reverse ++ ⟨false, written kind line⟩ :: w.said
    counts := w.counts.modify (kind - 1) (· + 1)
    isStopped := check = .always && (isFirstWrong || isSecondWrong) }

/-- Take at most so many lines of two texts. -/
def merge (check : OrderCheck) (written : Nat → ByteText → ByteText) (disorder : Nat → Remark) :
    Nat → MergeWork → MergeWork
  | 0, w => w
  | room + 1, w =>
      if w.isStopped || w.first.lines.isEmpty && w.second.lines.isEmpty then w
      else merge check written disorder room (w.step check written disorder)

/-- Say which lines two sorted texts have by themselves and in common. -/
def comm : Tool := fun t m =>
  let form : OptionForm :=
    ⟨"123zcnto:", [("check-order", 'c'), ("nocheck-order", 'n'), ("output-delimiter", 'o'),
      ("total", 't'), ("zero-terminated", 'z')], true⟩
  let isKnown (argument : ByteText) : Bool := match argument with
    | '-' :: c :: letters => c = '-' || (c :: letters).all fun c => "123z".toList.contains c
    | _ => true
  let wrong := (t.arguments.takeWhile (· ≠ ['-', '-'])).find? fun a => !isKnown a
  match wrong with
  | some argument =>
      let c := ((argument.drop 1).find? fun c => !"123z".toList.contains c).getD '-'
      .failed m (t.misuse (chars "invalid option -- '" ++ [c, '\x27'])) 1
  | none =>
      t.withOptions form 1 m fun o =>
        match o.operands with
        | [one, two] =>
            match (t.source m one).text, (t.source m two).text with
            | .ok a, .ok b =>
                let between := match o.value? 'o' with
                  | some text => if text.isEmpty then ['\x00'] else text
                  | none => ['\t']
                let ending := if o.has 'z' then '\x00' else '\n'
                let isShown (n : Nat) : Bool := !o.has (Char.ofNat (n + 48))
                let written (kind : Nat) (line : ByteText) : ByteText :=
                  if !isShown kind then []
                  else
                    (if 1 < kind && isShown 1 then between else [])
                      ++ (if 2 < kind && isShown 2 then between else []) ++ line ++ [ending]
                let check : OrderCheck := match o.lastOf? ['c', 'n'] with
                  | some 'c' => .always
                  | some _ => .never
                  | none => .usual
                let disorder (n : Nat) : Remark :=
                  t.complain (chars "file " ++ Numeral.decimal n ++ chars " is not in sorted order")
                let side (text : ByteText) : MergeSide :=
                  let ended := if text.getLast? = some ending then text.dropLast else text
                  ⟨if text.isEmpty then [] else ByteText.split ending ended, none, false⟩
                let before : MergeWork := ⟨side a, side b, false, [], [0, 0, 0], false⟩
                let room := before.first.lines.length + before.second.lines.length
                let w := merge check written disorder room before
                let isTold := w.first.isTold || w.second.isTold
                let total : List Remark := if o.has 't' && !w.isStopped then
                    [⟨false, joinWith between (w.counts.map Numeral.decimal ++ [chars "total"])
                      ++ [ending]⟩]
                  else []
                let last := if isTold && !w.isStopped then
                    [t.complain (chars "input is not in sorted order")]
                  else []
                (Effect.ended m (w.said.reverse ++ total ++ last) (if isTold then 1
                  else 0)).reading m
                  o.operands
            | .error e, _ => .failed m (t.complainAbout one e) 1
            | _, .error e => .failed m (t.complainAbout two e) 1
        | [] => t.missing m 1
        | [one] => .failed m (t.misuse (chars "missing operand after " ++ inPlainQuotes one)) 1
        | _ :: _ :: third :: _ => t.extra m third 1

end AssemblyGate.Tool
