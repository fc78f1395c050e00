/-
**Regular expressions.**

An expression matches a text at a spot in one or more ways, each of which ends at another spot.  The
ways have an order: the first branch comes before the second one, and going on with a repetition
before leaving it.  Of the ways that lead to the same end the first one counts, and of all matches
from a spot the longest one.

Main definitions:

* `AssemblyGate.Regex` — the expressions;
* `AssemblyGate.Regex.ends` — the spots at which matches end, in the order of the ways;
* `AssemblyGate.Regex.longest?` — the farthest of spots;
* `AssemblyGate.Regex.search?` — the first place in a text where an expression matches.
-/
import AssemblyGate.Posix.Pattern.CharSet

set_option autoImplicit false

namespace AssemblyGate

/-- A condition about the characters on both sides of a spot. -/
inductive Anchor
  | lineStart
  | lineEnd
  | textStart
  | textEnd
  | wordStart
  | wordEnd
  | wordEdge
  | noWordEdge
deriving DecidableEq

/-- A regular expression. -/
inductive Regex
  | empty
  | oneOf (set : CharSet)
  | anchor (kind : Anchor)
  | sequence (first second : Regex)
  | either (first second : Regex)
  | repeated (least : Nat) (most : Option Nat) (body : Regex)
  | group (number : Nat) (body : Regex)
  | again (number : Nat)
deriving DecidableEq

namespace Regex

instance : Inhabited Regex := ⟨.empty⟩

/-- One given character. -/
def ofChar (c : Char) : Regex := .oneOf (.single c)

/-- A given text. -/
def ofText (text : List Char) : Regex := text.foldr (fun c body => .sequence (ofChar c) body) .empty

/-- Whether an expression refers to what a group matched. -/
def refersBack : Regex → Bool
  | .sequence a b | .either a b => refersBack a || refersBack b
  | .repeated _ _ a | .group _ a => refersBack a
  | .again _ => true
  | _ => false

/-- The number of groups of an expression. -/
def groupCount : Regex → Nat
  | .sequence a b | .either a b => groupCount a + groupCount b
  | .repeated _ _ a => groupCount a
  | .group _ a => groupCount a + 1
  | _ => 0

/-- The highest number of a group that an expression refers to. -/
def highestReference : Regex → Nat
  | .sequence a b | .either a b => max (highestReference a) (highestReference b)
  | .repeated _ _ a | .group _ a => highestReference a
  | .again n => n
  | _ => 0

/-! ### Spots -/

/-- A spot in a text: how many characters stand before it, the last of them, the text behind it, and
the texts that groups matched on the way, the latest first. -/
structure Spot where
  index : Nat
  before : Option Char
  rest : List Char
  groups : List (Nat × List Char)

/-- How texts are matched: whether capitals and small letters count as the same, and whether a text
consists of lines that begin and end by themselves. -/
structure Manner where
  anyCase : Bool
  byLines : Bool
deriving DecidableEq

/-- Letters differ from capitals, and the text is one line. -/
def Manner.plain : Manner := ⟨false, false⟩

/-- Go past a character. -/
def Spot.pass (p : Spot) (c : Char) (rest : List Char) : Spot :=
  { p with index := p.index + 1, before := some c, rest }

/-- Go past a given text. -/
def Spot.skip (manner : Manner) (p : Spot) : List Char → Option Spot
  | [] => some p
  | c :: text =>
      match p.rest with
      | d :: rest =>
          if c = d || manner.anyCase && smallLetter c = smallLetter d then
            skip manner (p.pass d rest) text
          else none
      | [] => none

/-- Whether a character is part of a word. -/
def isWordChar : Option Char → Bool
  | some c => CharSet.inRanges CharSet.wordRanges c
  | none => false

/-- Whether a condition holds at a spot. -/
def holdsAt (manner : Manner) (a : Anchor) (p : Spot) : Bool :=
  let word := (isWordChar p.before, isWordChar p.rest.head?)
  match a with
  | .lineStart => p.before.isNone || manner.byLines && p.before = some '\n'
  | .lineEnd => p.rest.isEmpty || manner.byLines && p.rest.head? = some '\n'
  | .textStart => p.before.isNone
  | .textEnd => p.rest.isEmpty
  | .wordStart => word = (false, true)
  | .wordEnd => word = (true, false)
  | .wordEdge => word.1 != word.2
  | .noWordEdge => word.1 == word.2

/-! ### Matching -/

/-- Spots that were met: their indices as the bits of a number, or the spots themselves where groups
count. -/
structure Met where
  indices : Nat
  spots : List (Nat × List (Nat × List Char))

/-- No spot was met. -/
def Met.none : Met := ⟨0, []⟩

/-- Whether a spot was met. -/
def Met.has (m : Met) (byGroups : Bool) (p : Spot) : Bool :=
  if byGroups then m.spots.contains (p.index, p.groups) else m.indices.testBit p.index

/-- Remember a spot. -/
def Met.add (m : Met) (byGroups : Bool) (p : Spot) : Met :=
  if byGroups then { m with spots := (p.index, p.groups) :: m.spots }
  else { m with indices := m.indices ||| (1 <<< p.index) }

/-- Spots, each but once, the first time it comes. -/
def distinct (byGroups : Bool) (spots : List Spot) : List Spot :=
  match spots with
  | [] | [_] => spots
  | _ =>
      (spots.foldl
        (fun (state : Met × List Spot) p =>
          if state.1.has byGroups p then state else (state.1.add byGroups p, p :: state.2))
        (Met.none, [])).2.reverse

/-- The spots that characters of a set lead to one by one, the farthest one first, as long as there
may be more. -/
def runs (manner : Manner) (set : CharSet) (done : List Spot) : Option Nat → Spot → List Char → List Spot
  | some 0, _, _ => done
  | _, _, [] => done
  | most, p, c :: rest =>
      if set.contains manner.anyCase c then
        let next := p.pass c rest
        runs manner set (next :: done) (most.map (· - 1)) next rest
      else done
termination_by _ _ rest => rest.length

/-- The spots that steps lead to from others, up to a number of steps: those that more steps lead to
come before the spot itself.  The spots met on the way are remembered, each with the number of steps
that were left. -/
def spread (step : Spot → List Spot) (byGroups : Bool) : Nat → Option Nat → List Spot →
    Met × List Spot → Met × List Spot
  | 0, _, _, state => state
  | room + 1, most, spots, state =>
      spots.foldl
        (fun (state : Met × List Spot) p =>
          if state.1.has byGroups p then state
          else
            let state := (state.1.add byGroups p, state.2)
            let (met, found) :=
              if most = some 0 then state
              else
                spread step byGroups room (most.map (· - 1))
                  ((step p).filter fun q => q.index ≠ p.index) state
            (met, p :: found))
        state

/-- Take a step a number of times. -/
def steps (step : Spot → List Spot) (byGroups : Bool) : Nat → List Spot → List Spot
  | 0, spots => spots
  | count + 1, spots => steps step byGroups count (distinct byGroups (spots.flatMap step))

/-- The spots at which the matches of an expression from a spot end, in the order of the ways that
lead there. -/
def ends (manner : Manner) (byGroups : Bool) : Regex → Spot → List Spot
  | .empty, p => [p]
  | .oneOf set, p =>
      match p.rest with
      | c :: rest => if set.contains manner.anyCase c then [p.pass c rest] else []
      | [] => []
  | .anchor kind, p => if holdsAt manner kind p then [p] else []
  | .sequence first second, p =>
      distinct byGroups ((ends manner byGroups first p).flatMap (ends manner byGroups second))
  | .either first second, p =>
      distinct byGroups (ends manner byGroups first p ++ ends manner byGroups second p)
  | .repeated least most (.oneOf set), p =>
      let farther := runs manner set [p] most p p.rest
      farther.take (farther.length - least)
  | .repeated least most body, p =>
      let step := fun q => ends manner byGroups body q
      let begun := steps step byGroups least [p]
      (spread step byGroups (p.rest.length + 2) (most.map (· - least)) begun (Met.none,
        [])).2.reverse
  | .group number body, p =>
      (ends manner byGroups body p).map fun q =>
        { q with groups := (number, p.rest.take (q.index - p.index)) :: q.groups }
  | .again number, p =>
      match p.groups.find? (fun g => g.1 == number) with
      | some (_, text) => (p.skip manner text).toList
      | none => []

/-- The farthest of spots, the first one of those that are equally far. -/
def longest? (spots : List Spot) : Option Spot :=
  match spots with
  | [] => none
  | p :: rest => some (rest.foldl (fun best q => if best.index < q.index then q else best) p)

/-! ### Searching -/

/-- A match in a text: what stands before it, the match, what follows, and the groups. -/
structure Found where
  before : List Char
  matched : List Char
  after : List Char
  groups : List (Nat × List Char)

/-- What a group matched. -/
def Found.group (f : Found) (number : Nat) : List Char :=
  if number = 0 then f.matched
  else ((f.groups.find? fun g => g.1 == number).map (·.2)).getD []

/-- The first match from a spot on, after the characters that were passed already, last one
first. -/
def searchFrom (manner : Manner) (regex : Regex) (byGroups : Bool) (passed : List Char) (p : Spot) :
    List Char → Option Found
  | [] => (longest? (ends manner byGroups regex p)).map fun q => ⟨passed.reverse, [], [], q.groups⟩
  | c :: rest =>
      match longest? (ends manner byGroups regex p) with
      | some q => some ⟨passed.reverse, p.rest.take (q.index - p.index), q.rest, q.groups⟩
      | none => searchFrom manner regex byGroups (c :: passed) (p.pass c rest) rest

/-- The first match in a text that follows a given character. -/
def searchAfter? (manner : Manner) (regex : Regex) (before : Option Char) (text : List Char) :
    Option Found :=
  searchFrom manner regex regex.refersBack [] ⟨0, before, text, []⟩ text

/-- The first match in a text. -/
def search? (manner : Manner) (regex : Regex) (text : List Char) : Option Found :=
  searchAfter? manner regex none text

/-- Whether an expression matches somewhere in a text. -/
def occurs (manner : Manner) (regex : Regex) (text : List Char) : Bool :=
  (search? manner regex text).isSome

/-- Cut a text at its matches: the text before each match, the match with its groups, and the text
after the last one.  An empty match right behind another one does not count. -/
def cutFrom (manner : Manner) (regex : Regex) :
    Nat → Option Char → Bool → List Char → List Char → List Found × List Char
  | 0, _, _, held, text => ([], held.reverse ++ text)
  | room + 1, before, behind, held, text =>
      match searchAfter? manner regex before text with
      | none => ([], held.reverse ++ text)
      | some f =>
          let lastOf (chars : List Char) (otherwise : Option Char) : Option Char :=
            chars.getLast?.or otherwise
          if f.matched.isEmpty then
            if behind && f.before.isEmpty then
              match text with
              | [] => ([], held.reverse)
              | c :: rest => cutFrom manner regex room (some c) false (c :: held) rest
            else
              let this := { f with before := held.reverse ++ f.before }
              match f.after with
              | [] => ([this], [])
              | c :: rest =>
                  let (more, last) := cutFrom manner regex room (some c) false [c] rest
                  (this :: more, last)
          else
            let this := { f with before := held.reverse ++ f.before }
            let (more, last) :=
              cutFrom manner regex room (lastOf f.matched before) true [] f.after
            (this :: more, last)

/-- Cut a text at its matches. -/
def cut (manner : Manner) (regex : Regex) (text : List Char) : List Found × List Char :=
  cutFrom manner regex (2 * text.length + 2) none false [] text

end Regex

end AssemblyGate
