/-
**Reading socket addresses.**

An IPv4 address is four decimal numbers up to 255 without leading zeros.  An IPv6 address stands
between brackets: groups of one to four hexadecimal digits, at most one double colon for one zero
group or more, an IPv4 address in place of the last two groups, and a decimal scope after a percent
sign.  The port follows a colon, and nothing follows the port.

Main definitions:

* `AssemblyGate.Ipv4.read?`, `AssemblyGate.Ipv6.read?` — an address at the front of a text;
* `AssemblyGate.SocketAddress.parse?` — the address that a whole text denotes.
-/
import AssemblyGate.Net.Address
import AssemblyGate.Text.Numeral

set_option autoImplicit false

namespace AssemblyGate

/-- What follows a given character at the front of a text. -/
def after? (c : Char) : List Char → Option (List Char)
  | [] => none
  | x :: rest => if x = c then some rest else none

/-- A decimal number of at most `limit` at the front of a text, leading zeros allowed. -/
def decimal? (limit : Nat) (input : List Char) : Option (Nat × List Char) :=
  let digits := input.takeWhile Numeral.isDigit
  let n := Numeral.ofDigits digits
  if digits.isEmpty || limit < n then none else some (n, input.dropWhile Numeral.isDigit)

namespace Ipv4

/-- One of the four numbers: one to three digits, no leading zero, at most 255. -/
def part? (input : List Char) : Option (UInt8 × List Char) :=
  let digits := input.takeWhile Numeral.isDigit
  let n := Numeral.ofDigits digits
  if digits.isEmpty || 3 < digits.length || (1 < digits.length && digits.head? = some '0') || 255 < n
  then none
  else some (UInt8.ofNat n, input.dropWhile Numeral.isDigit)

/-- One of the numbers after the first, with the point before it. -/
def nextPart? (input : List Char) : Option (UInt8 × List Char) := (after? '.' input).bind part?

/-- An IPv4 address at the front of a text. -/
def read? (input : List Char) : Option (Ipv4 × List Char) :=
  match part? input with
  | none => none
  | some (a, rest) =>
      match nextPart? rest with
      | none => none
      | some (b, rest) =>
          match nextPart? rest with
          | none => none
          | some (c, rest) =>
              match nextPart? rest with
              | none => none
              | some (d, rest) => some (⟨a, b, c, d⟩, rest)

end Ipv4

namespace Ipv6

/-- Whether a character is a hexadecimal digit. -/
def isHexDigit (c : Char) : Bool := (Numeral.hexDigit? c).isSome

/-- One group: one to four hexadecimal digits. -/
def group? (input : List Char) : Option (UInt16 × List Char) :=
  let digits := input.takeWhile isHexDigit
  if digits.isEmpty || 4 < digits.length then none
  else
    let n := digits.foldl (fun n c => n * 16 + (Numeral.hexDigit? c).getD 0) 0
    some (UInt16.ofNat n, input.dropWhile isHexDigit)

/-- The groups at the front of a text, whether the last two of them were written as an IPv4 address,
and what follows. -/
structure Groups where
  groups : List UInt16
  endsInIpv4 : Bool
  rest : List Char

/-- Read up to `room` groups with colons between them.  An IPv4 address needs room for two groups
and ends the reading; so does anything that is no group, the colon before it being left unread. -/
def readGroups : (room : Nat) → (first : Bool) → List Char → Groups
  | 0, _, input => ⟨[], false, input⟩
  | room + 1, first, input =>
      match (if first then some input else after? ':' input) with
      | none => ⟨[], false, input⟩
      | some start =>
          match (if room = 0 then none else Ipv4.read? start) with
          | some (tail, rest) => ⟨tail.groups, true, rest⟩
          | none =>
              match group? start with
              | none => ⟨[], false, input⟩
              | some (g, rest) =>
                  let more := readGroups room false rest
                  ⟨g :: more.groups, more.endsInIpv4, more.rest⟩

/-- An IPv6 address from eight groups. -/
def ofGroups? (groups : List UInt16) : Option Ipv6 :=
  if h : groups.length = 8 then some ⟨groups, h⟩ else none

/-- An IPv6 address at the front of a text. -/
def read? (input : List Char) : Option (Ipv6 × List Char) :=
  let front := readGroups 8 true input
  if front.groups.length = 8 then (ofGroups? front.groups).map fun ip => (ip, front.rest)
  else if front.endsInIpv4 then none
  else
    match (after? ':' front.rest).bind (after? ':') with
    | none => none
    | some rest =>
        let back := readGroups (7 - front.groups.length) true rest
        let zeros := List.replicate (8 - front.groups.length - back.groups.length) 0
        (ofGroups? (front.groups ++ zeros ++ back.groups)).map fun ip => (ip, back.rest)

end Ipv6

namespace SocketAddress

/-- The scope of an IPv6 address, zero where none is written, and what follows. -/
def readScope (input : List Char) : Nat × List Char :=
  match (after? '%' input).bind (decimal? (twoTo 32 - 1)) with
  | some found => found
  | none => (0, input)

/-- The port at the end of a text. -/
def port? (input : List Char) : Option UInt16 :=
  match (after? ':' input).bind (decimal? (twoTo 16 - 1)) with
  | some (n, []) => some (UInt16.ofNat n)
  | _ => none

/-- An IPv4 socket address. -/
def parseV4? (input : List Char) : Option SocketAddress :=
  match Ipv4.read? input with
  | none => none
  | some (ip, rest) => (port? rest).map (.v4 ip)

/-- An IPv6 socket address. -/
def parseV6? (input : List Char) : Option SocketAddress :=
  match (after? '[' input).bind Ipv6.read? with
  | none => none
  | some (ip, rest) =>
      let (scope, rest) := readScope rest
      match after? ']' rest with
      | none => none
      | some rest => (port? rest).map (.v6 ip (UInt32.ofNat scope))

/-- The socket address that a text denotes. -/
def parse? (input : List Char) : Option SocketAddress :=
  match parseV4? input with
  | some address => some address
  | none => parseV6? input

end SocketAddress

end AssemblyGate
