/-
**Socket addresses and their written form.**

A socket address is an IPv4 or IPv6 address with a port; an IPv6 address may carry the number of a
scope.  An IPv6 address is written with its longest run of two or more zero groups left out, the
first of equally long runs, and an address of the block that maps IPv4 ends as an IPv4 address does.

Main definitions:

* `AssemblyGate.Ipv4`, `AssemblyGate.Ipv6`, `AssemblyGate.SocketAddress` — the addresses;
* `AssemblyGate.SocketAddress.render` — the written form.
-/

set_option autoImplicit false

namespace AssemblyGate

/-- An IPv4 address. -/
structure Ipv4 where
  a : UInt8
  b : UInt8
  c : UInt8
  d : UInt8
deriving DecidableEq

/-- An IPv6 address: eight groups of sixteen bits. -/
structure Ipv6 where
  groups : List UInt16
  length_groups : groups.length = 8
deriving DecidableEq

/-- An address with a port. -/
inductive SocketAddress
  | v4 (ip : Ipv4) (port : UInt16)
  | v6 (ip : Ipv6) (scope : UInt32) (port : UInt16)
deriving DecidableEq

/-! ### IPv4 -/

namespace Ipv4

/-- The four numbers with points between them. -/
def render (ip : Ipv4) : List Char :=
  Nat.toDigits 10 ip.a.toNat ++ '.' :: Nat.toDigits 10 ip.b.toNat ++ '.' ::
    Nat.toDigits 10 ip.c.toNat ++ '.' :: Nat.toDigits 10 ip.d.toNat

/-- The two groups that an IPv4 address fills at the end of an IPv6 address. -/
def groups (ip : Ipv4) : List UInt16 :=
  [ip.a.toUInt16 * 256 + ip.b.toUInt16, ip.c.toUInt16 * 256 + ip.d.toUInt16]

end Ipv4

/-! ### IPv6 -/

namespace Ipv6

/-- The IPv4 address of an IPv6 address in the mapped block. -/
def mapped? (ip : Ipv6) : Option Ipv4 :=
  match ip.groups with
  | [0, 0, 0, 0, 0, 0xFFFF, g, h] =>
      some ⟨(g / 256).toUInt8, g.toUInt8, (h / 256).toUInt8, h.toUInt8⟩
  | _ => none

/-- A run of zero groups: where it begins and how long it is. -/
structure Run where
  start : Nat
  size : Nat
deriving DecidableEq

/-- The walk behind `zeroRun`: the index of the next group, the run that ends just before it, and
the longest run so far. -/
def zeroRunFrom (index : Nat) (current longest : Run) : List UInt16 → Run
  | [] => longest
  | g :: rest =>
      if g = 0 then
        let current := if current.size = 0 then ⟨index, 1⟩ else ⟨current.start, current.size + 1⟩
        zeroRunFrom (index + 1) current (if longest.size < current.size then current
          else longest) rest
      else zeroRunFrom (index + 1) ⟨0, 0⟩ longest rest

/-- The first of the longest runs of zero groups. -/
def zeroRun (groups : List UInt16) : Run := zeroRunFrom 0 ⟨0, 0⟩ ⟨0, 0⟩ groups

/-- Groups in hexadecimal with colons between them. -/
def renderGroups (groups : List UInt16) : List Char :=
  [':'].intercalate (groups.map fun g => Nat.toDigits 16 g.toNat)

/-- The written form. -/
def render (ip : Ipv6) : List Char :=
  match ip.mapped? with
  | some tail => "::ffff:".toList ++ tail.render
  | none =>
      let run := zeroRun ip.groups
      if 1 < run.size then
        renderGroups (ip.groups.take run.start) ++ "::".toList
          ++ renderGroups (ip.groups.drop (run.start + run.size))
      else renderGroups ip.groups

end Ipv6

/-! ### Socket addresses -/

namespace SocketAddress

/-- The port of a socket address. -/
def port : SocketAddress → UInt16
  | .v4 _ port => port
  | .v6 _ _ port => port

/-- The written form of the part before the port. -/
def renderHost : SocketAddress → List Char
  | .v4 ip _ => ip.render
  | .v6 ip scope _ =>
      '[' :: ip.render ++ (if scope = 0 then [] else '%' :: Nat.toDigits 10 scope.toNat) ++ [']']

/-- The written form. -/
def renderChars (address : SocketAddress) : List Char :=
  address.renderHost ++ ':' :: Nat.toDigits 10 address.port.toNat

/-- The written form as a text. -/
def render (address : SocketAddress) : String := String.ofList address.renderChars

end SocketAddress

end AssemblyGate
