/-
**Addresses are read again as they were written.**

What is written for an address is one of the texts that denote it.  For an IPv4 address and for a
group this is so because numbers are written without needless zeros and are not too long.  An IPv6
address is written as eight groups, or with a double colon in place of a run of zeros that was found
among them.  So the service that is told to listen at a host and a port listens where they say, and
nowhere else; and the host that it prints means the same place again.

Main definitions:

* `AssemblyGate.Ipv6.Run.LiesIn` — a run of zeros that lies where it says;
* `AssemblyGate.Settings.withHost` — the same settings with another host.

Main results:

* `AssemblyGate.Ipv6.zeroRun_liesIn` — the run that is found is there;
* `AssemblyGate.Ipv4.denotes_render`, `AssemblyGate.Ipv6.denotes_render`,
  `AssemblyGate.SocketAddress.names_renderHost` — what is written denotes the address;
* `AssemblyGate.Settings.host_names_address` — **the service listens where its host and its port
  say**, and prints a host that says the same.
-/
import AssemblyGate.Proofs.Net.AddressText
import AssemblyGate.Settings.Basic

set_option autoImplicit false

namespace AssemblyGate

open Numeral (decimal)

namespace Ipv4

theorem isPart_toDigits (n : UInt8) : IsPart (Nat.toDigits 10 n.toNat) n where
  digits := Numeral.digits_decimal n.toNat
  noZero := Numeral.decimal_of_head
  value := Numeral.ofDigits_decimal n.toNat

/-- What is written for an address denotes it. -/
theorem denotes_render (ip : Ipv4) : Denotes ip.render ip :=
  .mk (isPart_toDigits ip.a) (isPart_toDigits ip.b) (isPart_toDigits ip.c) (isPart_toDigits ip.d)

end Ipv4

namespace Ipv6

/-! ### Groups -/

theorem hexDigit_of_digitChar {n : Nat} (h : n < 16) :
    IsHex (Nat.digitChar n) ∧ Numeral.hexDigit? (Nat.digitChar n) = some n := by
  have hall : ∀ n < 16, isHexDigit (Nat.digitChar n) = true ∧
      Numeral.hexDigit? (Nat.digitChar n) = some n := by decide
  exact ⟨isHexDigit_iff.1 (hall n h).1, (hall n h).2⟩

/-- What is written for a number in base sixteen denotes it. -/
theorem ofHexDigits_toDigits (n : Nat) :
    (∀ c ∈ Nat.toDigits 16 n, IsHex c) ∧ ofHexDigits (Nat.toDigits 16 n) = n := by
  induction n using Nat.strongRecOn with
  | ind n ih =>
      rcases Nat.lt_or_ge n 16 with hsmall | hlarge
      · rw [Nat.toDigits_of_lt_base hsmall]
        obtain ⟨hhex, hvalue⟩ := hexDigit_of_digitChar hsmall
        simp [ofHexDigits, hhex, hvalue]
      · obtain ⟨hfront, hnumber⟩ := ih (n / 16) (by omega)
        obtain ⟨hhex, hvalue⟩ := hexDigit_of_digitChar (Nat.mod_lt n (by decide : 0 < 16))
        rw [Nat.toDigits_of_base_le (by decide) hlarge]
        refine ⟨fun c hc => ?_, ?_⟩
        · rcases List.mem_append.1 hc with hc | hc
          · exact hfront c hc
          · rwa [List.mem_singleton.1 hc]
        · rw [ofHexDigits_concat, hnumber, hvalue, Option.getD_some]
          omega

theorem isGroup_toDigits (g : UInt16) : IsGroup (Nat.toDigits 16 g.toNat) g where
  ne_nil := Nat.toDigits_ne_nil
  length_le := (Nat.length_toDigits_le_iff (by decide) (by decide)).2 g.toNat_lt
  hex := (ofHexDigits_toDigits g.toNat).1
  value := (ofHexDigits_toDigits g.toNat).2

/-- What is written for groups is a series of them. -/
theorem series_renderGroups (g : UInt16) (gs : List UInt16) :
    Series false (renderGroups (g :: gs)) (g :: gs) := by
  induction gs generalizing g with
  | nil =>
      have hone : renderGroups [g] = Nat.toDigits 16 g.toNat := by simp [renderGroups]
      rw [hone]
      exact .one (isGroup_toDigits g)
  | cons h gs ih =>
      have hcons : renderGroups (g :: h :: gs) =
          Nat.toDigits 16 g.toNat ++ ':' :: renderGroups (h :: gs) := by
        simp [renderGroups, List.intercalate_cons_cons]
      rw [hcons]
      exact .cons (isGroup_toDigits g) (ih h)

theorem half_renderGroups (gs : List UInt16) : Half false (renderGroups gs) gs := by
  cases gs with
  | nil => exact .none
  | cons g gs => exact .some (series_renderGroups g gs)

/-! ### Runs of zeros -/

/-- A run of zeros lies in groups where it says. -/
def Run.LiesIn (run : Run) (groups : List UInt16) : Prop :=
  ∃ before after, groups = before ++ List.replicate run.size 0 ++ after ∧ before.length = run.start

/-- A run of zeros that is not empty lies at the end of groups. -/
def Run.Ends (run : Run) (groups : List UInt16) : Prop :=
  run.size = 0 ∨
    ∃ before, groups = before ++ List.replicate run.size 0 ∧ before.length = run.start

theorem Run.LiesIn.append {run : Run} {groups : List UInt16} (h : run.LiesIn groups)
    (more : List UInt16) : run.LiesIn (groups ++ more) := by
  obtain ⟨before, after, rfl, hstart⟩ := h
  exact ⟨before, after ++ more, by simp, hstart⟩

/-- Whatever the walk has found lies in the groups that it has passed. -/
theorem zeroRunFrom_liesIn {passed rest : List UInt16} {current longest : Run}
    (hcurrent : current.Ends passed) (hlongest : longest.LiesIn passed) :
    (zeroRunFrom passed.length current longest rest).LiesIn (passed ++ rest) := by
  induction rest generalizing passed current longest with
  | nil =>
      rw [List.append_nil]
      exact hlongest
  | cons g rest ih =>
      have hlength : passed.length + 1 = (passed ++ [g]).length := by simp
      have hassoc : passed ++ g :: rest = (passed ++ [g]) ++ rest := by simp
      unfold zeroRunFrom
      rw [hlength, hassoc]
      split
      · rename_i hzero
        subst hzero
        -- the run that ends here begins here, or is the one before with a zero more
        obtain ⟨grown, hgrown, hends⟩ : ∃ grown : Run,
            (if current.size = 0 then ⟨passed.length, 1⟩
              else ⟨current.start, current.size + 1⟩) = grown ∧
              ∃ before, passed ++ [0] = before ++ List.replicate grown.size 0 ∧
                before.length = grown.start := by
          refine ⟨_, rfl, ?_⟩
          split
          · exact ⟨passed, rfl, rfl⟩
          · rename_i hne
            obtain ⟨before, rfl, hstart⟩ := hcurrent.resolve_left hne
            exact ⟨before, by rw [List.replicate_succ', List.append_assoc], hstart⟩
        dsimp only
        rw [hgrown]
        refine ih (.inr hends) ?_
        split
        · obtain ⟨before, hgroups, hstart⟩ := hends
          exact ⟨before, [], by rw [hgroups, List.append_nil], hstart⟩
        · exact hlongest.append [0]
      · exact ih (.inl rfl) (hlongest.append [g])

/-- The run of zeros that is found is there. -/
theorem zeroRun_liesIn (groups : List UInt16) : (zeroRun groups).LiesIn groups :=
  @zeroRunFrom_liesIn [] groups ⟨0, 0⟩ ⟨0, 0⟩ (.inl rfl) ⟨[], [], rfl, rfl⟩

/-! ### Whole addresses -/

/-- A group is made of its two bytes. -/
theorem group_of_bytes (g : UInt16) :
    (g / 256).toUInt8.toUInt16 * 256 + g.toUInt8.toUInt16 = g := by
  have hlt := g.toNat_lt
  refine UInt16.toNat_inj.1 ?_
  simp only [UInt16.toNat_add, UInt16.toNat_mul, UInt8.toNat_toUInt16, UInt16.toNat_toUInt8,
    UInt16.toNat_div, UInt16.reduceToNat]
  omega

theorem groups_of_mapped? {ip : Ipv6} {tail : Ipv4} (h : ip.mapped? = some tail) :
    ip.groups = List.replicate 5 0 ++ 0xFFFF :: tail.groups := by
  unfold mapped? at h
  split at h
  · rename_i g k hgroups
    obtain rfl := Option.some.inj h
    rw [hgroups, Ipv4.groups, group_of_bytes, group_of_bytes]
    rfl
  · cases h

/-- What is written for an address denotes it. -/
theorem denotes_render (ip : Ipv6) : Denotes ip.render ip := by
  unfold render
  split
  · rename_i tail hmapped
    have hfront : IsGroup "ffff".toList 0xFFFF := isGroup_toDigits 0xFFFF
    exact .shortened .none (.some (.cons hfront (.ipv4 tail.denotes_render)))
      (by simp [Ipv4.groups])
      (groups_of_mapped? hmapped)
  · obtain ⟨before, after, hgroups, hstart⟩ := zeroRun_liesIn ip.groups
    have hlength : before.length + (zeroRun ip.groups).size + after.length = 8 := by
      have hlength := ip.length_groups
      rw [hgroups] at hlength
      simpa [Nat.add_assoc] using hlength
    dsimp only
    split
    · rename_i hrun
      have hbefore : ip.groups.take (zeroRun ip.groups).start = before := by
        refine (congrArg (List.take _) hgroups).trans ?_
        rw [List.append_assoc]
        exact List.take_left' hstart
      have hafter : ip.groups.drop ((zeroRun ip.groups).start + (zeroRun ip.groups).size) =
          after := by
        refine (congrArg (List.drop _) hgroups).trans (List.drop_left' ?_)
        rw [List.length_append, List.length_replicate, hstart]
      have hsize : 8 - before.length - after.length = (zeroRun ip.groups).size := by omega
      have htext : renderGroups before ++ "::".toList ++ renderGroups after =
          renderGroups before ++ ':' :: ':' :: renderGroups after := by simp
      rw [hbefore, hafter, htext]
      refine .shortened (half_renderGroups before) (half_renderGroups after) (by omega) ?_
      rw [hsize]
      exact hgroups
    · obtain ⟨g, gs, hcons⟩ := List.exists_cons_of_ne_nil ip.ne_nil
      refine .full (b := false) ?_
      rw [hcons]
      exact series_renderGroups g gs

end Ipv6

namespace SocketAddress

/-- The host that is printed names the address. -/
theorem names_renderHost (a : SocketAddress) : Names a.renderHost a.port a := by
  cases a with
  | v4 ip port => exact .v4 ip.denotes_render
  | v6 ip scope port =>
      by_cases hscope : scope = 0
      · have hhost : renderHost (.v6 ip scope port) = '[' :: ip.render ++ [']'] := by
          simp [renderHost, hscope]
        rw [hhost, hscope]
        exact .v6 ip.denotes_render
      · have hhost : renderHost (.v6 ip scope port) =
            '[' :: ip.render ++ '%' :: decimal scope.toNat ++ [']'] := by
          simp [renderHost, hscope, decimal]
        rw [hhost]
        exact .v6Scoped ip.denotes_render (Numeral.digits_decimal _) (Numeral.ofDigits_decimal _)

end SocketAddress

namespace Settings

/-- The same settings with another host. -/
def withHost (s : Settings) (host : String) : Settings :=
  { s with server := { s.server with host } }

/-- **The service listens where its host and its port say.**  It finds an address exactly if its
host is an IPv4 address, or an IPv6 address in brackets with or without a scope, and then the
address that this text denotes, at the port of the settings.  The address is printed as a host with
this port behind it, and with this host in place of its own the service finds the same address
again. -/
theorem host_names_address (s : Settings) :
    (∀ a, s.socketAddress? = some a ↔
      SocketAddress.Names s.server.host.toList s.server.port a) ∧
    ∀ a, s.socketAddress? = some a →
      a.port = s.server.port ∧
      ∃ host : String, a.render.toList = host.toList ++ ':' :: decimal s.server.port.toNat ∧
        (s.withHost host).socketAddress? = some a := by
  have hnames : ∀ (s : Settings) a, s.socketAddress? = some a ↔
      SocketAddress.Names s.server.host.toList s.server.port a :=
    fun s a => SocketAddress.parse?_glued_iff
  refine ⟨hnames s, fun a ha => ?_⟩
  have hport := ((hnames s a).1 ha).port_eq
  refine ⟨hport, String.ofList a.renderHost, ?_, (hnames _ a).2 ?_⟩
  · rw [SocketAddress.render, String.toList_ofList, String.toList_ofList,
      SocketAddress.renderChars, hport]
    rfl
  · have hwritten := a.names_renderHost
    rw [hport] at hwritten
    rwa [withHost, String.toList_ofList]

/-- A scope is printed without its zeros, and the longer run of zeros is left out. -/
example : (SocketAddress.parse? "[0:0:1:0:0:0:0:9%07]:80".toList).map SocketAddress.renderHost =
    some "[0:0:1::9%7]".toList := by decide +kernel

end Settings

end AssemblyGate
