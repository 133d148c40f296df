import SqliteServer.Cidr
import Mathlib.Data.Set.Basic

/-! A parsed network is determined by the addresses it contains. -/

namespace SqliteServer

/-- The addresses that a network contains. -/
def Cidr.members (net : Cidr) : Set IpAddr := {ip | net.contains ip = .ok true}

/-- The prefix fits the family of the network, whose bits beyond it are zero. -/
structure Cidr.Canonical (net : Cidr) : Prop where
  fits : net.prefixLen.toNat ≤ net.network.width
  cleared : ∀ k, net.prefixLen.toNat ≤ k → bit net.network.octets k = false

-----------------------------------------------------------------------------------------
-- Bits of addresses
-----------------------------------------------------------------------------------------

/-- Addresses of one family with the same bits are equal. -/
theorem IpAddr.ext_bits {a b : IpAddr} (family : a.isIpv4 = b.isIpv4)
    (same : ∀ k, bit a.octets k = bit b.octets k)
    : a = b := by
  have length : a.octets.length = b.octets.length := by
    cases a <;> cases b <;> simp_all [isIpv4, octets]
  have octets : a.octets = b.octets := by
    have whole :=
      (take_eq_iff a.octets.length (le_refl _) length.le).mpr (fun k _ => same k)
    rwa [List.take_length, length, List.take_length] at whole
  cases a with
  | v4 first =>
      cases b with
      | v4 second => rw [Vector.toList_inj.mp octets]
      | v6 second => cases family
  | v6 first =>
      cases b with
      | v4 second => cases family
      | v6 second => rw [Vector.toList_inj.mp octets]

/-- The byte whose bit `k` alone is set. -/
def bitMask (k : Nat) : UInt8 := 0x80 >>> UInt8.ofNat k

theorem byteBit_xor (x y : UInt8) (k : Nat)
    : byteBit (x ^^^ y) k = (byteBit x k ^^ byteBit y k) := by
  simp [byteBit]

theorem byteBit_bitMask : ∀ i < 8, ∀ k < 8, byteBit (bitMask i) k = decide (k = i) := by
  decide

/-- Some octets with bit `k` turned over. -/
def flipBit (octets : List UInt8) (k : Nat) : List UInt8 :=
  octets.set (k / 8) (octets.getD (k / 8) 0 ^^^ bitMask (k % 8))

theorem bit_flipBit {octets : List UInt8} {k : Nat} (inside : k < 8 * octets.length) (j : Nat)
    : bit (flipBit octets k) j = (bit octets j ^^ decide (j = k)) := by
  have within : k / 8 < octets.length := by omega
  rw [bit, bit, flipBit]
  by_cases octet : j / 8 = k / 8
  · have place : (j % 8 = k % 8) = (j = k) := propext (by omega)
    rw [octet, List.getD_eq_getElem?_getD, List.getElem?_set_self within, Option.getD_some,
      byteBit_xor, byteBit_bitMask _ (Nat.mod_lt _ (by decide)) _ (Nat.mod_lt _ (by decide))]
    simp only [place]
  · have different : j ≠ k := fun same => octet (by rw [same])
    rw [List.getD_eq_getElem?_getD, List.getElem?_set_ne (Ne.symm octet),
      ← List.getD_eq_getElem?_getD, decide_eq_false different, Bool.xor_false]

/-- Of every address there is one that differs from it in a given bit only. -/
theorem IpAddr.exists_flipped (addr : IpAddr) {k : Nat} (inside : k < addr.width)
    : ∃ other : IpAddr,
        other.isIpv4 = addr.isIpv4
        ∧ ∀ j, bit other.octets j = (bit addr.octets j ^^ decide (j = k)) := by
  rw [width_eq] at inside
  cases addr with
  | v4 octets =>
      have place : k / 8 < 4 := by
        simp [IpAddr.octets] at inside
        omega
      refine ⟨.v4 (octets.set (k / 8) (octets.toList.getD (k / 8) 0 ^^^ bitMask (k % 8)) place),
        rfl, ?_⟩
      intro j
      rw [IpAddr.octets, Vector.toList_set]
      exact bit_flipBit inside j
  | v6 octets =>
      have place : k / 8 < 16 := by
        simp [IpAddr.octets] at inside
        omega
      refine ⟨.v6 (octets.set (k / 8) (octets.toList.getD (k / 8) 0 ^^^ bitMask (k % 8)) place),
        rfl, ?_⟩
      intro j
      rw [IpAddr.octets, Vector.toList_set]
      exact bit_flipBit inside j

-----------------------------------------------------------------------------------------
-- Networks
-----------------------------------------------------------------------------------------

namespace Cidr.Canonical

variable {net other : Cidr}

theorem mem_members (canonical : net.Canonical) (ip : IpAddr)
    : ip ∈ net.members ↔ MatchesNetwork (net.network, net.prefixLen.toNat) ip := by
  obtain ⟨result, contained, decides⟩ := contains_ok canonical.fits ip
  rw [← decides]
  change net.contains ip = .ok true ↔ _
  rw [contained, Except.ok.injEq]

theorem network_mem (canonical : net.Canonical) : net.network ∈ net.members :=
  (canonical.mem_members net.network).mpr ⟨rfl, fun _ _ => rfl⟩

/-- A network whose members are in another's has at least its prefix: otherwise turning the first
bit over that only the other fixes leads out of the other.
-/
theorem prefix_le (canonical : net.Canonical) (canonical' : other.Canonical)
    (subset : net.members ⊆ other.members)
    : other.prefixLen.toNat ≤ net.prefixLen.toNat := by
  by_contra longer
  rw [not_le] at longer
  obtain ⟨family, agrees⟩ :=
    (canonical'.mem_members net.network).mp (subset canonical.network_mem)
  have inside : net.prefixLen.toNat < net.network.width := by
    refine lt_of_lt_of_le longer ?_
    rw [IpAddr.width, ← family]
    exact canonical'.fits
  obtain ⟨flipped, sameFamily, bits⟩ := net.network.exists_flipped inside
  have member : flipped ∈ net.members := by
    refine (canonical.mem_members flipped).mpr ⟨sameFamily.symm, ?_⟩
    intro k before
    rw [bits, decide_eq_false (Nat.ne_of_lt before), Bool.xor_false]
  obtain ⟨-, agrees'⟩ := (canonical'.mem_members flipped).mp (subset member)
  have here := (agrees _ longer).symm.trans (agrees' _ longer)
  rw [bits] at here
  simp at here

/-- Canonical networks with the same members are equal: the prefixes bound each other, and the
network addresses agree within the prefix and are zero beyond it.
-/
theorem eq_of_members (canonical : net.Canonical) (canonical' : other.Canonical)
    (same : net.members = other.members)
    : net = other := by
  have length : net.prefixLen.toNat = other.prefixLen.toNat :=
    Nat.le_antisymm (canonical'.prefix_le canonical same.ge)
      (canonical.prefix_le canonical' same.le)
  obtain ⟨family, agrees⟩ :=
    (canonical'.mem_members net.network).mp (same ▸ canonical.network_mem)
  have network : net.network = other.network := by
    refine IpAddr.ext_bits family.symm ?_
    intro k
    by_cases within : k < other.prefixLen.toNat
    · exact (agrees k within).symm
    · rw [canonical.cleared k (by omega), canonical'.cleared k (by omega)]
  cases net
  cases other
  rw [Cidr.mk.injEq]
  exact ⟨network, UInt8.toNat_inj.mp length⟩

end Cidr.Canonical

section Entries

variable {parseAddr : String → Option IpAddr} {entry : String} {net : Cidr}

/-- A parsed network is canonical, and has the family and the first bits of the address as it was
written.
-/
theorem canonical_of_parse (parsed : Cidr.parse parseAddr entry = .ok net)
    : net.Canonical
      ∧ ∃ addr prefixLen,
          writtenNetwork parseAddr entry = some (addr, prefixLen)
          ∧ net.prefixLen.toNat = prefixLen
          ∧ MatchesNetwork (net.network, prefixLen) addr := by
  have entryParsed := parse_entry parseAddr entry
  cases written : writtenNetwork parseAddr entry with
  | none =>
      rw [written, parsed] at entryParsed
      cases entryParsed
  | some network =>
      obtain ⟨addr, prefixLen⟩ := network
      rw [written] at entryParsed
      obtain ⟨small, fits, same⟩ := entryParsed
      have number : (UInt8.ofNat prefixLen).toNat = prefixLen := UInt8.toNat_ofNat_of_lt' small
      obtain ⟨network, ok, family, bits⟩ := canonicalize_ok addr (UInt8.ofNat prefixLen)
      rw [ok, parsed] at same
      obtain rfl := Except.ok.inj same
      rw [number] at bits
      refine ⟨⟨?_, ?_⟩, addr, prefixLen, rfl, number, family, ?_⟩
      · rw [number, IpAddr.width, family]
        exact fits
      · intro k beyond
        rw [number] at beyond
        rw [bits, decide_eq_false (Nat.not_lt.mpr beyond), Bool.and_false]
      · intro k within
        rw [bits, decide_eq_true within, Bool.and_true]

/-- Parsed networks are equal exactly if they contain the same addresses. Each contains its own
network address and the address as written.
-/
theorem networks_canonical (parseAddr : String → Option IpAddr) (entry entry' : String)
    (net net' : Cidr) (parsed : Cidr.parse parseAddr entry = .ok net)
    (parsed' : Cidr.parse parseAddr entry' = .ok net')
    : (net = net' ↔ ∀ ip, net.contains ip = .ok true ↔ net'.contains ip = .ok true)
      ∧ net.contains net.network = .ok true
      ∧ ∃ addr prefixLen,
          writtenNetwork parseAddr entry = some (addr, prefixLen)
          ∧ net.contains addr = .ok true := by
  obtain ⟨canonical, addr, prefixLen, written, number, agrees⟩ := canonical_of_parse parsed
  obtain ⟨canonical', -⟩ := canonical_of_parse parsed'
  refine ⟨⟨?_, ?_⟩, canonical.network_mem, addr, prefixLen, written, ?_⟩
  · rintro rfl ip
    exact Iff.rfl
  · intro same
    exact canonical.eq_of_members canonical' (Set.ext same)
  · exact (canonical.mem_members addr).mpr (number ▸ agrees)

end Entries

/-- Addresses as their octets in decimal, with dots between them. -/
def showDotted (addr : IpAddr) : String :=
  ".".intercalate (addr.octets.map (fun octet => toString octet.toNat))

/-- Reads four or sixteen octets in decimal. -/
def parseDotted (s : String) : Option IpAddr :=
  match (s.toList.splitOn '.').mapM (fun piece => parseUnsigned 256 (String.ofList piece)) with
  | none => none
  | some numbers =>
      let octets := numbers.map UInt8.ofNat
      if four : octets.length = 4 then some (.v4 ⟨octets.toArray, four⟩)
      else if sixteen : octets.length = 16 then some (.v6 ⟨octets.toArray, sixteen⟩)
      else none

theorem networks_canonical_ten
    : Cidr.parse parseDotted "10.0.0.7/8" = .ok ⟨.v4 #v[10, 0, 0, 0], 8⟩
      ∧ Cidr.parse parseDotted "10.1.2.3/8" = .ok ⟨.v4 #v[10, 0, 0, 0], 8⟩
      ∧ Cidr.contains ⟨.v4 #v[10, 0, 0, 0], 8⟩ (.v4 #v[10, 0, 0, 0]) = .ok true := by
  have parsed : Cidr.parse parseDotted "10.0.0.7/8" = .ok ⟨.v4 #v[10, 0, 0, 0], 8⟩ := by
    decide +kernel
  have parsed' : Cidr.parse parseDotted "10.1.2.3/8" = .ok ⟨.v4 #v[10, 0, 0, 0], 8⟩ := by
    decide +kernel
  exact ⟨parsed, parsed',
    (networks_canonical parseDotted "10.0.0.7/8" "10.1.2.3/8" _ _ parsed parsed').2.1⟩

end SqliteServer
