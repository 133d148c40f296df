import SqliteServer.Config
import SqliteServer.Handler

/-! Networks of the IP whitelist: parsing, host bits, and matching. Indexing and shifting are
checked, and a failed check is a panic.
-/

namespace SqliteServer

open Json

/-- How a computation ends that does not give a value. -/
inductive Halt where
  | panic
  | error (message : String)
deriving DecidableEq

/-- The value there is, or else an error. -/
def okOr {α : Type} (value? : Option α) (message : String) : Except Halt α :=
  match value? with
  | some value => .ok value
  | none => .error (.error message)

@[simp] theorem okOr_eq_ok {α : Type} {value? : Option α} {message : String} {value : α}
    : okOr value? message = .ok value ↔ value? = some value := by
  cases value? <;> simp [okOr]

theorem bind_eq_ok {α β : Type} {x : Except Halt α} {f : α → Except Halt β} {b : β}
    (ok : x >>= f = .ok b)
    : ∃ a, x = .ok a ∧ f a = .ok b := by
  cases x with
  | error halt => cases ok
  | ok a => exact ⟨a, rfl, ok⟩

-----------------------------------------------------------------------------------------
-- Numbers and texts
-----------------------------------------------------------------------------------------

/-- A left shift of a byte must be by less than its width. -/
def shiftLeft (byte : UInt8) (amount : Nat) : Except Halt UInt8 :=
  if amount < 8 then .ok (byte <<< UInt8.ofNat amount) else .error .panic

def index (octets : List UInt8) (i : Nat) : Except Halt UInt8 :=
  match octets[i]? with
  | some byte => .ok byte
  | none => .error .panic

/-- The octets before `stop`. -/
def sliceTo (octets : List UInt8) (stop : Nat) : Except Halt (List UInt8) :=
  if stop ≤ octets.length then .ok (octets.take stop) else .error .panic

def isAsciiDigit (c : Char) : Bool := '0' ≤ c && c ≤ '9'

def withoutPlus : List Char → List Char
  | '+' :: rest => rest
  | chars => chars

/-- An unsigned decimal below `bound`, with an optional plus sign. -/
def parseUnsigned (bound : Nat) (s : String) : Option Nat :=
  let digits := withoutPlus s.toList
  let value := digits.foldl (fun n c => n * 10 + (c.toNat - '0'.toNat)) 0
  if digits ≠ [] ∧ digits.all isAsciiDigit = true ∧ value < bound then some value else none

/-- The text before and after the first separator. -/
def splitOnce (separator : Char) (s : String) : Option (String × String) :=
  let before := s.toList.takeWhile (fun c => c != separator)
  match s.toList.drop before.length with
  | [] => none
  | _ :: after => some (String.ofList before, String.ofList after)

-----------------------------------------------------------------------------------------
-- Networks
-----------------------------------------------------------------------------------------

namespace IpAddr

def octets : IpAddr → List UInt8
  | .v4 octets => octets.toList
  | .v6 octets => octets.toList

def isIpv4 : IpAddr → Bool
  | .v4 _ => true
  | .v6 _ => false

end IpAddr

/-- An octet without the bits beyond the prefix. -/
def maskOctet (prefixLen : UInt8) (i : Nat) (byte : UInt8) : Except Halt UInt8 :=
  let bits := i * 8
  if bits ≥ prefixLen.toNat then .ok 0
  else if bits + 8 > prefixLen.toNat then
    (shiftLeft 0xff (bits + 8 - prefixLen.toNat)).map (fun mask => byte &&& mask)
  else .ok byte

def mask {n : Nat} (octets : Vector UInt8 n) (prefixLen : UInt8) : Except Halt (Vector UInt8 n) :=
  Vector.ofFnM (fun i => maskOctet prefixLen i octets[i])

/-- The network address: the host bits are zero. -/
def canonicalize (addr : IpAddr) (prefixLen : UInt8) : Except Halt IpAddr :=
  match addr with
  | .v4 octets => (mask octets prefixLen).map .v4
  | .v6 octets => (mask octets prefixLen).map .v6

/-- Compare the first bits of two addresses of one family. -/
def maskedEq (a b : List UInt8) (prefixLen : UInt8) : Except Halt Bool := do
  let fullBytes := (prefixLen / 8).toNat
  let fullA ← sliceTo a fullBytes
  let fullB ← sliceTo b fullBytes
  if fullA ≠ fullB then return false
  let remainingBits := prefixLen % 8
  if 0 < remainingBits then
    let mask ← shiftLeft 0xff (8 - remainingBits).toNat
    let byteA ← index a fullBytes
    let byteB ← index b fullBytes
    if byteA &&& mask ≠ byteB &&& mask then return false
  return true

namespace Cidr

def contains (net : Cidr) (ip : IpAddr) : Except Halt Bool :=
  match net.network, ip with
  | .v4 network, .v4 ip => maskedEq network.toList ip.toList net.prefixLen
  | .v6 network, .v6 ip => maskedEq network.toList ip.toList net.prefixLen
  | _, _ => .ok false

variable (parseAddr : String → Option IpAddr)

/-- A network `a/p`, or a bare address, which stands for itself alone. -/
def parse (entry : String) : Except Halt Cidr := do
  let invalid := Halt.error ("Invalid ip_whitelist entry: " ++ entry)
  let (addrStr, prefixLen) ←
    match splitOnce '/' entry with
    | some (addr, prefixStr) =>
        match parseUnsigned 256 prefixStr with
        | some prefixLen => pure (addr, some prefixLen)
        | none => throw invalid
    | none => pure (entry, none)
  match parseAddr addrStr with
  | none => throw invalid
  | some addr =>
      let maxPrefix := if addr.isIpv4 then 32 else 128
      let prefixLen := prefixLen.getD maxPrefix
      if prefixLen > maxPrefix then throw invalid
      let network ← canonicalize addr (UInt8.ofNat prefixLen)
      return ⟨network, UInt8.ofNat prefixLen⟩

end Cidr

section Whitelist

variable (parseAddr : String → Option IpAddr)

/-- The entries of a comma-separated list. -/
def csvEntries (s : String) : List String :=
  ((s.toList.splitOn ',').map (fun piece => trim (String.ofList piece))).filter (fun e => e ≠ "")

def parseWhitelistCsv (s : String) : Except Halt (List Cidr) :=
  (csvEntries s).mapM (Cidr.parse parseAddr)

def parseWhitelistItem (item : Value) : Except Halt Cidr := do
  let s ← okOr item.asStr "Config key ip_whitelist must contain only strings"
  Cidr.parse parseAddr s

/-- The optional array of the config file. -/
def parseWhitelistJson (json : Value) : Except Halt (List Cidr) :=
  match json.get "ip_whitelist" with
  | none => .ok []
  | some (.array items) => items.mapM (parseWhitelistItem parseAddr)
  | some _ => .error (.error "Config key ip_whitelist must be an array of CIDR strings")

end Whitelist

/-- Whether some network contains the address; the first that does ends the search. -/
def anyContains (ip : IpAddr) : List Cidr → Except Halt Bool
  | [] => .ok false
  | net :: rest => do
      if ← net.contains ip then return true
      anyContains ip rest

/-- An empty whitelist lets everyone in. -/
def Config.isIpAllowed (config : Config) (ip : IpAddr) : Except Halt Bool :=
  if config.ipWhitelist.isEmpty then .ok true else anyContains ip config.ipWhitelist

-----------------------------------------------------------------------------------------
-- Prefix bits
-----------------------------------------------------------------------------------------

/-- Bit `k` of a byte, from the highest. -/
def byteBit (byte : UInt8) (k : Nat) : Bool := byte.toBitVec.getMsbD k

/-- Bit `k` of some octets, from the highest of the first. -/
def bit (octets : List UInt8) (k : Nat) : Bool := byteBit (octets.getD (k / 8) 0) (k % 8)

/-- Two addresses have the same first bits. -/
def SamePrefix (prefixLen : Nat) (a b : List UInt8) : Prop := ∀ k < prefixLen, bit a k = bit b k

/-- Bytes are equal if their bits are. -/
theorem byte_ext {x y : UInt8} (same : ∀ k < 8, byteBit x k = byteBit y k) : x = y := by
  refine UInt8.toBitVec_inj.mp (BitVec.eq_of_getMsbD_eq ?_)
  intro k inside
  exact same k inside

theorem byteBit_and (x y : UInt8) (k : Nat)
    : byteBit (x &&& y) k = (byteBit x k && byteBit y k) := by
  simp [byteBit]

theorem byteBit_zero (k : Nat) : byteBit 0 k = false := by
  simp [byteBit]

/-- The mask for a partial byte is defined and has its first bits. -/
theorem shiftLeft_mask (remaining : Nat) (some_ : 0 < remaining) (partial_ : remaining < 8)
    : ∃ mask,
        shiftLeft 0xff (8 - remaining) = .ok mask
        ∧ ∀ k < 8, byteBit mask k = decide (k < remaining) := by
  have bits
      : ∀ r < 8, 0 < r → ∀ k < 8,
          byteBit (0xff <<< UInt8.ofNat (8 - r)) k = decide (k < r) := by
    decide
  exact ⟨0xff <<< UInt8.ofNat (8 - remaining), if_pos (by omega), bits remaining partial_ some_⟩

/-- Masked bytes are equal if their first bits are. -/
theorem and_mask_eq_iff {x y mask : UInt8} {remaining : Nat} (partial_ : remaining < 8)
    (bits : ∀ k < 8, byteBit mask k = decide (k < remaining))
    : x &&& mask = y &&& mask ↔ ∀ k < remaining, byteBit x k = byteBit y k := by
  constructor
  · intro same k inside
    have := congrArg (byteBit · k) same
    simpa [byteBit_and, bits k (by omega), inside] using this
  · intro same
    refine byte_ext ?_
    intro k inside
    rw [byteBit_and, byteBit_and, bits k inside]
    by_cases first : k < remaining
    · rw [same k first]
    · simp [first]

/-- Whole octets are equal if their bits are. -/
theorem take_eq_iff {a b : List UInt8} (full : Nat) (inA : full ≤ a.length) (inB : full ≤ b.length)
    : a.take full = b.take full ↔ SamePrefix (8 * full) a b := by
  constructor
  · intro same k inside
    have octet := congrArg (fun octets => octets.getD (k / 8) 0) same
    have first : k / 8 < full := by omega
    simp only [List.getD_eq_getElem?_getD, List.getElem?_take_of_lt first] at octet
    rw [bit, bit, List.getD_eq_getElem?_getD, List.getD_eq_getElem?_getD, octet]
  · intro same
    refine List.ext_getElem (by simp [inA, inB]) ?_
    intro i insideA insideB
    rw [List.length_take] at insideA
    rw [List.getElem_take, List.getElem_take]
    refine byte_ext ?_
    intro k inside
    have := same (8 * i + k) (by omega)
    have octet : (8 * i + k) / 8 = i := by omega
    have place : (8 * i + k) % 8 = k := by omega
    rw [bit, bit, octet, place, List.getD_eq_getElem?_getD, List.getD_eq_getElem?_getD,
      List.getElem?_eq_getElem (by omega), List.getElem?_eq_getElem (by omega)] at this
    exact this

theorem sliceTo_ok {octets : List UInt8} {stop : Nat} (inside : stop ≤ octets.length)
    : sliceTo octets stop = .ok (octets.take stop) :=
  if_pos inside

theorem index_ok {octets : List UInt8} {i : Nat} (inside : i < octets.length)
    : index octets i = .ok (octets.getD i 0) := by
  rw [index, List.getD_eq_getElem?_getD, List.getElem?_eq_getElem inside]
  rfl

/-- The first bits are those of the whole octets and those of the octet after them. -/
theorem samePrefix_split (prefixLen : Nat) (a b : List UInt8)
    : SamePrefix prefixLen a b
      ↔ SamePrefix (8 * (prefixLen / 8)) a b
        ∧ ∀ k < prefixLen % 8,
            byteBit (a.getD (prefixLen / 8) 0) k = byteBit (b.getD (prefixLen / 8) 0) k := by
  constructor
  · intro same
    refine ⟨fun k inside => same k (by omega), ?_⟩
    intro k inside
    have := same (8 * (prefixLen / 8) + k) (by omega)
    have octet : (8 * (prefixLen / 8) + k) / 8 = prefixLen / 8 := by omega
    have place : (8 * (prefixLen / 8) + k) % 8 = k := by omega
    rwa [bit, bit, octet, place] at this
  · rintro ⟨whole, last⟩ k inside
    by_cases first : k < 8 * (prefixLen / 8)
    · exact whole k first
    · have octet : k / 8 = prefixLen / 8 := by omega
      rw [bit, bit, octet]
      exact last (k % 8) (by omega)

/-- Comparing octets and a partial byte compares the first bits, and never panics. -/
theorem maskedEq_ok {a b : List UInt8} {prefixLen : UInt8} (inA : prefixLen.toNat ≤ 8 * a.length)
    (inB : prefixLen.toNat ≤ 8 * b.length)
    : ∃ result,
        maskedEq a b prefixLen = .ok result
        ∧ (result = true ↔ SamePrefix prefixLen.toNat a b) := by
  have full : (prefixLen / 8).toNat = prefixLen.toNat / 8 := UInt8.toNat_div prefixLen 8
  have rest : (prefixLen % 8).toNat = prefixLen.toNat % 8 := UInt8.toNat_mod prefixLen 8
  have whole := take_eq_iff (prefixLen.toNat / 8) (a := a) (b := b) (by omega) (by omega)
  unfold maskedEq
  simp only [full, sliceTo_ok (show prefixLen.toNat / 8 ≤ a.length by omega),
    sliceTo_ok (show prefixLen.toNat / 8 ≤ b.length by omega), bind, Except.bind, pure,
    Except.pure]
  by_cases octets : a.take (prefixLen.toNat / 8) = b.take (prefixLen.toNat / 8)
  · rw [if_neg (not_not.mpr octets)]
    have before := whole.mp octets
    by_cases aligned : 0 < prefixLen % 8
    · have some_ : 0 < prefixLen.toNat % 8 := by
        have := UInt8.lt_iff_toNat_lt.mp aligned
        rwa [rest] at this
      have less : (8 - prefixLen % 8).toNat = 8 - prefixLen.toNat % 8 := by
        have fits : prefixLen % 8 ≤ 8 := by
          refine UInt8.le_iff_toNat_le.mpr ?_
          rw [rest]
          exact Nat.le_of_lt (Nat.mod_lt _ (by decide))
        rw [UInt8.toNat_sub_of_le _ _ fits, rest]
        rfl
      obtain ⟨mask, shifted, bits⟩ := shiftLeft_mask _ some_ (Nat.mod_lt _ (by decide))
      have last
          : a.getD (prefixLen.toNat / 8) 0 &&& mask = b.getD (prefixLen.toNat / 8) 0 &&& mask
            ↔ _ :=
        and_mask_eq_iff (Nat.mod_lt _ (by decide)) bits
      rw [if_pos aligned, less, shifted]
      dsimp only
      rw [index_ok (by omega), index_ok (by omega)]
      dsimp only
      rw [samePrefix_split, ← last]
      by_cases same
          : a.getD (prefixLen.toNat / 8) 0 &&& mask = b.getD (prefixLen.toNat / 8) 0 &&& mask
      · rw [if_neg (not_not.mpr same)]
        exact ⟨true, rfl, iff_of_true rfl ⟨before, same⟩⟩
      · rw [if_pos same]
        exact ⟨false, rfl, iff_of_false (by decide) (fun both => same both.2)⟩
    · rw [if_neg aligned]
      have none' : prefixLen.toNat % 8 = 0 := by
        have := UInt8.lt_iff_toNat_lt.not.mp aligned
        rw [rest] at this
        exact Nat.eq_zero_of_not_pos this
      rw [samePrefix_split, none']
      exact ⟨true, rfl, iff_of_true rfl ⟨before, nofun⟩⟩
  · rw [if_pos octets, samePrefix_split, ← whole]
    exact ⟨false, rfl, iff_of_false (by decide) (fun both => octets both.1)⟩

-----------------------------------------------------------------------------------------
-- Network addresses
-----------------------------------------------------------------------------------------

/-- Masking an octet never panics and clears the bits beyond the prefix. -/
theorem maskOctet_ok (prefixLen : UInt8) (i : Nat) (byte : UInt8)
    : ∃ masked,
        maskOctet prefixLen i byte = .ok masked
        ∧ ∀ k < 8,
            byteBit masked k = (byteBit byte k && decide (8 * i + k < prefixLen.toNat)) := by
  unfold maskOctet
  dsimp only
  split_ifs with beyond crossing
  · refine ⟨0, rfl, ?_⟩
    intro k inside
    have out : ¬ 8 * i + k < prefixLen.toNat := by omega
    simp [byteBit_zero, out]
  · obtain ⟨mask, shifted, bits⟩ :=
      shiftLeft_mask (prefixLen.toNat - i * 8) (by omega) (by omega)
    have amount : i * 8 + 8 - prefixLen.toNat = 8 - (prefixLen.toNat - i * 8) := by omega
    rw [amount, shifted]
    refine ⟨byte &&& mask, rfl, ?_⟩
    intro k inside
    rw [byteBit_and, bits k inside]
    congr 2
    exact propext (by omega)
  · refine ⟨byte, rfl, ?_⟩
    intro k inside
    have within : 8 * i + k < prefixLen.toNat := by omega
    simp [within]

/-- Masking clears the bits beyond the prefix. -/
theorem mask_ok {n : Nat} (octets : Vector UInt8 n) (prefixLen : UInt8)
    : ∃ masked : Vector UInt8 n,
        mask octets prefixLen = .ok masked
        ∧ ∀ k, bit masked.toList k = (bit octets.toList k && decide (k < prefixLen.toNat)) := by
  choose masked ok bits using fun (i : Fin n) => maskOctet_ok prefixLen i octets[i]
  refine ⟨Vector.ofFn masked, ?_, ?_⟩
  · have total
        : (fun i : Fin n => maskOctet prefixLen i octets[i])
          = fun i => (pure (masked i) : Except Halt UInt8) := by
      funext i
      exact ok i
    rw [mask, total, Vector.ofFnM_pure]
    rfl
  · intro k
    by_cases inside : k / 8 < n
    · have place := bits ⟨k / 8, inside⟩ (k % 8) (Nat.mod_lt _ (by decide))
      have whole : 8 * (k / 8) + k % 8 = k := by omega
      rw [whole] at place
      simpa [bit, List.getD_eq_getElem?_getD, inside] using place
    · simp [bit, List.getD_eq_getElem?_getD, inside, byteBit_zero]

/-- The network address of an address has its first bits, and zeros. -/
theorem canonicalize_ok (addr : IpAddr) (prefixLen : UInt8)
    : ∃ network,
        canonicalize addr prefixLen = .ok network
        ∧ network.isIpv4 = addr.isIpv4
        ∧ ∀ k,
            bit network.octets k = (bit addr.octets k && decide (k < prefixLen.toNat)) := by
  cases addr with
  | v4 octets =>
      obtain ⟨masked, ok, bits⟩ := mask_ok octets prefixLen
      exact ⟨.v4 masked, by rw [canonicalize, ok]; rfl, rfl, bits⟩
  | v6 octets =>
      obtain ⟨masked, ok, bits⟩ := mask_ok octets prefixLen
      exact ⟨.v6 masked, by rw [canonicalize, ok]; rfl, rfl, bits⟩

-----------------------------------------------------------------------------------------
-- Entries
-----------------------------------------------------------------------------------------

/-- The number of bits of an address. -/
def IpAddr.width (addr : IpAddr) : Nat := if addr.isIpv4 then 32 else 128

theorem IpAddr.width_eq (addr : IpAddr) : addr.width = 8 * addr.octets.length := by
  cases addr <;> simp [width, isIpv4, octets]

section Entries

variable (parseAddr : String → Option IpAddr)

/-- The address and the prefix as an entry writes them: `a/p`, or `a` for the whole address. -/
def writtenNetwork (entry : String) : Option (IpAddr × Nat) :=
  match splitOnce '/' entry with
  | some (addr, prefixStr) =>
      match parseUnsigned 256 prefixStr, parseAddr addr with
      | some prefixLen, some addr => if prefixLen ≤ addr.width then some (addr, prefixLen) else none
      | _, _ => none
  | none => (parseAddr entry).map (fun addr => (addr, addr.width))

/-- An address has the family and the first bits of a network. -/
def MatchesNetwork (network : IpAddr × Nat) (ip : IpAddr) : Prop :=
  network.1.isIpv4 = ip.isIpv4 ∧ SamePrefix network.2 network.1.octets ip.octets

variable {parseAddr}

/-- A network whose prefix fits contains exactly the addresses that match it. -/
theorem contains_ok {net : Cidr} (fits : net.prefixLen.toNat ≤ net.network.width) (ip : IpAddr)
    : ∃ result,
        net.contains ip = .ok result
        ∧ (result = true ↔ MatchesNetwork (net.network, net.prefixLen.toNat) ip) := by
  obtain ⟨network, prefixLen⟩ := net
  have narrow : prefixLen.toNat ≤ 8 * network.octets.length := by
    rw [← network.width_eq]
    exact fits
  cases network with
  | v4 octets =>
      cases ip with
      | v4 ip =>
          obtain ⟨result, ok, same⟩ :=
            maskedEq_ok narrow
              (show prefixLen.toNat ≤ 8 * ip.toList.length by simpa [IpAddr.octets] using narrow)
          exact ⟨result, ok, same.trans (by simp [MatchesNetwork, IpAddr.isIpv4, IpAddr.octets])⟩
      | v6 ip => exact ⟨false, rfl, by simp [MatchesNetwork, IpAddr.isIpv4]⟩
  | v6 octets =>
      cases ip with
      | v4 ip => exact ⟨false, rfl, by simp [MatchesNetwork, IpAddr.isIpv4]⟩
      | v6 ip =>
          obtain ⟨result, ok, same⟩ :=
            maskedEq_ok narrow
              (show prefixLen.toNat ≤ 8 * ip.toList.length by simpa [IpAddr.octets] using narrow)
          exact ⟨result, ok, same.trans (by simp [MatchesNetwork, IpAddr.isIpv4, IpAddr.octets])⟩

/-- A parsed network contains what has the family and the first bits of the address as written:
the bits that canonicalization clears are not compared.
-/
theorem contains_canonicalize {addr network : IpAddr} {prefixLen : UInt8}
    (fits : prefixLen.toNat ≤ addr.width) (canonical : canonicalize addr prefixLen = .ok network)
    (ip : IpAddr)
    : ∃ result,
        Cidr.contains ⟨network, prefixLen⟩ ip = .ok result
        ∧ (result = true ↔ MatchesNetwork (addr, prefixLen.toNat) ip) := by
  obtain ⟨network', ok, family, bits⟩ := canonicalize_ok addr prefixLen
  obtain rfl : network = network' := Except.ok.inj (canonical.symm.trans ok)
  have cleared
      : SamePrefix prefixLen.toNat network.octets ip.octets
        ↔ SamePrefix prefixLen.toNat addr.octets ip.octets := by
    refine forall₂_congr ?_
    intro k inside
    rw [bits k]
    simp [inside]
  have fits' : prefixLen.toNat ≤ network.width := by
    rw [IpAddr.width, family]
    exact fits
  obtain ⟨result, contained, decides⟩ := @contains_ok ⟨network, prefixLen⟩ fits' ip
  refine ⟨result, contained, decides.trans ?_⟩
  unfold MatchesNetwork
  rw [cleared, family]

theorem parseUnsigned_lt {bound value : Nat} {s : String}
    (parsed : parseUnsigned bound s = some value)
    : value < bound := by
  unfold parseUnsigned at parsed
  dsimp only at parsed
  split at parsed
  · rename_i valid
    exact Option.some.inj parsed ▸ valid.2.2
  · contradiction

/-- A well-formed entry is parsed, as the network it writes; any other is refused. -/
theorem parse_entry (parseAddr : String → Option IpAddr) (entry : String)
    : match writtenNetwork parseAddr entry with
      | some (addr, prefixLen) =>
          prefixLen < 256
          ∧ prefixLen ≤ addr.width
          ∧ Cidr.parse parseAddr entry
            = (canonicalize addr (UInt8.ofNat prefixLen)).map
                (fun network => ⟨network, UInt8.ofNat prefixLen⟩)
      | none =>
          Cidr.parse parseAddr entry
            = .error (.error ("Invalid ip_whitelist entry: " ++ entry)) := by
  have bound (addr : IpAddr) : addr.width = (if addr.isIpv4 = true then 32 else 128) := rfl
  unfold writtenNetwork Cidr.parse
  cases splitOnce '/' entry with
  | none =>
      dsimp only [bind, Except.bind, pure, Except.pure]
      cases parseAddr entry with
      | none => rfl
      | some addr =>
          have small : addr.width < 256 := by
            rw [bound]
            split <;> omega
          refine ⟨small, le_refl _, ?_⟩
          dsimp only [Option.map_some, Option.getD_none]
          rw [← bound, if_neg (lt_irrefl _)]
          rfl
  | some parts =>
      dsimp only [bind, Except.bind, pure, Except.pure]
      cases number : parseUnsigned 256 parts.2 with
      | none => rfl
      | some prefixLen =>
          dsimp only
          cases parseAddr parts.1 with
          | none => rfl
          | some addr =>
              dsimp only [Option.getD_some]
              rw [← bound]
              by_cases fits : prefixLen ≤ addr.width
              · rw [if_pos fits, if_neg (not_lt.mpr fits)]
                exact ⟨parseUnsigned_lt number, fits, rfl⟩
              · rw [if_neg fits, if_pos (not_le.mp fits)]
                rfl

/-- A well-formed entry gives a network that contains exactly the matching addresses. -/
theorem parse_ok {entry : String} {network : IpAddr × Nat}
    (written : writtenNetwork parseAddr entry = some network)
    : ∃ net,
        Cidr.parse parseAddr entry = .ok net
        ∧ ∀ ip, ∃ result,
            net.contains ip = .ok result ∧ (result = true ↔ MatchesNetwork network ip) := by
  have parsed := parse_entry parseAddr entry
  rw [written] at parsed
  obtain ⟨small, fits, parsed⟩ := parsed
  obtain ⟨canonical, ok, -⟩ := canonicalize_ok network.1 (UInt8.ofNat network.2)
  have same : (UInt8.ofNat network.2).toNat = network.2 := UInt8.toNat_ofNat_of_lt' small
  refine ⟨⟨canonical, UInt8.ofNat network.2⟩, by rw [parsed, ok]; rfl, ?_⟩
  intro ip
  obtain ⟨result, contained, decides⟩ := contains_canonicalize (by rw [same]; exact fits) ok ip
  rw [same] at decides
  exact ⟨result, contained, decides⟩

theorem parse_error {entry : String} (malformed : writtenNetwork parseAddr entry = none)
    : Cidr.parse parseAddr entry = .error (.error ("Invalid ip_whitelist entry: " ++ entry)) := by
  have parsed := parse_entry parseAddr entry
  rwa [malformed] at parsed

end Entries

end SqliteServer
