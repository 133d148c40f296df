import SqliteServer.CanonicalNetworks
import SqliteServer.ConfigAgreement

/-! The printed whitelist can be read back. -/

namespace SqliteServer

open Json

section Printing

variable (showAddr : IpAddr → String)

def Cidr.toString (net : Cidr) : String :=
  showAddr net.network ++ "/" ++ ToString.toString net.prefixLen.toNat

/-- The whitelist as it is logged. -/
def Config.ipWhitelistRepr (config : Config) : String :=
  if config.ipWhitelist.isEmpty then "(any)"
  else ", ".intercalate (config.ipWhitelist.map (Cidr.toString showAddr))

/-- Printed addresses are parsed as what they are, and have no separators in them. -/
structure ReadsBack (parseAddr : String → Option IpAddr) (showAddr : IpAddr → String) : Prop where
  parse : ∀ addr, parseAddr (showAddr addr) = some addr
  plain : ∀ addr, ∀ c ∈ (showAddr addr).toList, c ≠ '/' ∧ c ≠ ',' ∧ isWhitespace c = false

end Printing

-----------------------------------------------------------------------------------------
-- Separators
-----------------------------------------------------------------------------------------

/-- A text of a list: it is not empty and has no commas and no whitespace. -/
structure Entry (entry : String) : Prop where
  nonempty : entry ≠ ""
  plain : ∀ c ∈ entry.toList, c ≠ ',' ∧ isWhitespace c = false

/-- Nothing is dropped from a text without whitespace. -/
theorem dropWhile_plain {chars : List Char} (plain : ∀ c ∈ chars, isWhitespace c = false)
    : chars.dropWhile isWhitespace = chars := by
  cases chars with
  | nil => rfl
  | cons c rest => rw [List.dropWhile_cons_of_neg (by simp [plain c List.mem_cons_self])]

theorem Entry.trim {entry : String} (isEntry : Entry entry) : trim entry = entry := by
  have plain : ∀ c ∈ entry.toList, isWhitespace c = false := fun c member =>
    (isEntry.plain c member).2
  have plain' : ∀ c ∈ entry.toList.reverse, isWhitespace c = false := fun c member =>
    plain c (List.mem_reverse.mp member)
  rw [SqliteServer.trim, dropWhile_plain plain, dropWhile_plain plain', List.reverse_reverse,
    String.ofList_toList]

/-- A space before a text is trimmed. -/
theorem Entry.trim_spaced {entry : String} (isEntry : Entry entry)
    : SqliteServer.trim (String.ofList (' ' :: entry.toList)) = entry := by
  have space : isWhitespace ' ' = true := by decide
  have trimmed := isEntry.trim
  rw [SqliteServer.trim] at trimmed ⊢
  rwa [String.toList_ofList, List.dropWhile_cons_of_pos space]

/-- A comma and a space between texts is a comma between texts with a space before all but the
first.
-/
theorem intercalate_spaced (first : List Char) (rest : List (List Char))
    : [',', ' '].intercalate (first :: rest)
      = [','].intercalate (first :: rest.map (fun entry => ' ' :: entry)) := by
  induction rest generalizing first with
  | nil => simp
  | cons second others ih =>
      rw [List.intercalate_cons_cons, List.map_cons, List.intercalate_cons_cons, ih]
      cases others with
      | nil => simp
      | cons third later => simp [List.intercalate_cons_cons]

/-- The texts of a list that is joined by commas and spaces are found again. -/
theorem csvEntries_spaced {entries : List String} (nonempty : entries ≠ [])
    (all : ∀ entry ∈ entries, Entry entry)
    : csvEntries (", ".intercalate entries) = entries := by
  obtain ⟨first, rest, rfl⟩ := List.exists_cons_of_ne_nil nonempty
  have separated
      : ∀ piece ∈ first.toList :: (rest.map String.toList).map (fun entry => ' ' :: entry),
          ',' ∉ piece := by
    intro piece member
    rcases List.mem_cons.mp member with rfl | later
    · exact fun comma => ((all first List.mem_cons_self).plain ',' comma).1 rfl
    · obtain ⟨chars, inRest, rfl⟩ := List.mem_map.mp later
      obtain ⟨entry, inEntries, rfl⟩ := List.mem_map.mp inRest
      have isEntry := all entry (List.mem_cons_of_mem _ inEntries)
      simp only [List.mem_cons, not_or]
      exact ⟨by decide, fun comma => (isEntry.plain ',' comma).1 rfl⟩
  have trimmed
      : rest.map (fun entry => trim (String.ofList (' ' :: entry.toList))) = rest := by
    calc
      rest.map (fun entry => trim (String.ofList (' ' :: entry.toList)))
          = rest.map id :=
        List.map_congr_left
          (fun entry member => (all entry (List.mem_cons_of_mem _ member)).trim_spaced)
      _ = rest := List.map_id rest
  have joined
      : (", ".intercalate (first :: rest)).toList
        = [','].intercalate
            (first.toList :: (rest.map String.toList).map (fun entry => ' ' :: entry)) := by
    rw [String.toList_intercalate, List.map_cons]
    exact intercalate_spaced _ _
  rw [csvEntries_joined joined (List.cons_ne_nil _ _) separated, List.map_cons,
    String.ofList_toList, (all first List.mem_cons_self).trim, List.map_map, List.map_map]
  change (first :: rest.map (fun entry => trim (String.ofList (' ' :: entry.toList)))).filter _ = _
  rw [trimmed]
  refine List.filter_eq_self.mpr ?_
  intro entry member
  exact decide_eq_true (all entry member).nonempty

-----------------------------------------------------------------------------------------
-- Entries
-----------------------------------------------------------------------------------------

/-- A byte is printed in digits that are read as it. -/
theorem byte_readsBack
    : ∀ n < 256,
        parseUnsigned 256 (toString n) = some n
        ∧ (toString n).toList.all isAsciiDigit = true := by
  decide +kernel

/-- Digits are no separators. -/
theorem digit_plain {c : Char} (digit : isAsciiDigit c = true)
    : c ≠ '/' ∧ c ≠ ',' ∧ c ≠ '.' ∧ isWhitespace c = false := by
  rw [isAsciiDigit, Bool.and_eq_true, decide_eq_true_eq, decide_eq_true_eq, Char.le_def,
    Char.le_def, UInt32.le_iff_toNat_le, UInt32.le_iff_toNat_le] at digit
  obtain ⟨low, high⟩ := digit
  change 48 ≤ c.toNat at low
  change c.toNat ≤ 57 at high
  refine ⟨?_, ?_, ?_, ?_⟩
  · rintro rfl
    exact absurd low (by decide)
  · rintro rfl
    exact absurd low (by decide)
  · rintro rfl
    exact absurd low (by decide)
  · simp only [isWhitespace, Bool.or_eq_false_iff, Bool.and_eq_false_iff, decide_eq_false_iff_not]
    omega

section ReadingBack

variable {parseAddr : String → Option IpAddr} {showAddr : IpAddr → String} {net : Cidr}

theorem ReadsBack.entry (readsBack : ReadsBack parseAddr showAddr) (net : Cidr)
    : Entry (net.toString showAddr) := by
  have digits := (byte_readsBack net.prefixLen.toNat net.prefixLen.toNat_lt).2
  refine ⟨?_, ?_⟩
  · intro empty
    have chars := congrArg String.toList empty
    simp [Cidr.toString] at chars
  · intro c member
    rw [Cidr.toString, String.toList_append, String.toList_append, List.mem_append,
      List.mem_append] at member
    rcases member with (inAddr | slash) | inPrefix
    · exact (readsBack.plain net.network c inAddr).2
    · obtain rfl : c = '/' := by simpa using slash
      decide
    · obtain ⟨-, comma, -, space⟩ := digit_plain (List.all_eq_true.mp digits c inPrefix)
      exact ⟨comma, space⟩

/-- A printed network writes its address and its prefix. -/
theorem ReadsBack.written (readsBack : ReadsBack parseAddr showAddr) (canonical : net.Canonical)
    : writtenNetwork parseAddr (net.toString showAddr)
      = some (net.network, net.prefixLen.toNat) := by
  have apart
      : splitOnce '/' (net.toString showAddr)
        = some (showAddr net.network, toString net.prefixLen.toNat) := by
    have noSlash : ∀ c ∈ (showAddr net.network).toList, (c != '/') = true := by
      intro c member
      simpa using (readsBack.plain net.network c member).1
    rw [Cidr.toString]
    generalize toString net.prefixLen.toNat = digits
    rw [splitOnce, String.toList_append, String.toList_append, List.append_assoc,
      List.takeWhile_append_of_pos noSlash]
    simp
  rw [writtenNetwork, apart]
  dsimp only
  rw [(byte_readsBack _ net.prefixLen.toNat_lt).1, readsBack.parse]
  exact if_pos canonical.fits

/-- Clearing the host bits of a canonical network changes nothing. -/
theorem Cidr.Canonical.canonicalize (canonical : net.Canonical)
    : SqliteServer.canonicalize net.network net.prefixLen = .ok net.network := by
  obtain ⟨network, ok, family, bits⟩ := canonicalize_ok net.network net.prefixLen
  rw [ok, Except.ok.injEq]
  refine IpAddr.ext_bits family ?_
  intro k
  rw [bits]
  by_cases within : k < net.prefixLen.toNat
  · simp [within]
  · simp [within, canonical.cleared k (by omega)]

theorem ReadsBack.parse_toString (readsBack : ReadsBack parseAddr showAddr)
    (canonical : net.Canonical)
    : Cidr.parse parseAddr (net.toString showAddr) = .ok net := by
  have parsed := parse_entry parseAddr (net.toString showAddr)
  rw [readsBack.written canonical] at parsed
  obtain ⟨-, -, parsed⟩ := parsed
  rw [parsed, UInt8.ofNat_toNat, canonical.canonicalize]
  rfl

/-- A printed list is read back, by induction on it. -/
theorem ReadsBack.parse_list (readsBack : ReadsBack parseAddr showAddr) {nets : List Cidr}
    (canonical : ∀ net ∈ nets, net.Canonical)
    : (nets.map (Cidr.toString showAddr)).mapM (Cidr.parse parseAddr) = .ok nets := by
  induction nets with
  | nil => rfl
  | cons net rest ih =>
      rw [List.map_cons, List.mapM_cons,
        readsBack.parse_toString (canonical net List.mem_cons_self),
        ih (fun other member => canonical other (List.mem_cons_of_mem _ member))]
      rfl

/-- What is parsed from entries is canonical, by induction on them. -/
theorem canonical_of_mapM {entries : List String} {nets : List Cidr}
    (parsed : entries.mapM (Cidr.parse parseAddr) = .ok nets)
    : ∀ net ∈ nets, net.Canonical := by
  induction entries generalizing nets with
  | nil =>
      obtain rfl : [] = nets := Except.ok.inj parsed
      exact fun net member => absurd member List.not_mem_nil
  | cons entry rest ih =>
      rw [List.mapM_cons] at parsed
      obtain ⟨first, here, parsed⟩ := bind_eq_ok parsed
      obtain ⟨others, later, parsed⟩ := bind_eq_ok parsed
      obtain rfl : first :: others = nets := Except.ok.inj parsed
      intro net member
      rcases List.mem_cons.mp member with rfl | inOthers
      · exact (canonical_of_parse here).1
      · exact ih later net inOthers

/-- What is parsed from a config file is canonical. -/
theorem canonical_of_json {json : Value} {nets : List Cidr}
    (parsed : parseWhitelistJson parseAddr json = .ok nets)
    : ∀ net ∈ nets, net.Canonical := by
  rw [parseWhitelistJson] at parsed
  cases found : json.get "ip_whitelist" with
  | none =>
      rw [found] at parsed
      obtain rfl : [] = nets := Except.ok.inj parsed
      exact fun net member => absurd member List.not_mem_nil
  | some value =>
      rw [found] at parsed
      cases value with
      | array items =>
          obtain ⟨entries, texts⟩ := parseItems_ok parsed
          exact canonical_of_mapM ((parseItems_texts texts).symm.trans parsed)
      | _ => cases parsed

end ReadingBack

-----------------------------------------------------------------------------------------
-- Addresses in decimal
-----------------------------------------------------------------------------------------

/-- Octets in decimal are read as they are, by induction on them. -/
theorem mapM_decimal (octets : List UInt8)
    : (octets.map (fun octet => (toString octet.toNat).toList)).mapM
          (fun piece => parseUnsigned 256 (String.ofList piece))
        = some (octets.map UInt8.toNat) := by
  induction octets with
  | nil => rfl
  | cons octet rest ih =>
      rw [List.map_cons, List.mapM_cons, ih, String.ofList_toList,
        (byte_readsBack octet.toNat octet.toNat_lt).1]
      rfl

/-- What is in a joined list is the separator or in a piece, by induction on the pieces. -/
theorem mem_intercalate {c separator : Char} {pieces : List (List Char)}
    (member : c ∈ [separator].intercalate pieces)
    : c = separator ∨ ∃ piece ∈ pieces, c ∈ piece := by
  induction pieces with
  | nil => simp at member
  | cons first rest ih =>
      cases rest with
      | nil => exact .inr ⟨first, List.mem_cons_self, by simpa using member⟩
      | cons second others =>
          rw [List.intercalate_cons_cons, List.append_assoc, List.mem_append] at member
          rcases member with inFirst | later
          · exact .inr ⟨first, List.mem_cons_self, inFirst⟩
          · rcases List.mem_cons.mp later with rfl | inRest
            · exact .inl rfl
            · rcases ih inRest with same | ⟨piece, inPieces, inPiece⟩
              · exact .inl same
              · exact .inr ⟨piece, List.mem_cons_of_mem _ inPieces, inPiece⟩

/-- Dotted addresses are read back: the octets are split at the dots again. -/
theorem dotted_readsBack : ReadsBack parseDotted showDotted := by
  have digits (octet : UInt8) (c : Char) (member : c ∈ (toString octet.toNat).toList)
      : isAsciiDigit c = true :=
    List.all_eq_true.mp (byte_readsBack octet.toNat octet.toNat_lt).2 c member
  have chars (addr : IpAddr)
      : (showDotted addr).toList
        = ['.'].intercalate
            (addr.octets.map (fun octet => (toString octet.toNat).toList)) := by
    rw [showDotted, String.toList_intercalate, List.map_map]
    rfl
  refine ⟨?_, ?_⟩
  · intro addr
    have pieces
        : (showDotted addr).toList.splitOn '.'
          = addr.octets.map (fun octet => (toString octet.toNat).toList) := by
      rw [chars]
      refine List.splitOn_intercalate '.' ?_ ?_
      · intro piece member dot
        obtain ⟨octet, -, rfl⟩ := List.mem_map.mp member
        exact (digit_plain (digits octet '.' dot)).2.2.1 rfl
      · cases addr <;> simp [IpAddr.octets, Vector.toList]
    have octets : (addr.octets.map UInt8.toNat).map UInt8.ofNat = addr.octets := by
      rw [List.map_map]
      exact List.map_id'' (fun octet => UInt8.ofNat_toNat) _
    rw [parseDotted, pieces, mapM_decimal]
    dsimp only
    rw [octets]
    cases addr with
    | v4 octets => simp [IpAddr.octets, Vector.toList]
    | v6 octets => simp [IpAddr.octets, Vector.toList]
  · intro addr c member
    rw [chars] at member
    rcases mem_intercalate member with rfl | ⟨piece, inPieces, inPiece⟩
    · decide
    · obtain ⟨octet, -, rfl⟩ := List.mem_map.mp inPieces
      obtain ⟨slash, comma, -, space⟩ := digit_plain (digits octet c inPiece)
      exact ⟨slash, comma, space⟩

-----------------------------------------------------------------------------------------
-- Whitelists
-----------------------------------------------------------------------------------------

/-- A whitelist that was parsed and is not empty is read back from its printed form, and from a
config file with its printed entries: parsed networks are canonical, and the separators are in no
entry.
-/
theorem whitelist_readsBack (parseAddr : String → Option IpAddr) (showAddr : IpAddr → String)
    (readsBack : ReadsBack parseAddr showAddr) (config : Config)
    (parsed
      : (∃ s, parseWhitelistCsv parseAddr s = .ok config.ipWhitelist)
        ∨ ∃ json, parseWhitelistJson parseAddr json = .ok config.ipWhitelist)
    (nonempty : config.ipWhitelist ≠ [])
    : parseWhitelistCsv parseAddr (config.ipWhitelistRepr showAddr) = .ok config.ipWhitelist
      ∧ ∀ json : Value,
          json.get "ip_whitelist"
            = some (.array (config.ipWhitelist.map (fun net => .string (net.toString showAddr))))
          → parseWhitelistJson parseAddr json = .ok config.ipWhitelist := by
  have canonical : ∀ net ∈ config.ipWhitelist, net.Canonical := by
    rcases parsed with ⟨s, fromCsv⟩ | ⟨json, fromJson⟩
    · exact canonical_of_mapM fromCsv
    · exact canonical_of_json fromJson
  constructor
  · have listed : config.ipWhitelist.isEmpty ≠ true := by simpa using nonempty
    rw [Config.ipWhitelistRepr, if_neg listed, parseWhitelistCsv, csvEntries_spaced]
    · exact readsBack.parse_list canonical
    · simpa using nonempty
    · intro entry member
      obtain ⟨net, -, rfl⟩ := List.mem_map.mp member
      exact readsBack.entry net
  · intro json found
    have items
        : config.ipWhitelist.map (fun net => Value.string (net.toString showAddr))
          = (config.ipWhitelist.map (Cidr.toString showAddr)).map .string :=
      (List.map_map ..).symm
    rw [parseWhitelistJson, found]
    dsimp only
    rw [items, parseItems_texts (mapM_asStr_strings _)]
    exact readsBack.parse_list canonical

theorem whitelist_readsBack_two
    : Config.ipWhitelistRepr showDotted
          { Config.standard "/srv/sqlite" "" with
            ipWhitelist := [⟨.v4 #v[10, 0, 0, 0], 8⟩, ⟨.v4 #v[127, 0, 0, 1], 32⟩] }
        = "10.0.0.0/8, 127.0.0.1/32"
      ∧ parseWhitelistCsv parseDotted "10.0.0.0/8, 127.0.0.1/32"
        = .ok [⟨.v4 #v[10, 0, 0, 0], 8⟩, ⟨.v4 #v[127, 0, 0, 1], 32⟩] := by
  have printed
      : Config.ipWhitelistRepr showDotted
          { Config.standard "/srv/sqlite" "" with
            ipWhitelist := [⟨.v4 #v[10, 0, 0, 0], 8⟩, ⟨.v4 #v[127, 0, 0, 1], 32⟩] }
        = "10.0.0.0/8, 127.0.0.1/32" := by
    decide +kernel
  have given
      : parseWhitelistCsv parseDotted "10.0.0.7/8,127.0.0.1"
        = .ok [⟨.v4 #v[10, 0, 0, 0], 8⟩, ⟨.v4 #v[127, 0, 0, 1], 32⟩] := by
    decide +kernel
  refine ⟨printed, ?_⟩
  rw [← printed]
  exact (whitelist_readsBack parseDotted showDotted dotted_readsBack
    { Config.standard "/srv/sqlite" "" with
      ipWhitelist := [⟨.v4 #v[10, 0, 0, 0], 8⟩, ⟨.v4 #v[127, 0, 0, 1], 32⟩] }
    (.inl ⟨_, given⟩) (List.cons_ne_nil _ _)).1

end SqliteServer
