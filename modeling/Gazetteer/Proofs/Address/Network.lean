/-
Gazetteer.Proofs.Address.Network — which address a block is looked up by.

A mask parts an address into the network that it keeps and the host that it clears,
and the address is made of the two. The range of a block begins at the network. The
look-up in a database keyed by address bits takes the address as it is written, host
and all, so it asks for the network exactly if the host is zero, and of the spellings
of one network it tells apart those whose hosts differ. Nothing else of a text counts:
a database says the same of any two texts with the same address.
-/
import Gazetteer.Proofs.Address.Dotted
import Gazetteer.Proofs.Address.Range
import Gazetteer.Mmdb.Lookup

namespace Gazetteer.Address

open Gazetteer.Text

variable {s t : String} {address address' : V4} {length length' : Nat}

/-! ## Network and host -/

/-- The bits of an address that a mask clears. -/
def V4.host (address : V4) (length : Nat) : V4 := address &&& ~~~V4.mask length

/-- An address is its network and its host. -/
theorem network_or_host (address : V4) (length : Nat) :
    (address &&& V4.mask length) ||| V4.host address length = address := by
  rw [V4.host, ← BitVec.and_or_distrib_left, BitVec.or_not_self, BitVec.and_allOnes]

theorem eq_network_iff : address = address &&& V4.mask length ↔ V4.host address length = 0 := by
  constructor
  · intro h
    have hnone : V4.mask length &&& ~~~V4.mask length = 0#32 := BitVec.and_not_self _
    rw [V4.host, h, BitVec.and_assoc, hnone, BitVec.and_zero]
    rfl
  · intro h
    have hparts := network_or_host address length
    rw [h] at hparts
    exact hparts.symm.trans BitVec.or_zero

theorem first_around (address : V4) (h : length ≤ 32) :
    (Range.around address length).first = address &&& V4.mask length := by
  rw [around_eq_masked address h]
  rfl

/-- Ranges of different mask lengths differ in size. -/
theorem length_eq_of_around_eq (h : length ≤ 32) (h' : length' ≤ 32)
    (heq : Range.around address length = .around address' length') : length = length' := by
  have hsize := (isBlockOf_around address h).size
  have hsize' := (isBlockOf_around address' h').size
  rw [← heq] at hsize'
  have hpow : 2 ^ (32 - length) = 2 ^ (32 - length') := by
    show blockSize length = blockSize length'
    omega
  have hclear := (Nat.pow_right_inj (Nat.lt_succ_self 1)).1 hpow
  omega

/-- Addresses of one network are the same exactly if their hosts are. -/
theorem eq_iff_host_eq (h : length ≤ 32)
    (heq : Range.around address length = .around address' length) :
    address = address' ↔ V4.host address length = V4.host address' length := by
  constructor
  · rintro rfl
    rfl
  · intro hhost
    have hnetwork : address &&& V4.mask length = address' &&& V4.mask length := by
      rw [← first_around address h, ← first_around address' h, heq]
    rw [← network_or_host address length, ← network_or_host address' length, hnetwork, hhost]

/-! ## Block texts -/

/-- A block text spells an address and a mask length. -/
def Spells (s : String) (address : V4) (length : Nat) : Prop :=
  ∃ dotted mask, cut '/' s.toList = some (dotted, mask) ∧ V4.isDotted dotted = true ∧
    V4.encode (String.ofList dotted) = address ∧ maskLength? mask = some length

theorem kind_eq_block_iff_spells : kind s = .block ↔ ∃ address length, Spells s address length := by
  rw [kind_eq_block_iff]
  constructor
  · rintro ⟨dotted, mask, length, hcut, hlength, hdotted⟩
    exact ⟨_, length, dotted, mask, hcut, hdotted, rfl, hlength⟩
  · rintro ⟨_, length, dotted, mask, hcut, hdotted, -, hlength⟩
    exact ⟨dotted, mask, length, hcut, hlength, hdotted⟩

namespace Spells

theorem kind_eq (h : Spells s address length) : kind s = .block :=
  kind_eq_block_iff_spells.2 ⟨address, length, h⟩

theorem length_le (h : Spells s address length) : length ≤ 32 := by
  obtain ⟨dotted, mask, -, -, -, hlength⟩ := h
  exact maskLength?_le hlength

theorem ofBlock?_eq (h : Spells s address length) :
    Range.ofBlock? s = some (.around address length) := by
  have hk := h.kind_eq
  obtain ⟨dotted, mask, hcut, -, rfl, hlength⟩ := h
  exact Address.ofBlock?_eq hk hcut hlength

/-- In ASCII a block is looked up by the address that it spells. -/
theorem numeric?_eq (h : Spells s address length) (ha : IsAscii s.toList) :
    numeric? s = some (.v4 address) := by
  have hk := h.kind_eq
  obtain ⟨dotted, mask, hcut, hdotted, rfl, -⟩ := h
  have hascii : IsAscii (String.ofList dotted).toList := by
    rw [String.toList_ofList]
    intro c hm
    refine ha c ?_
    rw [(cut_eq_some hcut).1]
    exact List.mem_append_left _ hm
  obtain ⟨a, b, c, d, hoctets⟩ :=
    V4.exists_octets hascii (by rwa [String.toList_ofList])
  have hread := hoctets.ofDotted?_eq
  rw [String.toList_ofList] at hread
  rw [numeric?_of_block hk hcut, hread, Option.map_some]

end Spells

/-! ## Look-ups -/

/-- What a database says about a text: a country and a region. -/
def place? (db : Mmdb.Database) (s : String) : Option (String × String) :=
  (db.resolve s).1.map fun found => (found.location.country, found.location.region)

/-- A record says the same of every text. -/
theorem location?_relabel (r : Mmdb.Record) (s t : String) :
    r.location? t = (r.location? s).map fun found => { found with address := t } := by
  unfold Mmdb.Record.location?
  cases r.country.bind Mmdb.english? with
  | none => rfl
  | some country => rfl

theorem find?_relabel (db : Mmdb.Database) (numeric : Numeric) (s t : String) :
    db.find? numeric t = (db.find? numeric s).map fun found => { found with address := t } := by
  unfold Mmdb.Database.find?
  cases db.position? numeric with
  | none => rfl
  | some position =>
    cases hread : Mmdb.record db.data position with
    | none => simp [hread]
    | some found => simp [hread, location?_relabel found.1 s t]

/-- A database says the same of texts with the same address. -/
theorem place?_congr (db : Mmdb.Database) (h : numeric? s = numeric? t) :
    place? db s = place? db t := by
  unfold place? Mmdb.Database.resolve
  rw [h]
  cases numeric? t with
  | none => rfl
  | some numeric =>
    dsimp only
    rw [find?_relabel db numeric s t]
    simp only [Option.map_map]
    rfl

/-- In ASCII a block is looked up by the address that it spells, which is the first of its range
exactly if the host is zero. Spellings of one network are looked up by one address exactly if their
hosts are the same, and then every database says the same of them. -/
theorem block_asked_as_written (s : String) (ha : IsAscii s.toList) (hk : kind s = .block) :
    ∃ address length, Spells s address length ∧
      Range.ofBlock? s = some (.around address length) ∧
      (Range.around address length).first = address &&& V4.mask length ∧
      numeric? s = some (.v4 address) ∧
      (numeric? s = some (.v4 (Range.around address length).first) ↔
        V4.host address length = 0) ∧
      ∀ t, IsAscii t.toList → Range.ofBlock? t = Range.ofBlock? s →
        ∃ address', Spells t address' length ∧
          (numeric? t = numeric? s ↔ V4.host address' length = V4.host address length) ∧
          (V4.host address' length = V4.host address length →
            ∀ db, place? db t = place? db s) := by
  obtain ⟨address, length, hs⟩ := kind_eq_block_iff_spells.1 hk
  have hfirst := first_around address hs.length_le
  have hsnumeric := hs.numeric?_eq ha
  refine ⟨address, length, hs, hs.ofBlock?_eq, hfirst, hsnumeric, ?_, ?_⟩
  · rw [hsnumeric, hfirst, Option.some.injEq, Numeric.v4.injEq, eq_network_iff]
  · intro t hta hrange
    obtain ⟨hkt, -⟩ := ofBlock?_some (hrange.trans hs.ofBlock?_eq)
    obtain ⟨address', length', ht⟩ := kind_eq_block_iff_spells.1 hkt
    have heq : Range.around address' length' = .around address length := by
      rw [ht.ofBlock?_eq, hs.ofBlock?_eq] at hrange
      exact Option.some.inj hrange
    obtain rfl := length_eq_of_around_eq ht.length_le hs.length_le heq
    have hasked : numeric? t = numeric? s ↔ V4.host address' length' = V4.host address length' := by
      rw [ht.numeric?_eq hta, hsnumeric, Option.some.injEq, Numeric.v4.injEq,
        eq_iff_host_eq ht.length_le heq]
    exact ⟨address', ht, hasked, fun hhost db => place?_congr db (hasked.2 hhost)⟩

/-- A network that is written as such is looked up as such, zeros in front or not. -/
theorem block_asked_as_written_network :
    numeric? "192.168.001.0/24" = some (.v4 0xC0A80100) ∧
      Range.ofBlock? "192.168.001.0/24" = some ⟨0xC0A80100, 0xC0A801FF⟩ ∧
      ∀ db, place? db "192.168.1.00/24" = place? db "192.168.001.0/24" := by
  have hrange : Range.ofBlock? "192.168.001.0/24" = some ⟨0xC0A80100, 0xC0A801FF⟩ := by
    decide +kernel
  have hnumeric : numeric? "192.168.001.0/24" = some (.v4 0xC0A80100) := by decide +kernel
  obtain ⟨address, length, -, -, -, -, -, hspellings⟩ :=
    block_asked_as_written "192.168.001.0/24" (by decide +kernel) (by decide +kernel)
  obtain ⟨address', -, hasked, hsame⟩ :=
    hspellings "192.168.1.00/24" (by decide +kernel) (by decide +kernel)
  exact ⟨hnumeric, hrange, hsame (hasked.1 (by decide +kernel))⟩

/-- A database of one node: the addresses whose first bit is set are in a country of this name. -/
def upperHalf : ByteArray :=
  ⟨#[0, 0, 1, 0, 0, 17]⟩ ++ ⟨Array.replicate 16 0⟩
    ++ ⟨#[0xE1, 0x47]⟩ ++ "country".toUTF8 ++ ⟨#[0xE1, 0x45]⟩ ++ "names".toUTF8
    ++ ⟨#[0xE1, 0x42]⟩ ++ "en".toUTF8 ++ ⟨#[0x45]⟩ ++ "Upper".toUTF8
    ++ Mmdb.marker ++ ⟨#[9, 4, 0xA1, 2, 0xA0, 0xA0, 0x40, 0xE0, 0xA1, 4, 0, 4, 0xA1, 1, 0xA1, 24]⟩

/-- Two spellings of the network that holds every address are looked up by different addresses, and
a database can tell them apart. -/
theorem host_bits_asked_for :
    kind "128.0.0.0/0" = .block ∧ kind "0.0.0.0/0" = .block ∧
      Range.ofBlock? "128.0.0.0/0" = some ⟨0, 0xFFFFFFFF⟩ ∧
      Range.ofBlock? "0.0.0.0/0" = some ⟨0, 0xFFFFFFFF⟩ ∧
      numeric? "128.0.0.0/0" = some (.v4 0x80000000) ∧
      ∃ db, Mmdb.Database.ofBytes? upperHalf = some db ∧
        place? db "128.0.0.0/0" = some ("Upper", "") ∧ place? db "0.0.0.0/0" = none := by
  have hplaces : ((Mmdb.Database.ofBytes? upperHalf).map fun db =>
      (place? db "128.0.0.0/0", place? db "0.0.0.0/0")) = some (some ("Upper", ""), none) := by
    decide +kernel
  obtain ⟨db, hopened, hsays⟩ := Option.map_eq_some_iff.1 hplaces
  obtain ⟨hupper, hlower⟩ := Prod.mk.inj hsays
  exact ⟨by decide +kernel, by decide +kernel, by decide +kernel, by decide +kernel,
    by decide +kernel, db, hopened, hupper, hlower⟩

end Gazetteer.Address
