/-
Gazetteer.Proofs.Address.Groups — the grammar of colon-separated addresses.

By the grammar an address is eight groups joined by colons, or at most seven of them
around one double colon that stands for as many zeros as are missing; the last two
may be written as a plain dotted address. The exact reading takes the longest run of
groups that it can. That loses nothing, for after the last group of a run there is
either nothing left or a double colon, and no group begins with a colon. So it reads
what the grammar says, and nothing else.
-/
import Gazetteer.Proofs.Address.Dotted
import Gazetteer.Proofs.Members

namespace Gazetteer.Address

open Gazetteer.Text Members

variable {cs ds rest : List Char} {c : Char} {n : Nat}

namespace V6

/-! ## The parts of an address -/

theorem group?_eq_some_iff :
    group? cs = some (n, rest) ↔ ∃ ds, cs = ds ++ rest ∧ isGroup ds = true ∧ hexValue ds = n ∧
      ∀ c ∈ rest.head?, isHexDigit c = false := by
  unfold group?
  dsimp only
  constructor
  · intro h
    split at h
    · next hgroup =>
      obtain ⟨hvalue, hrest⟩ := Prod.mk.inj (Option.some.inj h)
      obtain ⟨hcs, -, hend⟩ := takeWhile_dropWhile_iff.1 ⟨rfl, hrest⟩
      exact ⟨_, hcs, hgroup, hvalue, hend⟩
    · cases h
  · rintro ⟨ds, hcs, hgroup, hvalue, hend⟩
    have hdigits : ∀ c ∈ ds, isHexDigit c = true := by
      rw [isGroup, Bool.and_eq_true] at hgroup
      exact List.all_eq_true.1 hgroup.2
    obtain ⟨htake, hdrop⟩ := takeWhile_dropWhile_iff.2 ⟨hcs, hdigits, hend⟩
    rw [htake, hdrop, if_pos hgroup, hvalue]

/-- Digits make an octet without zeros in front exactly if they are the decimal of one. -/
theorem plain_octet_iff (hdigits : ∀ c ∈ ds, c.isDigit = true) :
    (1 ≤ ds.length && ds.length ≤ 3 && V4.octetValue ds ≤ 255
        && (ds.length == 1 || ds.head? != some '0')) = true ↔
      V4.octetValue ds ≤ 255 ∧ ds = decimal (V4.octetValue ds) := by
  simp only [Bool.and_eq_true, Bool.or_eq_true, decide_eq_true_eq, beq_iff_eq, bne_iff_ne]
  constructor
  · rintro ⟨⟨⟨hone, -⟩, hle⟩, hplain⟩
    have hne : ds ≠ [] := List.length_pos_iff.1 hone
    have hread : natural? ds = some (Nat.ofDigitChars 10 ds 0) :=
      natural?_eq_some_iff.2 ⟨hne, hdigits, rfl⟩
    have hvalue : V4.octetValue ds = Nat.ofDigitChars 10 ds 0 := by
      rw [V4.octetValue, hread]
      rfl
    refine ⟨hle, ?_⟩
    calc ds = unpadded ds := ((unpadded_eq_self_iff hne).2 hplain).symm
      _ = decimal (V4.octetValue ds) := by rw [unpadded_eq_decimal hread, hvalue]
  · rintro ⟨hle, hds⟩
    generalize V4.octetValue ds = n at hle hds ⊢
    subst hds
    have hne := decimal_ne_nil n
    have hself : unpadded (decimal n) = decimal n := unpadded_eq_decimal (natural?_decimal n)
    have hshort : (decimal n).length ≤ 3 :=
      (Nat.length_toDigits_le_iff (by decide) (by decide)).2 (by omega)
    exact ⟨⟨⟨List.length_pos_iff.2 hne, hshort⟩, hle⟩, (unpadded_eq_self_iff hne).1 hself⟩

/-- An octet that is read is written as its decimal. -/
theorem octet?_eq_some_iff :
    octet? cs = some (n, rest) ↔
      n ≤ 255 ∧ cs = decimal n ++ rest ∧ ∀ c ∈ rest.head?, c.isDigit = false := by
  unfold octet?
  dsimp only
  constructor
  · intro h
    split at h
    · next hplain =>
      obtain ⟨rfl, hrest⟩ := Prod.mk.inj (Option.some.inj h)
      obtain ⟨hcs, hdigits, hend⟩ := takeWhile_dropWhile_iff.1 ⟨rfl, hrest⟩
      obtain ⟨hle, hdecimal⟩ := (plain_octet_iff hdigits).1 hplain
      exact ⟨hle, hcs.trans (congrArg (· ++ rest) hdecimal), hend⟩
    · cases h
  · rintro ⟨hle, hcs, hend⟩
    have hdigits : ∀ c ∈ decimal n, c.isDigit = true := fun c hm => isDigit_of_mem_decimal hm
    have hvalue : V4.octetValue (decimal n) = n := by
      rw [V4.octetValue, natural?_decimal]
      rfl
    obtain ⟨htake, hdrop⟩ := takeWhile_dropWhile_iff.2 ⟨hcs, hdigits, hend⟩
    rw [htake, hdrop, if_pos ((plain_octet_iff hdigits).2 (by rw [hvalue]; exact ⟨hle, rfl⟩)), hvalue]

theorem after?_eq_some_iff : after? c cs = some rest ↔ cs = c :: rest := by
  cases cs with
  | nil => simp [after?]
  | cons d cs =>
    simp only [after?, Option.ite_none_right_eq_some, Option.some.injEq, List.cons.injEq]

/-- Four octets are written as the address of their weight. -/
theorem dotted_ofNat_weight {a b c d : Nat} (ha : a ≤ 255) (hb : b ≤ 255) (hc : c ≤ 255)
    (hd : d ≤ 255) :
    (BitVec.ofNat 32 (V4.weight a b c d)).toNat = V4.weight a b c d ∧
      V4.dotted (BitVec.ofNat 32 (V4.weight a b c d)) =
        decimal a ++ '.' :: (decimal b ++ '.' :: (decimal c ++ '.' :: decimal d)) := by
  have hvalue : (BitVec.ofNat 32 (V4.weight a b c d)).toNat = V4.weight a b c d := by
    rw [BitVec.toNat_ofNat]
    exact Nat.mod_eq_of_lt (by unfold V4.weight; omega)
  refine ⟨hvalue, ?_⟩
  have h1 : V4.weight a b c d / 0x1000000 = a := by unfold V4.weight; omega
  have h2 : V4.weight a b c d / 0x10000 % 0x100 = b := by unfold V4.weight; omega
  have h3 : V4.weight a b c d / 0x100 % 0x100 = c := by unfold V4.weight; omega
  have h4 : V4.weight a b c d % 0x100 = d := by unfold V4.weight; omega
  rw [V4.dotted_eq, hvalue, h1, h2, h3, h4]

/-- A plain dotted address stands for two groups. -/
theorem quad?_eq_some_iff {high low : Nat} :
    quad? cs = some (high, low, rest) ↔ ∃ v : V4, cs = V4.dotted v ++ rest ∧
      v.toNat / 65536 = high ∧ v.toNat % 65536 = low ∧ ∀ c ∈ rest.head?, c.isDigit = false := by
  have hdot (rest : List Char) : ∀ c ∈ ('.' :: rest).head?, c.isDigit = false := by
    intro c hc
    obtain rfl := Option.some.inj hc
    decide
  unfold quad?
  simp only [Option.bind_eq_bind, Option.bind_eq_some_iff, Option.pure_def, Option.some.injEq,
    Prod.exists, Prod.mk.injEq, octet?_eq_some_iff, after?_eq_some_iff]
  constructor
  · rintro ⟨a, _, ⟨ha, rfl, -⟩, _, rfl, b, _, ⟨hb, rfl, -⟩, _, rfl, c, _, ⟨hc, rfl, -⟩, _, rfl, d, _,
      ⟨hd, rfl, hend⟩, rfl, rfl, rfl⟩
    obtain ⟨hvalue, hdotted⟩ := dotted_ofNat_weight ha hb hc hd
    refine ⟨BitVec.ofNat 32 (V4.weight a b c d), ?_, ?_, ?_, hend⟩
    · simp [hdotted]
    · rw [hvalue]
      unfold V4.weight
      omega
    · rw [hvalue]
      unfold V4.weight
      omega
  · rintro ⟨v, rfl, rfl, rfl, hend⟩
    have hlt := v.isLt
    refine ⟨v.toNat / 0x1000000, _, ⟨by omega, ?_, hdot _⟩, _, rfl, v.toNat / 0x10000 % 0x100, _,
      ⟨by omega, rfl, hdot _⟩, _, rfl, v.toNat / 0x100 % 0x100, _, ⟨by omega, rfl, hdot _⟩, _, rfl,
      v.toNat % 0x100, _, ⟨by omega, rfl, hend⟩, by omega, by omega, rfl⟩
    simp [V4.dotted_eq]

/-! ## Runs of groups -/

/-- Groups joined by colons, as a text and as numbers; the last two may be a plain dotted address. -/
inductive Written : (endsDotted : Bool) → List Char → List Nat → Prop where
  | group {cs : List Char} (h : isGroup cs = true) : Written false cs [hexValue cs]
  | dotted (v : V4) : Written true (V4.dotted v) [v.toNat / 65536, v.toNat % 65536]
  | cons {endsDotted : Bool} {cs rest : List Char} {groups : List Nat} (h : isGroup cs = true)
    (more : Written endsDotted rest groups) :
    Written endsDotted (cs ++ ':' :: rest) (hexValue cs :: groups)

/-- The text of a run behind the colon that all but the first run follow. -/
def led (isFirst : Bool) (cs : List Char) : List Char := if isFirst then cs else ':' :: cs

/-- The text at which a run begins. -/
def start? (isFirst : Bool) (cs : List Char) : Option (List Char) :=
  if isFirst then some cs else after? ':' cs

theorem start?_eq_some_iff {isFirst : Bool} : start? isFirst cs = some ds ↔ cs = led isFirst ds := by
  cases isFirst with
  | true => simp [start?, led]
  | false => exact after?_eq_some_iff

theorem start?_led (isFirst : Bool) (cs : List Char) : start? isFirst (led isFirst cs) = some cs :=
  start?_eq_some_iff.2 rfl

section Turns

variable {isFirst : Bool} {room high low value : Nat}

theorem run_succ (isFirst : Bool) (room : Nat) (cs : List Char) :
    run isFirst (room + 1) cs =
      match if room = 0 then none else (start? isFirst cs).bind quad? with
      | some (high, low, rest) => ⟨[high, low], true, rest⟩
      | none =>
        match (start? isFirst cs).bind group? with
        | none => ⟨[], false, cs⟩
        | some (value, rest) =>
          let next := run false room rest
          ⟨value :: next.groups, next.endsDotted, next.rest⟩ := rfl

/-- A run with a dotted address in front ends behind it. -/
theorem run_dotted (hroom : room ≠ 0)
    (h : (start? isFirst cs).bind quad? = some (high, low, rest)) :
    run isFirst (room + 1) cs = ⟨[high, low], true, rest⟩ := by
  rw [run_succ, if_neg hroom, h]

theorem noQuad (h : room = 0 ∨ (start? isFirst cs).bind quad? = none) :
    (if room = 0 then none else (start? isFirst cs).bind quad?) = none := by
  split
  · rfl
  · next hroom => exact h.resolve_left hroom

/-- A run with a group in front goes on behind it. -/
theorem run_group (hquad : room = 0 ∨ (start? isFirst cs).bind quad? = none)
    (h : (start? isFirst cs).bind group? = some (value, rest)) :
    run isFirst (room + 1) cs = ⟨value :: (run false room rest).groups,
      (run false room rest).endsDotted, (run false room rest).rest⟩ := by
  rw [run_succ, noQuad hquad, h]

theorem run_stop (hquad : room = 0 ∨ (start? isFirst cs).bind quad? = none)
    (h : (start? isFirst cs).bind group? = none) :
    run isFirst (room + 1) cs = ⟨[], false, cs⟩ := by
  rw [run_succ, noQuad hquad, h]

end Turns

/-- What is read of a run is written there. -/
structure IsRead (isFirst : Bool) (room : Nat) (cs : List Char) (r : Run) : Prop where
  fits : r.groups.length ≤ room
  reads : r = ⟨[], false, cs⟩ ∨
    ∃ text, cs = led isFirst (text ++ r.rest) ∧ Written r.endsDotted text r.groups

theorem isRead_nothing (isFirst : Bool) (room : Nat) (cs : List Char) :
    IsRead isFirst room cs ⟨[], false, cs⟩ := ⟨Nat.zero_le _, .inl rfl⟩

/-- A group in front of a run is one of it. -/
theorem IsRead.cons {isFirst : Bool} {room : Nat} {r : Run} (h : IsRead false room rest r)
    (hcs : cs = led isFirst (ds ++ rest)) (hds : isGroup ds = true) :
    IsRead isFirst (room + 1) cs ⟨hexValue ds :: r.groups, r.endsDotted, r.rest⟩ := by
  refine ⟨Nat.succ_le_succ h.fits, .inr ?_⟩
  obtain rfl | ⟨text, htext, hwritten⟩ := h.reads
  · exact ⟨ds, hcs, .group hds⟩
  · refine ⟨ds ++ ':' :: text, ?_, .cons hds hwritten⟩
    rw [hcs, htext]
    simp [led]

theorem isRead_run (isFirst : Bool) (room : Nat) (cs : List Char) :
    IsRead isFirst room cs (run isFirst room cs) := by
  induction room generalizing isFirst cs with
  | zero => exact isRead_nothing isFirst 0 cs
  | succ room ih =>
    have htail (hquad : room = 0 ∨ (start? isFirst cs).bind quad? = none) :
        IsRead isFirst (room + 1) cs (run isFirst (room + 1) cs) := by
      cases hgroup : (start? isFirst cs).bind group? with
      | none =>
        rw [run_stop hquad hgroup]
        exact isRead_nothing isFirst _ cs
      | some found =>
        obtain ⟨value, rest⟩ := found
        obtain ⟨ds, hstart, hds⟩ := Option.bind_eq_some_iff.1 hgroup
        obtain ⟨digits, rfl, hdigits, rfl, -⟩ := group?_eq_some_iff.1 hds
        rw [run_group hquad hgroup]
        exact (ih false rest).cons (start?_eq_some_iff.1 hstart) hdigits
    by_cases hroom : room = 0
    · exact htail (.inl hroom)
    · cases hquad : (start? isFirst cs).bind quad? with
      | none => exact htail (.inr hquad)
      | some found =>
        obtain ⟨high, low, rest⟩ := found
        obtain ⟨ds, hstart, hds⟩ := Option.bind_eq_some_iff.1 hquad
        obtain ⟨v, rfl, rfl, rfl, -⟩ := quad?_eq_some_iff.1 hds
        rw [run_dotted hroom hquad]
        refine ⟨by simp only [List.length_cons, List.length_nil]; omega, .inr ?_⟩
        exact ⟨V4.dotted v, start?_eq_some_iff.1 hstart, .dotted v⟩

/-- Where a run can end: at the end of the text, or before a double colon. -/
def EndsRun (rest : List Char) : Prop := rest = [] ∨ ∃ back, rest = ':' :: ':' :: back

theorem isHexDigit_of_isDigit (h : c.isDigit = true) : isHexDigit c = true := by
  simp [isHexDigit, h]

theorem isHexDigit_of_isGroup (h : isGroup ds = true) : ∀ c ∈ ds, isHexDigit c = true := by
  rw [isGroup, Bool.and_eq_true] at h
  exact List.all_eq_true.1 h.2

/-- In a dotted address it is a dot that follows the digits in front. -/
theorem quad?_eq_none (hds : ∀ c ∈ ds, isHexDigit c = true)
    (hrest : ∀ c ∈ rest.head?, c = ':') : quad? (ds ++ rest) = none := by
  cases hquad : quad? (ds ++ rest) with
  | none => rfl
  | some found =>
    obtain ⟨high, low, after⟩ := found
    obtain ⟨v, hcs, -⟩ := quad?_eq_some_iff.1 hquad
    rw [V4.dotted_eq, List.append_assoc, List.cons_append] at hcs
    have hcolon : ∀ c ∈ rest.head?, isHexDigit c = false := by
      intro c hc
      obtain rfl := hrest c hc
      decide
    have hdigits : ∀ c ∈ decimal (v.toNat / 0x1000000), isHexDigit c = true :=
      fun c hm => isHexDigit_of_isDigit (isDigit_of_mem_decimal hm)
    have hdot (more : List Char) : ∀ c ∈ ('.' :: more).head?, isHexDigit c = false := by
      intro c hc
      obtain rfl := Option.some.inj hc
      decide
    have hleft := (takeWhile_dropWhile_iff.2 ⟨rfl, hds, hcolon⟩).2
    have hright := (takeWhile_dropWhile_iff.2 ⟨hcs, hdigits, hdot _⟩).2
    rw [hleft] at hright
    rw [hright] at hrest
    exact absurd (hrest '.' rfl) (by decide)

theorem group?_append (hds : isGroup ds = true) (hrest : ∀ c ∈ rest.head?, c = ':') :
    group? (ds ++ rest) = some (hexValue ds, rest) := by
  refine group?_eq_some_iff.2 ⟨ds, rfl, hds, rfl, ?_⟩
  intro c hc
  obtain rfl := hrest c hc
  decide

theorem group?_eq_none (h : ∀ c ∈ cs.head?, c = ':') : group? cs = none := by
  cases cs with
  | nil => rfl
  | cons c cs =>
    obtain rfl := h c rfl
    rfl

theorem EndsRun.head? (h : EndsRun rest) : ∀ c ∈ rest.head?, c = ':' := by
  intro c hc
  obtain rfl | ⟨back, rfl⟩ := h
  · cases hc
  · exact (Option.some.inj hc).symm

/-- A run that can end does, for no part of an address begins with a colon. -/
theorem run_end (isFirst : Bool) (room : Nat) (h : EndsRun rest) :
    run isFirst room rest = ⟨[], false, rest⟩ := by
  cases room with
  | zero => rfl
  | succ room =>
    have hhead (ds : List Char) (hstart : start? isFirst rest = some ds) :
        ∀ c ∈ ds.head?, c = ':' := by
      cases isFirst with
      | true =>
        obtain rfl := Option.some.inj hstart
        exact h.head?
      | false =>
        obtain rfl | ⟨back, rfl⟩ := h
        · cases hstart
        · obtain rfl := Option.some.inj hstart
          intro c hc
          exact (Option.some.inj hc).symm
    refine run_stop (.inr ?_) ?_
    · refine Option.bind_eq_none_iff.2 fun ds hstart => ?_
      exact quad?_eq_none (fun _ hm => absurd hm List.not_mem_nil) (hhead ds hstart)
    · exact Option.bind_eq_none_iff.2 fun ds hstart => group?_eq_none (hhead ds hstart)

/-- What is written of a run is read. -/
theorem Written.run {endsDotted : Bool} {text : List Char} {groups : List Nat}
    (h : Written endsDotted text groups) (isFirst : Bool) {room : Nat}
    (hroom : groups.length ≤ room) (hrest : EndsRun rest) :
    V6.run isFirst room (led isFirst (text ++ rest)) = ⟨groups, endsDotted, rest⟩ := by
  induction h generalizing isFirst room with
  | @group ds hds =>
    obtain ⟨room, rfl⟩ := Nat.exists_eq_add_of_le' hroom
    have hquad := quad?_eq_none (isHexDigit_of_isGroup hds) hrest.head?
    have hgroup := group?_append hds hrest.head?
    rw [List.length_singleton, run_group (.inr (by rw [start?_led]; exact hquad))
      (by rw [start?_led]; exact hgroup), run_end false room hrest]
  | dotted v =>
    obtain ⟨room, rfl⟩ := Nat.exists_eq_add_of_le' hroom
    have hend : ∀ c ∈ rest.head?, c.isDigit = false := by
      intro c hc
      obtain rfl := hrest.head? c hc
      decide
    refine run_dotted (Nat.succ_ne_zero room) ?_
    rw [start?_led]
    exact quad?_eq_some_iff.2 ⟨v, rfl, rfl, rfl, hend⟩
  | @cons endsDotted ds more groups hds hmore ih =>
    obtain ⟨room, rfl⟩ := Nat.exists_eq_add_of_le' hroom
    have hcolon : ∀ c ∈ (led false (more ++ rest)).head?, c = ':' :=
      fun c hc => (Option.some.inj hc).symm
    have hquad := quad?_eq_none (isHexDigit_of_isGroup hds) hcolon
    have hgroup := group?_append hds hcolon
    have htext : ds ++ ':' :: more ++ rest = ds ++ led false (more ++ rest) := by simp [led]
    rw [htext, List.length_cons, ← Nat.add_assoc, run_group (.inr (by rw [start?_led]; exact hquad))
      (by rw [start?_led]; exact hgroup), ih false (Nat.le_add_left _ _)]

/-! ## Whole addresses -/

/-- What may stand beside a double colon: nothing, or groups joined by colons. -/
inductive Side : (endsDotted : Bool) → List Char → List Nat → Prop where
  | nothing : Side false [] []
  | groups {endsDotted : Bool} {cs : List Char} {groups : List Nat}
    (h : Written endsDotted cs groups) : Side endsDotted cs groups

/-- What an address text denotes: eight groups, or at most seven around one double colon that
stands for the zeros between them. -/
inductive Denotes : List Char → V6 → Prop where
  | full {endsDotted : Bool} {cs : List Char} {groups : List Nat}
    (h : Written endsDotted cs groups) (height : groups.length = 8) : Denotes cs (ofGroups groups)
  | compressed {endsDotted : Bool} {front back : List Char} {ms ns : List Nat}
    (hfront : Side false front ms) (hback : Side endsDotted back ns)
    (hroom : ms.length + ns.length ≤ 7) :
    Denotes (front ++ ':' :: ':' :: back)
      (ofGroups (ms ++ List.replicate (8 - ms.length - ns.length) 0 ++ ns))

/-- What is read at the head of a text is a side. -/
theorem IsRead.side {room : Nat} {r : Run} (h : IsRead true room cs r) :
    ∃ text, cs = text ++ r.rest ∧ Side r.endsDotted text r.groups := by
  obtain rfl | ⟨text, hcs, hwritten⟩ := h.reads
  · exact ⟨[], rfl, .nothing⟩
  · exact ⟨text, hcs, .groups hwritten⟩

/-- A side is read to its end. -/
theorem Side.run {endsDotted : Bool} {text : List Char} {groups : List Nat} {room : Nat}
    (h : Side endsDotted text groups) (hroom : groups.length ≤ room) (hrest : EndsRun rest) :
    V6.run true room (text ++ rest) = ⟨groups, endsDotted, rest⟩ := by
  cases h with
  | nothing => exact run_end true room hrest
  | groups h => exact h.run true hroom hrest

theorem Side.written {endsDotted : Bool} {text : List Char} {groups : List Nat}
    (h : Side endsDotted text groups) (hne : groups ≠ []) : Written endsDotted text groups := by
  cases h with
  | nothing => exact absurd rfl hne
  | groups h => exact h

/-- An address that is read is written there. -/
theorem denotes_of_ofText? {a : V6} (h : ofText? cs = some a) : Denotes cs a := by
  obtain ⟨front, hcs, hfront⟩ := (isRead_run true 8 cs).side
  have hfits := (isRead_run true 8 cs).fits
  unfold ofText? at h
  generalize V6.run true 8 cs = r at h hcs hfront hfits
  dsimp only at h
  split at h
  · next height =>
    split at h
    · next hend =>
      obtain rfl := Option.some.inj h
      rw [hcs, List.isEmpty_iff.1 hend, List.append_nil]
      exact .full (hfront.written (List.ne_nil_of_length_eq_add_one height)) height
    · cases h
  · next height =>
    split at h
    · cases h
    · next hplain =>
      rw [Bool.not_eq_true] at hplain
      split at h
      · next rest hrest =>
        obtain ⟨back, hback, hside⟩ := (isRead_run true (7 - r.groups.length) rest).side
        have hfits' := (isRead_run true (7 - r.groups.length) rest).fits
        split at h
        · next hend =>
          obtain rfl := Option.some.inj h
          rw [List.isEmpty_iff.1 hend, List.append_nil] at hback
          rw [hplain] at hfront
          rw [← hback] at hside
          rw [hcs, hrest]
          exact .compressed hfront hside (by omega)
        · cases h
      · cases h

/-- An address that is written is read. -/
theorem Denotes.ofText? {a : V6} (h : Denotes cs a) : V6.ofText? cs = some a := by
  cases h with
  | @full endsDotted cs groups h height =>
    have hrun := h.run true (Nat.le_of_eq height) (.inl rfl)
    rw [List.append_nil] at hrun
    simp [V6.ofText?, show V6.run true 8 cs = ⟨groups, endsDotted, []⟩ from hrun, height]
  | @compressed endsDotted front back ms ns hfront hback hroom =>
    have hrun : V6.run true 8 (front ++ ':' :: ':' :: back) = ⟨ms, false, ':' :: ':' :: back⟩ :=
      hfront.run (by omega) (.inr ⟨back, rfl⟩)
    have hrun' : V6.run true (7 - ms.length) back = ⟨ns, endsDotted, []⟩ := by
      have hrun' := hback.run (show ns.length ≤ 7 - ms.length by omega) (.inl rfl)
      rwa [List.append_nil] at hrun'
    simp [V6.ofText?, hrun, hrun', show ms.length ≠ 8 by omega]

/-- A text is read as the address that it denotes. -/
theorem ofText?_eq_some_iff {a : V6} : ofText? cs = some a ↔ Denotes cs a :=
  ⟨denotes_of_ofText?, Denotes.ofText?⟩

end V6

end Gazetteer.Address
