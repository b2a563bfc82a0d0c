/-
Gazetteer.Proofs.Address.Colons — which texts are taken for colon-separated addresses.

A text is taken for one if it denotes an address or fits one of two coarser patterns.
The pattern of eight groups lets in nothing more. The pattern around a double colon
does not count the groups, and a text is crowded if there are more of them than the
double colon leaves room for. Crowded texts denote no address, so they are exactly the
texts that are taken for an address and turned away when its bits are asked for.
-/
import Gazetteer.Proofs.Address.Grammar
import Gazetteer.Proofs.Address.Groups
import Gazetteer.Mmdb.Lookup

namespace Gazetteer.Address

open Gazetteer.Text

variable {cs : List Char} {s : String}

namespace V6

variable {endsDotted : Bool} {front back : List Char} {groups ms ns : List Nat}

/-! ## The digit patterns -/

theorem colon_not_mem_of_isGroup (h : isGroup cs = true) : ':' ∉ cs := by
  intro hm
  exact absurd (isHexDigit_of_isGroup h ':' hm) (by decide)

theorem splitOn_written (h : Written endsDotted cs groups) (hplain : endsDotted = false) :
    (∀ part ∈ cs.splitOn ':', isGroup part = true) ∧ groups = (cs.splitOn ':').map hexValue := by
  induction h with
  | @group ds hds =>
    rw [List.splitOn_eq_singleton (colon_not_mem_of_isGroup hds)]
    exact ⟨by simpa using hds, rfl⟩
  | dotted v => cases hplain
  | @cons endsDotted ds more groups hds hmore ih =>
    obtain ⟨hall, rfl⟩ := ih hplain
    rw [List.splitOn_append_cons_self_of_not_mem (colon_not_mem_of_isGroup hds)]
    exact ⟨List.forall_mem_cons.2 ⟨hds, hall⟩, rfl⟩

theorem written_intercalate {parts : List (List Char)} (hne : parts ≠ [])
    (hall : ∀ part ∈ parts, isGroup part = true) :
    Written false ([':'].intercalate parts) (parts.map hexValue) := by
  induction parts with
  | nil => exact absurd rfl hne
  | cons part parts ih =>
    obtain ⟨hpart, hparts⟩ := List.forall_mem_cons.1 hall
    cases parts with
    | nil => simpa using Written.group hpart
    | cons next parts =>
      rw [List.intercalate_cons_cons]
      simpa using Written.cons hpart (ih (List.cons_ne_nil next parts) hparts)

/-- Groups joined by colons are what the colons part. -/
theorem written_false_iff :
    Written false cs groups ↔
      (∀ part ∈ cs.splitOn ':', isGroup part = true) ∧
        groups = (cs.splitOn ':').map hexValue := by
  constructor
  · intro h
    exact splitOn_written h rfl
  · rintro ⟨hall, rfl⟩
    have hwritten := written_intercalate (List.splitOn_ne_nil ':' cs) hall
    rwa [List.intercalate_splitOn] at hwritten

theorem isFull_iff : isFull cs = true ↔ ∃ groups, Written false cs groups ∧ groups.length = 8 := by
  simp only [isFull, Bool.and_eq_true, beq_iff_eq, List.all_eq_true, written_false_iff]
  constructor
  · rintro ⟨height, hall⟩
    exact ⟨_, ⟨hall, rfl⟩, by rw [List.length_map, height]⟩
  · rintro ⟨groups, ⟨hall, rfl⟩, height⟩
    exact ⟨by rwa [List.length_map] at height, hall⟩

theorem isGroupRun_iff : isGroupRun cs = true ↔ ∃ groups, Side false cs groups := by
  simp only [isGroupRun, Bool.or_eq_true, List.isEmpty_iff, List.all_eq_true]
  constructor
  · rintro (rfl | hall)
    · exact ⟨[], .nothing⟩
    · exact ⟨_, .groups (written_false_iff.2 ⟨hall, rfl⟩)⟩
  · rintro ⟨groups, h⟩
    cases h with
    | nothing => exact .inl rfl
    | groups h => exact .inr (written_false_iff.1 h).1

/-- No text of groups begins with a colon. -/
theorem Written.exists_cons (h : Written false cs groups) : ∃ c rest, cs = c :: rest ∧ c ≠ ':' := by
  have hgroup {ds : List Char} (hds : isGroup ds = true) (more : List Char) :
      ∃ c rest, ds ++ more = c :: rest ∧ c ≠ ':' := by
    cases ds with
    | nil => cases hds
    | cons c ds =>
      refine ⟨c, ds ++ more, rfl, ?_⟩
      rintro rfl
      exact colon_not_mem_of_isGroup hds List.mem_cons_self
  cases h with
  | group hds => simpa using hgroup hds []
  | cons hds hmore => exact hgroup hds _

/-- Groups joined by colons have no double colon. -/
theorem cutPair_written (h : Written endsDotted front groups) (hplain : endsDotted = false) :
    cutPair ':' (front ++ ':' :: ':' :: back) = some (front, back) := by
  induction h with
  | @group ds hds =>
    rw [cutPair_append_of_not_mem (colon_not_mem_of_isGroup hds)]
    simp [cutPair]
  | dotted v => cases hplain
  | @cons endsDotted ds more groups hds hmore ih =>
    subst hplain
    obtain ⟨c, rest, rfl, hc⟩ := hmore.exists_cons
    rw [List.append_assoc, cutPair_append_of_not_mem (colon_not_mem_of_isGroup hds),
      List.cons_append, List.cons_append, cutPair_cons_cons_of_ne hc, ← List.cons_append, ih rfl]
    rfl

theorem isCompressed_iff :
    isCompressed cs = true ↔ ∃ front back ms ns, cs = front ++ ':' :: ':' :: back ∧
      Side false front ms ∧ Side false back ns := by
  unfold isCompressed
  constructor
  · intro h
    split at h
    · next front back hcut =>
      obtain ⟨hfront, hback⟩ := Bool.and_eq_true_iff.1 h
      obtain ⟨ms, hms⟩ := isGroupRun_iff.1 hfront
      obtain ⟨ns, hns⟩ := isGroupRun_iff.1 hback
      exact ⟨front, back, ms, ns, cutPair_eq_some hcut, hms, hns⟩
    · cases h
  · rintro ⟨front, back, ms, ns, rfl, hms, hns⟩
    have hcut : cutPair ':' (front ++ ':' :: ':' :: back) = some (front, back) := by
      cases hms with
      | nothing => simp [cutPair]
      | groups hms => exact cutPair_written hms rfl
    rw [hcut]
    exact Bool.and_eq_true_iff.2 ⟨isGroupRun_iff.2 ⟨ms, hms⟩, isGroupRun_iff.2 ⟨ns, hns⟩⟩

/-! ## Crowded texts -/

/-- Groups around a double colon that leaves them no room. -/
def IsCrowded (cs : List Char) : Prop :=
  ∃ front back ms ns, cs = front ++ ':' :: ':' :: back ∧ Side false front ms ∧
    Side false back ns ∧ 8 ≤ ms.length + ns.length

/-- The side that a text begins with is one and the same, for a reader with room enough finds it. -/
theorem Side.unique {endsDotted' : Bool} {rest rest' : List Char} (h : Side endsDotted front ms)
    (h' : Side endsDotted' back ns) (hrest : EndsRun rest) (hrest' : EndsRun rest')
    (heq : front ++ rest = back ++ rest') : ms = ns ∧ rest = rest' := by
  have hrun := h.run (Nat.le_add_right ms.length ns.length) hrest
  have hrun' := h'.run (Nat.le_add_left ns.length ms.length) hrest'
  rw [heq, hrun'] at hrun
  obtain ⟨hgroups, -, hend⟩ := Run.mk.inj hrun
  exact ⟨hgroups.symm, hend.symm⟩

/-- A crowded text denotes no address. -/
theorem IsCrowded.not_denotes (h : IsCrowded cs) (a : V6) : ¬ Denotes cs a := by
  obtain ⟨front, back, ms, ns, hcs, hfront, hback, hcrowd⟩ := h
  have hpair (back : List Char) : EndsRun (':' :: ':' :: back) := .inr ⟨back, rfl⟩
  intro hdenotes
  cases hdenotes with
  | full hwritten height =>
    rw [← List.append_nil cs] at hcs
    obtain ⟨-, hrest⟩ := (Side.groups hwritten).unique hfront (.inl rfl) (hpair back) hcs
    cases hrest
  | @compressed endsDotted front' back' ms' ns' hfront' hback' hroom =>
    obtain ⟨rfl, hrest⟩ := hfront'.unique hfront (hpair back') (hpair back) hcs
    obtain ⟨rfl⟩ : back' = back := (List.cons.inj (List.cons.inj hrest).2).2
    obtain ⟨rfl, -⟩ := hback'.unique hback (.inl rfl) (.inl rfl) rfl
    omega

/-! ## Characters -/

theorem Written.slash_not_mem (h : Written endsDotted cs groups) : '/' ∉ cs := by
  have hgroup {ds : List Char} (hds : isGroup ds = true) : '/' ∉ ds := by
    intro hm
    exact absurd (isHexDigit_of_isGroup hds '/' hm) (by decide)
  induction h with
  | group hds => exact hgroup hds
  | dotted v => exact V4.slash_not_mem_dotted v
  | cons hds hmore ih => simp [hgroup hds, ih]

theorem Side.slash_not_mem (h : Side endsDotted cs groups) : '/' ∉ cs := by
  cases h with
  | nothing => exact List.not_mem_nil
  | groups h => exact h.slash_not_mem

/-- A colon-separated address has a colon and no slash. -/
theorem Denotes.mem {a : V6} (h : Denotes cs a) : '/' ∉ cs ∧ ':' ∈ cs := by
  cases h with
  | full hwritten height =>
    refine ⟨hwritten.slash_not_mem, ?_⟩
    cases hwritten with
    | group hds => cases height
    | dotted v => cases height
    | cons hds hmore => simp
  | compressed hfront hback hroom =>
    simp [hfront.slash_not_mem, hback.slash_not_mem]

theorem IsCrowded.mem (h : IsCrowded cs) : '/' ∉ cs ∧ ':' ∈ cs := by
  obtain ⟨front, back, ms, ns, rfl, hfront, hback, -⟩ := h
  simp [hfront.slash_not_mem, hback.slash_not_mem]

end V6

/-! ## Texts -/

theorem not_isDotted_of_colon (h : ':' ∈ cs) : V4.isDotted cs = false := by
  cases hdotted : V4.isDotted cs with
  | false => rfl
  | true => exact absurd (V4.mem_of_isDotted hdotted ':' h) (by decide)

/-- A text without a slash that is no dotted address is put to three readers. -/
theorem kind_eq_v6_iff_reads :
    kind s = .v6 ↔ '/' ∉ s.toList ∧ V4.isDotted s.toList = false ∧
      (V6.isFull s.toList = true ∨ V6.isCompressed s.toList = true ∨
        ∃ a, V6.ofText? s.toList = some a) := by
  by_cases hslash : '/' ∈ s.toList
  · obtain hk | hk := kind_of_slash hslash
    · simp [hk, hslash]
    · simp [hk, hslash]
  · rw [kind_of_not_slash hslash, and_iff_right hslash, ← Option.isSome_iff_exists,
      ← Bool.or_eq_true, ← Bool.or_eq_true, ← Bool.or_assoc]
    split
    · next hdotted => simp [hdotted]
    · next hdotted =>
      rw [Bool.not_eq_true] at hdotted
      split
      · next hreads => exact iff_of_true rfl ⟨hdotted, hreads⟩
      · next hreads => exact iff_of_false (by simp) fun h => hreads h.2

/-- What is taken for an address denotes one or is crowded. -/
theorem kind_eq_v6_iff :
    kind s = .v6 ↔ (∃ a, V6.Denotes s.toList a) ∨ V6.IsCrowded s.toList := by
  rw [kind_eq_v6_iff_reads]
  constructor
  · rintro ⟨-, -, hfull | hcompressed | ⟨a, hread⟩⟩
    · obtain ⟨groups, hwritten, height⟩ := V6.isFull_iff.1 hfull
      exact .inl ⟨_, .full hwritten height⟩
    · obtain ⟨front, back, ms, ns, hcs, hfront, hback⟩ := V6.isCompressed_iff.1 hcompressed
      rw [hcs]
      by_cases hroom : ms.length + ns.length ≤ 7
      · exact .inl ⟨_, .compressed hfront hback hroom⟩
      · exact .inr ⟨front, back, ms, ns, rfl, hfront, hback, by omega⟩
    · exact .inl ⟨a, V6.ofText?_eq_some_iff.1 hread⟩
  · rintro (⟨a, hdenotes⟩ | hcrowded)
    · obtain ⟨hslash, hcolon⟩ := hdenotes.mem
      exact ⟨hslash, not_isDotted_of_colon hcolon, .inr (.inr ⟨a, hdenotes.ofText?⟩)⟩
    · obtain ⟨hslash, hcolon⟩ := hcrowded.mem
      obtain ⟨front, back, ms, ns, hcs, hfront, hback, -⟩ := hcrowded
      exact ⟨hslash, not_isDotted_of_colon hcolon,
        .inr (.inl (V6.isCompressed_iff.2 ⟨front, back, ms, ns, hcs, hfront, hback⟩))⟩

/-- A text is asked for by the address that it denotes. -/
theorem numeric?_eq_v6_iff {a : V6} : numeric? s = some (.v6 a) ↔ V6.Denotes s.toList a := by
  constructor
  · intro h
    unfold numeric? at h
    split at h
    · obtain ⟨v, -, hv⟩ := Option.map_eq_some_iff.1 h
      cases hv
    · obtain ⟨b, hread, hb⟩ := Option.map_eq_some_iff.1 h
      obtain rfl := Numeric.v6.inj hb
      exact V6.ofText?_eq_some_iff.1 hread
    · obtain ⟨⟨address, mask⟩, -, hmap⟩ := Option.bind_eq_some_iff.1 h
      obtain ⟨v, -, hv⟩ := Option.map_eq_some_iff.1 hmap
      cases hv
    · cases h
  · intro h
    rw [numeric?_of_v6 (kind_eq_v6_iff.2 (.inl ⟨a, h⟩)), h.ofText?, Option.map_some]

/-- What is taken for an address has none exactly if it is crowded. -/
theorem numeric?_eq_none_iff (hk : kind s = .v6) :
    numeric? s = none ↔ V6.IsCrowded s.toList := by
  constructor
  · intro hnone
    refine (kind_eq_v6_iff.1 hk).resolve_left ?_
    rintro ⟨a, hdenotes⟩
    rw [numeric?_eq_v6_iff.2 hdenotes] at hnone
    cases hnone
  · intro hcrowded
    rw [numeric?_of_v6 hk, Option.map_eq_none_iff, Option.eq_none_iff_forall_ne_some]
    intro a hread
    exact hcrowded.not_denotes a (V6.ofText?_eq_some_iff.1 hread)

/-- A look-up turns a text away exactly if the text has no address. -/
theorem resolve_notices (db : Mmdb.Database) (s : String) :
    (db.resolve s).2 = [.unreadableAddress] ↔ numeric? s = none := by
  unfold Mmdb.Database.resolve
  split
  · next hnone => simp [hnone]
  · next hsome => simp [hsome]

/-- The exact reading finds the address that a text denotes and no other, and a text is asked for by
it. Besides the texts that denote an address the crowded ones are taken for one, so what is taken
for an address denotes one as long as it is not crowded. A crowded text is turned away whatever the
database. -/
theorem colon_grammar (s : String) :
    (∀ a, V6.ofText? s.toList = some a ↔ V6.Denotes s.toList a) ∧
      (∀ a, numeric? s = some (.v6 a) ↔ V6.Denotes s.toList a) ∧
      (kind s = .v6 ↔ (∃ a, V6.Denotes s.toList a) ∨ V6.IsCrowded s.toList) ∧
      ((kind s = .v6 ↔ ∃ a, V6.Denotes s.toList a) ↔ ¬ V6.IsCrowded s.toList) ∧
      (kind s = .v6 → ∀ db : Mmdb.Database,
        (db.resolve s).2 = [.unreadableAddress] ↔ V6.IsCrowded s.toList) := by
  refine ⟨fun a => V6.ofText?_eq_some_iff, fun a => numeric?_eq_v6_iff, kind_eq_v6_iff, ?_, ?_⟩
  · constructor
    · intro hexact hcrowded
      obtain ⟨a, hdenotes⟩ := hexact.1 (kind_eq_v6_iff.2 (.inr hcrowded))
      exact hcrowded.not_denotes a hdenotes
    · intro hroomy
      rw [kind_eq_v6_iff, or_iff_left hroomy]
  · intro hk db
    rw [resolve_notices, numeric?_eq_none_iff hk]

/-- A dotted end and a double colon for one group are read; a ninth group is one too many. -/
theorem colon_grammar_nine :
    V6.Denotes "1:2:3:4:5:6:7::".toList 0x00010002000300040005000600070000 ∧
      numeric? "::ffff:1.2.3.4" = some (.v6 0xffff01020304) ∧
      ¬ V6.IsCrowded "::ffff:1.2.3.4".toList ∧
      ∀ db : Mmdb.Database, (db.resolve "1:2:3:4:5:6:7:8::9").2 = [.unreadableAddress] := by
  obtain ⟨hread, -⟩ := colon_grammar "1:2:3:4:5:6:7::"
  obtain ⟨-, hnumeric, -, hroomy, -⟩ := colon_grammar "::ffff:1.2.3.4"
  obtain ⟨-, -, -, -, hturned⟩ := colon_grammar "1:2:3:4:5:6:7:8::9"
  have hmixed : numeric? "::ffff:1.2.3.4" = some (.v6 0xffff01020304) := by decide +kernel
  have hgroups {cs : List Char} (hall : (cs.splitOn ':').all V6.isGroup = true) :
      V6.Side false cs ((cs.splitOn ':').map V6.hexValue) :=
    .groups (V6.written_false_iff.2 ⟨List.all_eq_true.1 hall, rfl⟩)
  have hcrowded : V6.IsCrowded "1:2:3:4:5:6:7:8::9".toList :=
    ⟨"1:2:3:4:5:6:7:8".toList, "9".toList, _, _, by decide +kernel, hgroups (by decide +kernel),
      hgroups (by decide +kernel), by decide +kernel⟩
  exact ⟨(hread _).1 (by decide +kernel), hmixed,
    hroomy.1 (iff_of_true (by decide +kernel) ⟨_, (hnumeric _).1 hmixed⟩),
    fun db => (hturned (by decide +kernel) db).2 hcrowded⟩

/-- Nine groups around a double colon are taken for an address, and denote none. -/
theorem crowded_accepted :
    kind "1:2:3:4:5:6:7:8::9" = .v6 ∧ isAddress "1:2:3:4:5:6:7:8::9" = true ∧
      (¬ ∃ a, V6.Denotes "1:2:3:4:5:6:7:8::9".toList a) ∧
      numeric? "1:2:3:4:5:6:7:8::9" = none := by
  refine ⟨by decide +kernel, by decide +kernel, ?_, by decide +kernel⟩
  rintro ⟨a, hdenotes⟩
  have hnone : V6.ofText? "1:2:3:4:5:6:7:8::9".toList = none := by decide +kernel
  rw [hdenotes.ofText?] at hnone
  cases hnone

end Gazetteer.Address
