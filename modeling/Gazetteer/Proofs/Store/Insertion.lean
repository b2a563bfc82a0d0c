/-
Gazetteer.Proofs.Store.Insertion — a block is written as a whole or not at all.

An operation whose script has counted no change leaves every file with what it
held, and one that has counted a change leaves its file with what its desk has
come to. This is so on every disk. The transaction that writes the rows of a block
counts a change only if it has written all of them, so the block is there as a
whole, behind the rows that were there before, or everything is as it was.
-/
import Gazetteer.Proofs.Address.Area
import Gazetteer.Proofs.Disk.Contents
import Gazetteer.Proofs.Store.Opening
import Gazetteer.Proofs.Store.Transaction

namespace Gazetteer

open Gazetteer.Database

/-- A content with a table of blocks has the rows of one block more at the end of that table, and is
the same in everything else. -/
def Content.GainsBlock (block : String) (place : Int) (before after : Content) : Prop :=
  ∃ db old range, before.database? = some db ∧ db.blocks = .table old ∧
    Address.Range.ofBlock? block = some range ∧
    after = .database { db with
      blocks := .table (old ++ (Address.BlockRow.ofRange block place range).map .ofRow) }

namespace Store

/-! ## One operation on whatever disk -/

namespace Relational

variable {α : Type} {s : Relational} {w : World} {a : Approach}

/-- The connection that the next operation comes with, if it gets one. -/
def coming? (s : Relational) (w : World) : Option Approach :=
  match w.acquire s.pool with
  | (.error _, _, _) => none
  | (.ok slot, _, w) => some (w.disk.approach slot.connection.handle)

/-- What an operation has come to that had a desk: its script decides, and whether the files have
changed shows in the changes that the script has counted. -/
structure Works (s : Relational) (w : World) (script : Script (Except StoreError α))
    (taken : Except StoreError α × Relational × World) (a : Approach) (desk : Desk) : Prop where
  coming : s.coming? w = some a
  opening : s.opening? w = some desk
  sheet : a.sheet? = some desk.sheet
  contact : desk.contact = .none
  result : taken.1 = (script.run desk).1
  keeps : (script.run desk).2.contact.changes = 0 → w.disk.Keeps taken.2.2.disk
  stores : ∀ file db, a.Sees file → (script.run desk).2.contact.changes ≠ 0 →
    (script.run desk).2.sheet.content = .database db →
    ∃ later, taken.2.2.disk.file? a.handle.file = some later ∧ later.found true = .database db

/-- Giving the connection back leaves the files as the talk has left them. -/
theorem perform_talk {slot : Pool.Slot} {pool : Pool} {w1 : World}
    (script : Script (Except StoreError α)) (closes : α → Bool)
    (h : w.acquire s.pool = (.ok slot, pool, w1)) :
    (s.perform w script closes).1 =
        (talk { s with pool } w1 slot script (.error .query)).1 ∧
      (talk { s with pool } w1 slot script (.error .query)).2.2.2.disk.Keeps
        (s.perform w script closes).2.2.disk := by
  unfold perform
  rw [h]
  dsimp only
  rcases talk { s with pool } w1 slot script (.error .query) with ⟨result, parted, after, w2⟩
  exact ⟨rfl, World.keeps_part _ w2 after.pool parted⟩

theorem talk_some {slot : Pool.Slot} {desk : Desk} (script : Script α) (lost : α)
    (h : s.desk? w slot.connection.draft (w.disk.approach slot.connection.handle) = some desk) :
    (s.talk w slot script lost).1 = (script.run desk).1 ∧
      (s.talk w slot script lost).2.2.2.disk =
        ((w.disk.approach slot.connection.handle).finish (w.disk, slot.connection.handle)
          (script.run desk).2.contact (script.run desk).2.sheet).1 := by
  unfold talk
  simp only [h]
  exact ⟨trivial, rfl⟩

/-- An operation that has no desk does nothing to any file, and one that has a desk does to them what
its script has made of it. -/
theorem perform_cases (s : Relational) (w : World) (script : Script (Except StoreError α))
    (closes : α → Bool) :
    (s.opening? w = none ∧ w.disk.Keeps (s.perform w script closes).2.2.disk ∧
      ((s.perform w script closes).1 = .error .query ∨
        ∃ cause, (s.perform w script closes).1 = .error (.pool cause))) ∨
      ∃ a desk, s.Works w script (s.perform w script closes) a desk := by
  rcases hacquire : w.acquire s.pool with ⟨acquired, pool, w1⟩
  have hkeeps := World.keeps_acquire hacquire
  cases acquired with
  | error cause =>
    refine .inl ⟨by rw [opening?, hacquire], ?_, .inr ⟨cause, ?_⟩⟩
    · rw [perform, hacquire]
      exact hkeeps
    · rw [perform, hacquire]
  | ok slot =>
    obtain ⟨hresult, hparted⟩ := perform_talk script closes hacquire
    have hopening : s.opening? w =
        s.desk? w1 slot.connection.draft (w1.disk.approach slot.connection.handle) := by
      rw [opening?, hacquire]
    have hdesk? : Relational.desk? { s with pool } = s.desk? := rfl
    cases hdesk : s.desk? w1 slot.connection.draft (w1.disk.approach slot.connection.handle) with
    | none =>
      have htalk : talk { s with pool } w1 slot script (.error .query) =
          (.error .query, slot, { s with pool }, w1) := by
        simp only [talk, hdesk?, hdesk]
      rw [htalk] at hresult hparted
      exact .inl ⟨hopening.trans hdesk, hkeeps.trans hparted, .inl hresult⟩
    | some desk =>
      obtain ⟨hrun, hdisk⟩ := talk_some (s := { s with pool }) script (.error .query) hdesk
      obtain ⟨sheet, hsheet, hmade⟩ := Option.map_eq_some_iff.1 hdesk
      have hcontact : desk.contact = .none := by rw [← hmade]
      have hgo := Script.continues_run script desk
      rw [hdisk] at hparted
      refine .inr ⟨w1.disk.approach slot.connection.handle, desk, ?_, hopening.trans hdesk, ?_,
        hcontact, hresult.trans hrun, fun hc => ?_, fun file db hsees hc hs => ?_⟩
      · rw [coming?, hacquire]
      · rw [hsheet, ← hmade]
      · exact (hkeeps.trans (Approach.keeps_finish _ _ _ hc)).trans hparted
      · have hlt : desk.contact.changes < (script.run desk).2.contact.changes := by
          rw [hcontact]
          exact Nat.pos_of_ne_zero hc
        obtain ⟨now, hnow, hfound⟩ := hsees.finish (w1.disk, slot.connection.handle)
          (hgo.changed hlt).2.1 hc hs
        obtain ⟨later, hlater, hsame⟩ := hparted _ now hnow
        exact ⟨later, hlater, hsame.trans hfound⟩

/-! ## Writing a block -/

variable {block : String} {place : Int}
  {range : Address.Range} {taken : Except StoreError Unit × Relational × World}

theorem addBlock_eq (s : Relational) (w : World) (place : Int)
    (hr : Address.Range.ofBlock? block = some range) :
    s.addBlock w block place =
      s.performAndKeep w (Script.addBlock (Address.BlockRow.ofRange block place range)) := by
  rw [addBlock, hr]

/-- A desk that has written the rows of a block has gained them. -/
theorem gainsBlock_of_ok {desk : Desk} (hr : Address.Range.ofBlock? block = some range)
    (h : ((Script.addBlock (Address.BlockRow.ofRange block place range)).run desk).1 = .ok ()) :
    desk.sheet.content.GainsBlock block place
      ((Script.addBlock (Address.BlockRow.ofRange block place range)).run desk).2.sheet.content := by
  obtain ⟨db, old, hdb, hold, hcontent, -⟩ :=
    Script.addBlock_whole (Address.ofRange_ne_nil hr block place) h
  exact ⟨db, old, range, (Desk.mayRead_of_readable? hdb).2, hold, hr, hcontent⟩

/-- A store on a file of its own is in good order after an attempt to write a block, and the file has
gained the block if it succeeded and is as it was if not. -/
def GainsOrKeeps (s : Relational) (w : World) (block : String) (place : Int)
    (taken : Except StoreError Unit × Relational × World) : Prop :=
  ∀ path number file, s.pool.ServesFile path number file → w.disk.Houses path number file →
    ∃ later, s.Leaves path number file later taken.2.1 taken.2.2 ∧
      ((taken.1 ≠ .ok () ∧ later.content = file.content) ∨
        (taken.1 = .ok () ∧ file.content.GainsBlock block place later.content))

/-- What an attempt to write a block comes to. -/
structure WholeOrNothing (s : Relational) (w : World) (block : String) (place : Int)
    (taken : Except StoreError Unit × Relational × World) : Prop where
  /-- No connection is taken for a text that is not a block. -/
  refused : Address.kind block ≠ .block → taken = (.error (.invalidBlock block), s, w)
  accepted : Address.kind block = .block → taken.1 = .ok () ∨ taken.1 = .error .query ∨
    ∃ cause, taken.1 = .error (.pool cause)
  /-- All files hold what they held. -/
  failed : taken.1 ≠ .ok () → w.disk.Keeps taken.2.2.disk
  succeeds : taken.1 = .ok () ↔ ∃ range desk, Address.Range.ofBlock? block = some range ∧
    s.opening? w = some desk ∧ desk.CanAdd (Address.BlockRow.ofRange block place range).length
  /-- Nobody finds a part of the block, whenever they look. -/
  between : ∀ range desk n, Address.Range.ofBlock? block = some range →
    s.opening? w = some desk →
      let mid := Script.advance desk (Script.addBlock (Address.BlockRow.ofRange block place range)) n
      mid.2.sheet.content = desk.sheet.content ∨
        (taken.1 = .ok () ∧ desk.sheet.content.GainsBlock block place mid.2.sheet.content)
  /-- What the connection works on has gained the block, and with it the file if it sees that. -/
  stored : taken.1 = .ok () → ∃ a desk range, s.coming? w = some a ∧ s.opening? w = some desk ∧
    Address.Range.ofBlock? block = some range ∧
    desk.sheet.content.GainsBlock block place
      ((Script.addBlock (Address.BlockRow.ofRange block place range)).run desk).2.sheet.content ∧
    ∀ file, a.Sees file → ∃ later, taken.2.2.disk.file? a.handle.file = some later ∧
      (file.found true).GainsBlock block place (later.found true)
  /-- For a store on a file of its own that is this file. -/
  housed : s.GainsOrKeeps w block place taken

theorem wholeOrNothing_refused (s : Relational) (w : World) (place : Int)
    (hk : Address.kind block ≠ .block) (hr : Address.Range.ofBlock? block = none) :
    s.WholeOrNothing w block place (.error (.invalidBlock block), s, w) where
  refused _ := rfl
  accepted h := absurd h hk
  failed _ := .refl w.disk
  succeeds := by simp [hr]
  between range _ _ h := by simp [hr] at h
  stored h := by cases h
  housed path number file hs hw :=
    ⟨file, ⟨.refl file, hw, hs, rfl, id⟩, .inl ⟨by simp, rfl⟩⟩

theorem addBlock_housed (s : Relational) (w : World) (place : Int)
    (hr : Address.Range.ofBlock? block = some range) :
    s.GainsOrKeeps w block place (s.addBlock w block place) := by
  intro path number file hs hw
  have hne := Address.ofRange_ne_nil hr block place
  have htidy := (Script.writes_addBlock hne).isTidy
  rw [addBlock_eq s w place hr]
  obtain ⟨later, hleaves, hrun⟩ := perform_performs (fun _ => false) hs hw htidy
  refine ⟨later, hleaves, ?_⟩
  cases hopening : s.opening? w with
  | none =>
    rw [hopening] at hrun
    obtain ⟨⟨cause, hcause⟩, hcontent⟩ := hrun
    exact .inl ⟨fun hok => (by cases hcause.symm.trans hok), hcontent⟩
  | some desk =>
    rw [hopening] at hrun
    obtain ⟨hopens, hresult, hcontent⟩ := hrun
    rcases Script.addBlock_endsOnce (Address.BlockRow.ofRange block place range) desk
      with ⟨hok, -⟩ | ⟨herror, hsame⟩
    · have hgains := gainsBlock_of_ok hr hok
      obtain ⟨db, old, hdb, -⟩ := Script.addBlock_whole hne hok
      have hm := (Desk.mayRead_of_readable? hdb).1
      rw [if_pos hm] at hcontent
      rw [hopens.content hm] at hgains
      exact .inr ⟨hresult.trans hok, hcontent ▸ hgains⟩
    · refine .inl ⟨fun hok => (by cases (hresult.trans herror).symm.trans hok), ?_⟩
      rw [hcontent]
      split
      · next hm => exact ((Script.continues_run _ desk).same hsame).trans (hopens.content hm)
      · rfl

/-- An attempt that has no desk. -/
theorem wholeOrNothing_lost (hr : Address.Range.ofBlock? block = some range)
    (hopening : s.opening? w = none) (hkeeps : w.disk.Keeps taken.2.2.disk)
    (herror : taken.1 = .error .query ∨ ∃ cause, taken.1 = .error (.pool cause))
    (hhoused : s.GainsOrKeeps w block place taken) :
    s.WholeOrNothing w block place taken := by
  have hfail : taken.1 ≠ .ok () := by
    obtain herror | ⟨cause, herror⟩ := herror <;> simp [herror]
  exact {
    refused := fun hk => absurd (Address.ofBlock?_some hr).1 hk
    accepted := fun _ => .inr herror
    failed := fun _ => hkeeps
    succeeds := iff_of_false hfail (by simp [hopening])
    between := fun _ _ _ _ h => by cases hopening.symm.trans h
    stored := fun h => absurd h hfail
    housed := hhoused }

/-- An attempt that has one. -/
theorem Works.wholeOrNothing {desk : Desk} (hr : Address.Range.ofBlock? block = some range)
    (h : s.Works w (Script.addBlock (Address.BlockRow.ofRange block place range)) taken a desk)
    (hhoused : s.GainsOrKeeps w block place taken) :
    s.WholeOrNothing w block place taken := by
  have hne := Address.ofRange_ne_nil hr block place
  have hends := Script.addBlock_endsOnce (Address.BlockRow.ofRange block place range) desk
  have hzero : desk.contact.changes = 0 := by rw [h.contact]; rfl
  have hiff : taken.1 = .ok () ↔
      desk.CanAdd (Address.BlockRow.ofRange block place range).length := by
    rw [h.result]
    exact Script.addBlock_ok_iff hne
  refine ⟨fun hk => absurd (Address.ofBlock?_some hr).1 hk, fun _ => ?_, fun hfail => ?_, ?_, ?_,
    fun hok => ?_, hhoused⟩
  · rw [h.result]
    exact hends.imp And.left fun hend => .inl hend.1
  · rw [h.result] at hfail
    obtain ⟨hok, -⟩ | ⟨-, hsame⟩ := hends
    · exact absurd hok hfail
    · exact h.keeps (hsame.trans hzero)
  · constructor
    · intro hok
      exact ⟨range, desk, hr, h.opening, hiff.1 hok⟩
    · rintro ⟨range', desk', hr', hopening', hcan⟩
      obtain rfl := Option.some.inj (hr.symm.trans hr')
      obtain rfl := Option.some.inj (h.opening.symm.trans hopening')
      exact hiff.2 hcan
  · intro range' desk' n hr' hopening'
    obtain rfl := Option.some.inj (hr.symm.trans hr')
    obtain rfl := Option.some.inj (h.opening.symm.trans hopening')
    obtain ⟨hok, hle⟩ | ⟨-, hsame⟩ := hends
    · refine (Script.content_advance _ desk n hle).imp_right fun hend => ?_
      rw [hend]
      exact ⟨h.result.trans hok, gainsBlock_of_ok hr hok⟩
    · have hend := (Script.continues_run (Script.addBlock _) desk).same hsame
      have hmid := Script.content_advance (Script.addBlock _) desk n
        (Nat.le_succ_of_le (Nat.le_of_eq hsame))
      rw [hend, or_self] at hmid
      exact .inl hmid
  · rw [h.result] at hok
    have hgains := gainsBlock_of_ok hr hok
    refine ⟨a, desk, range, h.coming, h.opening, hr, hgains, fun file hsees => ?_⟩
    obtain ⟨db, old, hdb, hold, hcontent, hchanges⟩ := Script.addBlock_whole hne hok
    rw [hzero] at hchanges
    obtain ⟨later, hlater, hfound⟩ := h.stores file _ hsees hchanges hcontent
    have hsame := hsees.content
    rw [h.sheet] at hsame
    refine ⟨later, hlater, ?_⟩
    rw [← Option.some.inj hsame, hfound, ← hcontent]
    exact hgains

/-- Whatever the text, the store, the disk and the faults, a block is written as a whole or not at
all. -/
theorem addBlock_all_or_nothing (s : Relational) (w : World) (block : String) (place : Int) :
    s.WholeOrNothing w block place (s.addBlock w block place) := by
  cases hr : Address.Range.ofBlock? block with
  | none =>
    have hk : Address.kind block ≠ .block := by
      intro hk
      obtain ⟨range, hrange⟩ := Address.ofBlock?_of_kind hk
      cases hr.symm.trans hrange
    rw [addBlock, hr]
    exact wholeOrNothing_refused s w place hk hr
  | some range =>
    have hhoused := addBlock_housed s w place hr
    rw [addBlock_eq s w place hr] at hhoused ⊢
    obtain ⟨hopening, hkeeps, herror⟩ | ⟨a, desk, hworks⟩ := perform_cases s w
      (Script.addBlock (Address.BlockRow.ofRange block place range)) fun _ => false
    · exact wholeOrNothing_lost hr hopening hkeeps herror hhoused
    · exact hworks.wholeOrNothing hr hhoused

/-- Two areas are written behind the row that was there; a fault at the second of them leaves the one
row. -/
theorem addBlock_all_or_nothing_dutch :
    let s := idle "geo.db" false
    let w := worldOf "geo.db" (.database dutch)
    let path := Path.normal (FileName.ofText "geo.db")
    (∃ later, (s.addBlock w "10.0.0.0/15" 1).2.2.disk.Houses path 0 later ∧
      later.content.database?.map (·.blocks) = some (.table [
        ⟨.text "10.0.0.0/24", .text "10.0", .integer 167772160, .integer 167772415, .integer 1⟩,
        ⟨.text "10.0.0.0/15", .text "10.0", .integer 167772160, .integer 167837695, .integer 1⟩,
        ⟨.text "10.0.0.0/15", .text "10.1", .integer 167837696, .integer 167903231,
          .integer 1⟩])) ∧
    ∃ later, (s.addBlock { w with faults := [false, false, true] } "10.0.0.0/15" 1).2.2.disk.Houses
        path 0 later ∧ later.content = .database dutch := by
  intro s w path
  have hserves : s.pool.ServesFile path 0 (.ofContent (.database dutch)) :=
    Pool.servesFile_new .standard leads_geo
  have hhouses : w.disk.Houses path 0 (.ofContent (.database dutch)) := Disk.houses_ofFile _ _
  have hrange : Address.Range.ofBlock? "10.0.0.0/15" = some ⟨0x0A000000, 0x0A01FFFF⟩ := by
    decide +kernel
  constructor
  · have hok : (s.addBlock w "10.0.0.0/15" 1).1.toOption = some () := by decide +kernel
    obtain ⟨later, hleaves, ⟨hfail, -⟩ | ⟨-, db, old, range, hdb, hold, hr, hgained⟩⟩ :=
      (addBlock_all_or_nothing s w "10.0.0.0/15" 1).housed path 0 _ hserves hhouses
    · cases hresult : (s.addBlock w "10.0.0.0/15" 1).1 with
      | ok => exact absurd hresult hfail
      | error cause => simp [hresult, Except.toOption] at hok
    · obtain rfl : dutch = db := Option.some.inj hdb
      obtain rfl := Option.some.inj (hrange.symm.trans hr)
      obtain rfl := Slot.table.inj hold
      refine ⟨later, hleaves.houses, ?_⟩
      rw [hgained]
      decide +kernel
  · have hfault : (s.addBlock { w with faults := [false, false, true] } "10.0.0.0/15" 1).1.toOption =
        none := by decide +kernel
    obtain ⟨later, hleaves, ⟨-, hsame⟩ | ⟨hok, -⟩⟩ :=
      (addBlock_all_or_nothing s { w with faults := [false, false, true] } "10.0.0.0/15" 1).housed
        path 0 _ hserves hhouses
    · exact ⟨later, hleaves.houses, hsame⟩
    · rw [hok] at hfault
      cases hfault

end Relational

end Store

end Gazetteer
