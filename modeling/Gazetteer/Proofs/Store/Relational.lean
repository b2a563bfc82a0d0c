/-
Gazetteer.Proofs.Store.Relational — what one operation of a store comes to.

An operation either gets no connection and does nothing, or it is one run of its
script on the desk that it opens. That desk holds what the file holds if the
connection may read, and afterwards the file holds what the desk has come to. So
what is known of the run of a script is known of the store, the pool and the
disk, and the next operation finds them in good order again.
-/
import Gazetteer.Proofs.Store.Conversation
import Gazetteer.Proofs.World
import Gazetteer.Store.Relational

namespace Gazetteer.Store

open Gazetteer.Database

variable {α : Type} {path : Path} {number : Nat} {file : File} {s : Relational} {w : World}

/-- A script that begins without a transaction ends without one. -/
def Script.IsTidy (script : Script α) : Prop :=
  ∀ desk : Desk, desk.draft = none → (script.run desk).2.draft = none

/-- A desk at the beginning of an operation on a file. -/
structure Desk.Opens (desk : Desk) (s : Relational) (w : World) (file : File) : Prop where
  draft : desk.draft = none
  encodings : desk.encodings = s.encodings
  faults : desk.faults = w.faults
  contact : desk.contact = .none
  content : desk.access.mayRead = true → desk.sheet.content = file.content

theorem Desk.Opens.readable? {desk : Desk} (h : desk.Opens s w file) {db : Database}
    (hdb : desk.readable? = some db) : file.content.database? = some db := by
  obtain ⟨hm, hs⟩ := Desk.mayRead_of_readable? hdb
  rw [← h.content hm, hs]

namespace Relational

/-- The desk that the next operation opens, if it gets a connection. -/
def opening? (s : Relational) (w : World) : Option Desk :=
  match w.acquire s.pool with
  | (.error _, _, _) => none
  | (.ok slot, _, w) =>
    s.desk? w slot.connection.draft (w.disk.approach slot.connection.handle)

/-- A store and the world are left in good order, with the file as it is later. -/
structure Leaves (s : Relational) (path : Path) (number : Nat) (file later : File)
    (after : Relational) (w : World) : Prop where
  follows : file.Follows later
  houses : w.disk.Houses path number later
  serves : after.pool.ServesFile path number later
  persists : after.persists = s.persists
  truthful : Desk.IsTruthful s.encodings → Desk.IsTruthful after.encodings

/-- What an operation comes to, with what it has answered, the store and the world. -/
def Performs (s : Relational) (w : World) (path : Path) (number : Nat) (file : File)
    (script : Script (Except StoreError α))
    (taken : Except StoreError α × Relational × World) : Prop :=
  ∃ later, s.Leaves path number file later taken.2.1 taken.2.2 ∧
    match s.opening? w with
    | none => (∃ cause, taken.1 = .error (.pool cause)) ∧ later.content = file.content
    | some desk => desk.Opens s w file ∧ taken.1 = (script.run desk).1 ∧
        later.content =
          if desk.access.mayRead then (script.run desk).2.sheet.content else file.content

/-- What a script comes to on a free connection. -/
theorem talk_free {slot : Pool.Slot} {script : Script (Except StoreError α)}
    (s : Relational) (hw : w.disk.Houses path number file)
    (hc : slot.connection.IsFree path number file) (ht : script.IsTidy)
    (lost : Except StoreError α) :
    ∃ desk later, s.desk? w slot.connection.draft (w.disk.approach slot.connection.handle)
        = some desk ∧ desk.Opens s w file ∧ file.Follows later ∧
      (s.talk w slot script lost).1 = (script.run desk).1 ∧
      (s.talk w slot script lost).2.1.connection.IsFree path number later ∧
      (s.talk w slot script lost).2.2.1 =
        { s with encodings := (script.run desk).2.encodings } ∧
      (s.talk w slot script lost).2.2.2.disk.Houses path number later ∧
      later.content =
        if desk.access.mayRead then (script.run desk).2.sheet.content else file.content := by
  have hmeets := hw.approach hc.knows
  have hsheet := Approach.sheet?_eq hmeets.houses hmeets.knows.toIsPlain
  generalize ha : w.disk.approach slot.connection.handle = a at hmeets hsheet
  let desk : Desk :=
    ⟨⟨a.handle.memory.elim file.content (Disk.recalled · file.content), file.hasWriter⟩,
      none, s.encodings, a.access, .none, w.faults, []⟩
  have hdesk : s.desk? w slot.connection.draft a = some desk := by
    simp only [desk?, hsheet, hc.draft, Option.map_some]
    rfl
  have hopens : desk.Opens s w file := by
    refine ⟨rfl, rfl, rfl, rfl, ?_⟩
    intro hm
    have := Approach.sheet?_mayRead hmeets hm
    rw [hsheet] at this
    exact congrArg Sheet.content (Option.some.inj this)
  have hgo := Script.continues_run script desk
  obtain ⟨later, hf, hhouses, hknows, hcontent⟩ :=
    Approach.finish_houses (w.disk, slot.connection.handle) (script.run desk).2.contact
      (script.run desk).2.sheet hmeets hsheet hw hc.knows hgo.same hgo.changed
  refine ⟨desk, later, hdesk, hopens, hf, ?_⟩
  unfold talk
  simp only [ha, hdesk]
  exact ⟨trivial, ⟨ht desk rfl, hknows⟩, trivial, hhouses, hcontent⟩

/-- What an operation comes to that has got a connection. -/
theorem perform_acquired {script : Script (Except StoreError α)} {slot : Pool.Slot} {pool : Pool}
    {w1 : World} (closes : α → Bool) (hacquire : w.acquire s.pool = (.ok slot, pool, w1))
    (hw : w1.disk.Houses path number file) (hpool : pool.ServesFile path number file)
    (hslot : slot.connection.IsFree path number file) (hfaults : w1.faults = w.faults)
    (ht : script.IsTidy) :
    s.Performs w path number file script (s.perform w script closes) := by
  unfold Performs opening? perform
  obtain ⟨desk, later, hdesk, hopens, hf, hresult, hfree, hstore, hhouses, hcontent⟩ :=
    talk_free { s with pool } hw hslot ht (.error .query)
  rcases htalk : Relational.talk { s with pool } w1 slot script (.error .query)
    with ⟨result, slot1, s1, w2⟩
  simp only [htalk] at hresult hfree hstore hhouses
  subst hresult hstore
  have hdesk : s.desk? w1 slot.connection.draft (w1.disk.approach slot.connection.handle)
      = some desk := hdesk
  have hopens : desk.Opens s w file :=
    ⟨hopens.draft, hopens.encodings, hopens.faults.trans hfaults, hopens.contact, hopens.content⟩
  have hparts := fun isClosed => World.part_free isClosed w2 hhouses (hpool.follow hf) hfree
  rw [hacquire]
  simp only [hdesk, htalk]
  refine ⟨later, ⟨hf, (hparts _).1, (hparts _).2, rfl, ?_⟩, hopens, trivial, hcontent⟩
  intro htruth
  exact (Script.continues_run script desk).truthful (hopens.encodings ▸ htruth)

/-- Every operation with a tidy script comes to what it should. -/
theorem perform_performs {script : Script (Except StoreError α)} (closes : α → Bool)
    (hs : s.pool.ServesFile path number file) (hw : w.disk.Houses path number file)
    (ht : script.IsTidy) :
    s.Performs w path number file script (s.perform w script closes) := by
  have hacquires := World.acquires hw hs
  rcases hacquire : w.acquire s.pool with ⟨taken, pool, w1⟩
  rw [hacquire] at hacquires
  obtain ⟨hdisk, hfaults, -, hpool, hslot⟩ := hacquires
  have hdisk : w1.disk = w.disk := hdisk
  have hw1 : w1.disk.Houses path number file := hdisk ▸ hw
  cases taken with
  | ok slot => exact perform_acquired closes hacquire hw1 hpool (hslot slot rfl) hfaults ht
  | error cause =>
    unfold Performs opening? perform
    rw [hacquire]
    exact ⟨file, ⟨.refl file, hw1, hpool, rfl, id⟩, ⟨cause, rfl⟩, rfl⟩

/-! ## A store on the only file of a folder -/

/-- A folder with one file in it, at the beginning of time. -/
def worldOf (text : String) (content : Content) : World :=
  { World.start with disk := .ofFile (FileName.ofText text) content }

/-- A store that has opened nothing and remembers nothing. -/
def idle (text : String) (persists : Bool) : Relational := ⟨.new text .standard, persists, .empty 1⟩

/-- A database of one block in one place. -/
def dutch : Database where
  saved := .table []
  places := .table [⟨1, .text "Netherlands", .text "North Holland", .null⟩]
  blocks := .table [⟨.text "10.0.0.0/24", .text "10.0", .integer 167772160, .integer 167772415,
    .integer 1⟩]
  indexes := []
  others := []
  trigger := none

theorem leads_geo : Locator.Leads "geo.db" (Path.normal (FileName.ofText "geo.db")) :=
  Locator.leads_of_plain (by decide +kernel) (by decide +kernel) (by decide +kernel)
    (by decide +kernel)

/-! ## Resolving -/

theorem isTidy_lookup (persists : Bool) (address : String) :
    (Script.lookup persists address).IsTidy :=
  fun _ hd => (Script.lookup_outcome hd rfl).1

/-- What a resolution comes to: an answer of its lookup, or nothing where that fails. -/
theorem resolve_performs (address : String) (hs : s.pool.ServesFile path number file)
    (hw : w.disk.Houses path number file) :
    ∃ later, s.Leaves path number file later (s.resolve w address).2.1 (s.resolve w address).2.2 ∧
      match s.opening? w with
      | none => (s.resolve w address).1 = none ∧ later.content = file.content
      | some desk => desk.Opens s w file ∧
          (s.resolve w address).1 =
            ((Script.lookup s.persists address).run desk).1.toOption.join ∧
          later.content = if desk.access.mayRead
            then ((Script.lookup s.persists address).run desk).2.sheet.content
            else file.content := by
  obtain ⟨later, hleaves, hrun⟩ := perform_performs (fun found : Option Resolved =>
    found.any (·.writeBack.isFailed)) hs hw (isTidy_lookup s.persists address)
  refine ⟨later, ?_⟩
  unfold resolve
  rcases hperform : s.perform w (Script.lookup s.persists address)
    (fun found => found.any (·.writeBack.isFailed)) with ⟨answer, after, w1⟩
  rw [hperform] at hleaves hrun
  rw [hperform]
  have htell (notices : List Notice) :
      s.Leaves path number file later after (w1.tell notices) :=
    ⟨hleaves.follows, hleaves.houses, hleaves.serves, hleaves.persists, hleaves.truthful⟩
  cases hopening : s.opening? w with
  | none =>
    rw [hopening] at hrun
    obtain ⟨⟨cause, rfl⟩, hcontent⟩ := hrun
    exact ⟨htell _, rfl, hcontent⟩
  | some desk =>
    rw [hopening] at hrun
    obtain ⟨hopens, hanswer, hcontent⟩ := hrun
    dsimp only at hanswer ⊢
    rw [← hanswer]
    match answer with
    | .ok found => exact ⟨hleaves, hopens, rfl, hcontent⟩
    | .error (.pool cause) => exact ⟨htell _, hopens, rfl, hcontent⟩
    | .error .query => exact ⟨htell _, hopens, rfl, hcontent⟩
    | .error (.invalidBlock block) => exact ⟨htell _, hopens, rfl, hcontent⟩

/-- The next operation gets a connection that may read, and its reads meet no fault. -/
def CanRead (s : Relational) (w : World) : Prop :=
  (s.opening? w).any (·.access.mayRead) = true ∧ Script.ReadsWork s.persists w.faults

instance (persists : Bool) (faults : List Bool) :
    Decidable (Script.ReadsWork persists faults) :=
  inferInstanceAs (Decidable (∀ fault ∈ faults.take (if persists then 2 else 1), fault = false))

instance (s : Relational) (w : World) : Decidable (s.CanRead w) :=
  inferInstanceAs (Decidable (_ ∧ _))

/-- Where reading works a resolution answers what the database has. -/
theorem resolve_of_canRead {db : Database} (address : String)
    (hs : s.pool.ServesFile path number file) (hw : w.disk.Houses path number file)
    (ht : Desk.IsTruthful s.encodings) (hdb : file.content.database? = some db)
    (hr : s.CanRead w) :
    (s.resolve w address).1.map (·.location) =
      (db.namesFor s.persists address).toOption.join.map (·.location address) := by
  obtain ⟨hopening, hf⟩ := hr
  obtain ⟨desk, hopening, hm⟩ := (Option.any_eq_true _ _).1 hopening
  obtain ⟨later, -, hrun⟩ := resolve_performs address hs hw
  rw [hopening] at hrun
  obtain ⟨hopens, hfound, -⟩ := hrun
  have hread : desk.readable? = some db := by
    unfold Desk.readable?
    rw [if_pos hm, hopens.content hm, hdb]
  have hlookup := Script.lookup_of_readable? address hopens.draft (hopens.encodings ▸ ht)
    (hopens.faults ▸ hf) hread
  have hjoin {γ δ : Type} (f : γ → δ) (x : Except StoreError (Option γ)) :
      (x.map (·.map f)).toOption.join = x.toOption.join.map f := by
    cases x <;> rfl
  rw [hfound, ← hjoin, hlookup, hjoin]

end Relational

end Gazetteer.Store
