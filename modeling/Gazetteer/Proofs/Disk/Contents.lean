/-
Gazetteer.Proofs.Disk.Contents — what the files hold stays through all but a change.

Connections come and go, look at journals and logs, make blank files and carry
logs over, and all of that leaves every file with what its readers find in it. A
connection that has counted no change leaves it so too, however far it has come.
This is so on every disk, whoever shares what with whom.
-/
import Gazetteer.World

namespace Gazetteer

variable {disk mid later : Disk} {number : Nat} {file now : File} {handle : Handle}

/-- Every file is still there, and its readers find in it what they found before; a log counts as
what the file holds. -/
def Disk.Keeps (disk later : Disk) : Prop :=
  ∀ number file, disk.file? number = some file →
    ∃ now, later.file? number = some now ∧ now.found true = file.found true

namespace Disk

theorem Keeps.refl (disk : Disk) : disk.Keeps disk := fun _ file h => ⟨file, h, rfl⟩

theorem Keeps.trans (h1 : disk.Keeps mid) (h2 : mid.Keeps later) : disk.Keeps later := by
  intro number file h
  obtain ⟨between, hbetween, hfound⟩ := h1 number file h
  obtain ⟨now, hnow, hfound'⟩ := h2 number between hbetween
  exact ⟨now, hnow, hfound'.trans hfound⟩

/-! ## Files -/

theorem keeps_of_files (h : later.files = disk.files) : disk.Keeps later :=
  fun _ file hf => ⟨file, by rw [file?, h]; exact hf, rfl⟩

theorem keeps_addFile (disk : Disk) (new : File) : disk.Keeps (disk.addFile new).2 := by
  intro number file h
  have hlt : number < disk.files.length := (List.getElem?_eq_some_iff.1 h).1
  exact ⟨file, (List.getElem?_append_left hlt).trans h, rfl⟩

theorem keeps_makeFile (disk : Disk) (path : Path) (content : Content) :
    disk.Keeps (disk.makeFile path content).2 := keeps_addFile disk _

theorem keeps_removeFile (disk : Disk) (path : Path) : disk.Keeps (disk.removeFile path) :=
  keeps_of_files rfl

theorem keeps_setFile (h : disk.file? number = some file)
    (hf : now.found true = file.found true) : disk.Keeps (disk.setFile number now) := by
  intro other old hother
  by_cases heq : number = other
  · subst heq
    obtain rfl := Option.some.inj (h.symm.trans hother)
    have hlt : number < disk.files.length := (List.getElem?_eq_some_iff.1 h).1
    exact ⟨now, List.getElem?_set_self hlt, hf⟩
  · exact ⟨old, (List.getElem?_set_ne heq).trans hother, rfl⟩

/-! ## Opening and closing -/

theorem keeps_openFile? {path : Path} {mayMake : Bool}
    (h : disk.openFile? path mayMake = some (number, later)) : disk.Keeps later := by
  unfold openFile? at h
  split at h
  · obtain ⟨-, rfl⟩ := Prod.mk.inj (Option.some.inj h)
    exact .refl disk
  · split at h
    · have hmade := keeps_makeFile disk path (.bytes .empty)
      rwa [Option.some.inj h] at hmade
    · cases h

theorem keeps_join {key : Key} {path? : Option Path} {locator : Locator}
    {make : Disk → Option (Nat × Disk)}
    (hmake : ∀ number made, make disk = some (number, made) → disk.Keeps made)
    (h : disk.join key path? locator make = some (handle, later)) : disk.Keeps later := by
  unfold join at h
  split at h
  · obtain ⟨-, rfl⟩ := Prod.mk.inj (Option.some.inj h)
    exact keeps_of_files rfl
  · obtain ⟨⟨number, made⟩, hmade, heq⟩ := Option.map_eq_some_iff.1 h
    obtain ⟨-, rfl⟩ := Prod.mk.inj heq
    exact (hmake number made hmade).trans (keeps_of_files rfl)

theorem keeps_openDatabase {name : String}
    (h : disk.openDatabase name = some (handle, later)) : disk.Keeps later := by
  have hblank (number : Nat) (made : Disk) (hmade : some disk.addBlank = some (number, made)) :
      disk.Keeps made := by
    have hadded : disk.Keeps disk.addBlank.2 := keeps_addFile disk _
    rwa [Option.some.inj hmade] at hadded
  unfold openDatabase at h
  rw [Option.bind_eq_bind, Option.bind_eq_some_iff] at h
  obtain ⟨locator, -, h⟩ := h
  split at h
  · obtain ⟨-, rfl⟩ := Prod.mk.inj (Option.some.inj h)
    exact keeps_addFile disk _
  · exact keeps_join hblank h
  · exact keeps_join hblank h
  · rw [Option.bind_eq_bind, Option.bind_eq_some_iff] at h
    obtain ⟨path, -, h⟩ := h
    split at h
    · exact keeps_join (fun _ _ hmade => keeps_openFile? hmade) h
    · rw [Option.bind_eq_bind, Option.bind_eq_some_iff] at h
      obtain ⟨⟨number, made⟩, hmade, h⟩ := h
      obtain ⟨-, rfl⟩ := Prod.mk.inj (Option.some.inj h)
      exact keeps_openFile? hmade

/-- The last user of a log carries it over, so that its readers find the same in the file itself. -/
theorem keeps_leaveLog (disk : Disk) (handle : Handle) : disk.Keeps (disk.leaveLog handle) := by
  unfold leaveLog
  split
  · next path file _ hf =>
    split
    · exact (keeps_removeFile disk _).trans (keeps_setFile hf rfl)
    · exact keeps_setFile hf rfl
  · exact .refl disk

theorem keeps_leave (disk : Disk) (handle : Handle) : disk.Keeps (disk.leave handle) := by
  have hlog : disk.Keeps (if handle.usesLog then disk.leaveLog handle else disk) := by
    split
    · exact keeps_leaveLog disk handle
    · exact .refl disk
  unfold leave
  cases handle.key? with
  | none => exact hlog
  | some key => exact hlog.trans (keeps_of_files rfl)

/-! ## Coming to read -/

theorem keeps_settleJournal {path : Path} (h : disk.settleJournal handle path = some later) :
    disk.Keeps later := by
  unfold settleJournal at h
  dsimp only at h
  repeat' split at h
  all_goals first
    | (obtain rfl := Option.some.inj h; exact keeps_of_files rfl)
    | cases h

theorem keeps_addLogUser (disk : Disk) (number : Nat) : disk.Keeps (disk.addLogUser number) := by
  unfold addLogUser
  split
  · exact .refl disk
  · next hf => exact keeps_setFile hf rfl

theorem keeps_settleLog {path : Path} {settled : Handle}
    (h : disk.settleLog handle path = some (later, settled)) : disk.Keeps later := by
  unfold settleLog at h
  dsimp only at h
  repeat' split at h
  all_goals first
    | (obtain ⟨rfl, -⟩ := Prod.mk.inj (Option.some.inj h); exact keeps_of_files rfl)
    | (obtain ⟨rfl, -⟩ := Prod.mk.inj (Option.some.inj h); exact keeps_addLogUser disk _)
    | cases h

theorem keeps_approach (disk : Disk) (handle : Handle) :
    disk.Keeps (disk.approach handle).disk := by
  unfold approach
  split
  · exact .refl disk
  · split
    · exact .refl disk
    · split
      · exact .refl disk
      · split
        · exact .refl disk
        · split
          · exact .refl disk
          · next hjournal =>
            split
            · exact keeps_settleJournal hjournal
            · next hlog => exact (keeps_settleJournal hjournal).trans (keeps_settleLog hlog)

end Disk

/-! ## Working -/

namespace Approach

variable {a : Approach} {contact : Contact} {sheet : Sheet}

/-- The disk without the journal has the same files. -/
theorem files_withoutJournal (a : Approach) : a.withoutJournal.files = a.disk.files := by
  unfold withoutJournal
  repeat' split
  all_goals rfl

/-- Work that has counted no change leaves every file with what it held. -/
theorem keeps_finish (disk : Disk) (handle : Handle) (sheet : Sheet) (hc : contact.changes = 0) :
    disk.Keeps ((disk.approach handle).finish (disk, handle) contact sheet).1 := by
  have hcome := Disk.keeps_approach disk handle
  generalize disk.approach handle = a at hcome ⊢
  have hclear : a.disk.Keeps (if contact.hasWritten then a.withoutJournal else a.disk) := by
    split
    · exact Disk.keeps_of_files a.files_withoutJournal
    · exact .refl a.disk
  unfold finish
  split
  · exact .refl disk
  · refine (hcome.trans hclear).trans ?_
    generalize (if contact.hasWritten then a.withoutJournal else a.disk) = cleared
    dsimp only
    split
    · exact .refl cleared
    · next file hf =>
      refine Disk.keeps_setFile hf ?_
      cases sheet.content <;> rfl

/-- A connection has come to a file and works on what its readers find in it. -/
structure Sees (a : Approach) (file : File) : Prop where
  isFile : a.disk.file? a.handle.file = some file
  /-- It uses the log of the file if there is one. -/
  log : a.handle.usesLog = true ∨ file.logged = none
  content : a.sheet?.map (·.content) = some (file.found true)

/-- What such a connection has changed is what the readers of the file find then. -/
theorem Sees.finish {db : Database} (h : a.Sees file) (before : Disk × Handle)
    (hr : contact.hasRead = true) (hc : contact.changes ≠ 0)
    (hs : sheet.content = .database db) :
    ∃ now, (a.finish before contact sheet).1.file? a.handle.file = some now ∧
      now.found true = .database db := by
  have hfound : file.found a.handle.usesLog = file.found true := by
    obtain hlog | hlog := h.log
    · rw [hlog]
    · simp [File.found, hlog]
  have hsame : (a.sheet?.bind (·.content.database?)).getD .empty =
      ((file.found a.handle.usesLog).database?).getD .empty := by
    obtain ⟨start, hstart, hcontent⟩ := Option.map_eq_some_iff.1 h.content
    rw [hstart, hfound, ← hcontent]
    rfl
  have hcleared : (if contact.hasWritten then a.withoutJournal else a.disk).file? a.handle.file =
      some file := by
    split
    · rw [Disk.file?, a.files_withoutJournal]
      exact h.isFile
    · exact h.isFile
  have hlt := (List.getElem?_eq_some_iff.1 hcleared).1
  have hwritten := Database.written_self
    (((file.found a.handle.usesLog).database?).getD .empty) db
  unfold Approach.finish
  simp only [hr, hcleared, hs, hc, hsame, Bool.not_true, Bool.false_eq_true, if_false]
  refine ⟨_, List.getElem?_set_self hlt, ?_⟩
  rw [show File.found { file with hasWriter := sheet.hasWriter } a.handle.usesLog =
    file.found a.handle.usesLog from rfl, hwritten]
  unfold File.changed
  obtain hlog | hlog := h.log
  · simp [hlog, File.found]
  · cases a.handle.usesLog <;> simp [File.found, hlog]

end Approach

/-! ## Taking a connection and giving it back -/

namespace World

variable {pool served : Pool} {w after : World} {slot : Pool.Slot}

theorem keeps_close (w : World) (c : Connection) : w.disk.Keeps (w.close c).disk := by
  have hwriter : w.disk.Keeps (withoutWriter w.disk c) := by
    unfold withoutWriter
    repeat' split
    · next hf => exact Disk.keeps_setFile hf rfl
    · exact .refl w.disk
    · exact .refl w.disk
  exact hwriter.trans (Disk.keeps_leave _ _)

theorem keeps_closeAll (slots : List Pool.Slot) (w : World) :
    w.disk.Keeps (w.closeAll slots).disk := by
  induction slots generalizing w with
  | nil => exact .refl w.disk
  | cons slot slots ih => exact (keeps_close w slot.connection).trans (ih _)

/-- Whatever becomes of a request, the files hold what they held. -/
theorem keeps_acquire {taken : Except PoolError Pool.Slot}
    (h : w.acquire pool = (taken, served, after)) : w.disk.Keeps after.disk := by
  have hclosed := keeps_closeAll (pool.stale w.tick.now) w.tick
  unfold acquire at h
  dsimp only at h
  split at h
  · cases h
    exact hclosed
  · split at h
    · cases h
      exact hclosed
    · next hopen =>
      cases h
      exact hclosed.trans (Disk.keeps_openDatabase hopen)
  · cases h
    exact hclosed

/-- It makes no difference either whether a connection is closed or given back. -/
theorem keeps_part (isClosed : Bool) (w : World) (pool : Pool) (slot : Pool.Slot) :
    w.disk.Keeps (if isClosed then w.discard pool slot else w.release pool slot).2.disk := by
  cases isClosed with
  | true => exact keeps_close w.tick slot.connection
  | false =>
    simp only [Bool.false_eq_true, if_false, release]
    split
    · exact .refl w.disk
    · exact keeps_close w.tick slot.connection

end World

end Gazetteer
