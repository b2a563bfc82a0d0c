/-
Gazetteer.Proofs.Disk.House — a database in a file of its own.

A disk houses a database file at a path if the file stands there and no log of
it stands beside it. A name leads to the path if it spells it and asks neither
to share what has been read nor to take the file never to change; a connection
that comes of such a name is plain. Coming to such a file, working on it and
going away again change nothing on the disk but the file itself and its journal,
whoever holds a lock and whatever stands in the place of the journal.
-/
import Gazetteer.Proofs.Disk.Memory

namespace Gazetteer

open Gazetteer.Database

variable {disk : Disk} {path : Path} {number : Nat} {file : File} {handle : Handle}

/-- A file stands at a path, and there is no log of it. -/
structure Disk.Houses (disk : Disk) (path : Path) (number : Nat) (file : File) : Prop where
  named : disk.numberAt? path = some number
  isFile : disk.file? number = some file
  noLog : disk.numberAt? (Disk.beside path Disk.logEnding) = none
  unlogged : file.logged = none

/-- A connection was opened to the file of a path, shares nothing, uses no log and does not take the
file never to change. -/
structure Handle.IsPlain (handle : Handle) (path : Path) (number : Nat) : Prop where
  number : handle.file = number
  path? : handle.path? = some path
  alone : handle.key? = none
  noLog : handle.usesLog = false
  notFrozen : handle.locator.isFrozen = false

/-- A plain connection whose memory fits the file. -/
structure Handle.Knows (handle : Handle) (path : Path) (number : Nat) (file : File) : Prop
    extends handle.IsPlain path number where
  fits : ∀ memory ∈ handle.memory, memory.Fits file

/-- The name of a database leads to the file of a path, for each connection apart. -/
def Locator.Leads (text : String) (path : Path) : Prop :=
  ∃ locator name, Locator.ofName? text = some locator ∧ locator.home = .file name ∧
    Path.normal name = path ∧ locator.isShared = false ∧ locator.isFrozen = false

/-- Every name without options that is not one for a database in memory leads to its path. -/
theorem Locator.leads_of_plain {text : String} (hz : (FileName.ofText text).contains 0 = false)
    (hs : scheme.isPrefixOf (FileName.ofText text) = false) (he : FileName.ofText text ≠ [])
    (hm : FileName.ofText text ≠ memoryName) :
    Leads text (Path.normal (FileName.ofText text)) := by
  have hsystem : System.ofName? Wishes.standard.system = some .standard := by
    decide +kernel
  have hempty : (FileName.ofText text).isEmpty = false := by simpa using he
  have hfleeting : isFleeting (FileName.ofText text) .standard = false := by
    have hname : (FileName.ofText text == memoryName) = false := by simpa using hm
    have hmode : (Wishes.standard.mode == .memory) = false := rfl
    unfold isFleeting
    rw [hempty, hname, hmode]
    rfl
  refine ⟨⟨.file (FileName.ofText text), true, true, .standard, true, false, false⟩,
    FileName.ofText text, ?_, rfl, rfl, rfl, rfl⟩
  unfold ofName?
  simp only [hz, hs, Bool.false_eq_true, if_false]
  unfold ofOptions?
  simp only [List.foldlM_nil, Option.pure_def, Option.bind_eq_bind, Option.bind_some, hsystem,
    hfleeting, homeOf, Bool.false_eq_true, if_false, Bool.not_false, Bool.true_and]
  rfl

theorem Handle.Knows.follow {later : File} (h : handle.Knows path number file)
    (hf : file.Follows later) : handle.Knows path number later :=
  ⟨h.toIsPlain, fun memory hm => (h.fits memory hm).follow hf⟩

namespace Disk

/-! ## Places -/

theorem lookup_filter_ne {α β : Type} [BEq α] [LawfulBEq α] (entries : List (α × β)) {a b : α}
    (h : a ≠ b) : (entries.filter (·.1 != b)).lookup a = entries.lookup a := by
  induction entries with
  | nil => rfl
  | cons entry entries ih =>
    obtain ⟨key, value⟩ := entry
    rw [List.filter_cons]
    split
    · rw [List.lookup_cons, List.lookup_cons, ih]
    · next hk =>
      obtain rfl : key = b := by simpa using hk
      have hne : (a == key) = false := by simpa using h
      rw [List.lookup_cons, hne, ih]

theorem lookup_filter_none {α β : Type} [BEq α] [LawfulBEq α] {entries : List (α × β)} {a : α}
    (keep : α × β → Bool) (h : entries.lookup a = none) :
    (entries.filter keep).lookup a = none := by
  rw [List.lookup_eq_none_iff] at *
  exact fun entry hm => h entry (List.mem_filter.1 hm).1

/-- What stands beside a path under a longer name does not stand at it. -/
theorem beside_ne {ending : FileName} (h : ending ≠ []) (path : Path) :
    beside path ending ≠ path := by
  intro he
  have hlast := congrArg (fun p : Path => p.getLast?.getD []) he
  simp only [beside, List.getLast?_append, List.getLast?_singleton, Option.some_or,
    Option.getD_some] at hlast
  exact h (by simpa using hlast)

theorem Houses.removeJournal (h : disk.Houses path number file) :
    (disk.removeFile (beside path journalEnding)).Houses path number file where
  named := by
    have hne : path ≠ beside path journalEnding := (beside_ne (by decide) path).symm
    exact (lookup_filter_ne disk.names hne).trans h.named
  isFile := h.isFile
  noLog := lookup_filter_none _ h.noLog
  unlogged := h.unlogged

theorem Houses.setFile {later : File} (h : disk.Houses path number file)
    (hl : later.logged = none) : (disk.setFile number later).Houses path number later where
  named := h.named
  isFile := by
    have hlt : number < disk.files.length := by
      have := h.isFile
      exact (List.getElem?_eq_some_iff.1 this).1
    simp [Disk.file?, Disk.setFile, hlt]
  noLog := h.noLog
  unlogged := hl

/-- A file that is made at a path with no log beside it is housed there. -/
theorem houses_makeFile (content : Content)
    (hl : disk.numberAt? (beside path logEnding) = none) :
    (disk.makeFile path content).2.Houses path disk.files.length (.ofContent content) where
  named := by simp [makeFile, addFile, numberAt?]
  isFile := by simp [makeFile, addFile, file?]
  noLog := by
    have hne : (beside path logEnding == path) = false := by
      simpa using beside_ne (by decide) path
    show List.lookup _ ((path, _) :: disk.names) = none
    rw [List.lookup_cons, hne]
    exact hl
  unlogged := rfl

theorem houses_ofFile (name : FileName) (content : Content) :
    (ofFile name content).Houses (Path.normal name) 0 (.ofContent content) :=
  houses_makeFile content rfl

/-! ## Opening -/

/-- Whether or not the way is clear, a name leads to its normal path. -/
theorem foldlM_databasePath (steps : List Path.Step) {start target : Path}
    (h : steps.foldlM (databasePath?.step disk) start = some target) :
    target = steps.foldl Path.next start := by
  induction steps generalizing start with
  | nil => simpa using h.symm
  | cons step steps ih =>
    rw [List.foldlM_cons, Option.bind_eq_bind, Option.bind_eq_some_iff] at h
    obtain ⟨mid, hmid, h⟩ := h
    obtain rfl : mid = start.next step := by
      unfold databasePath?.step at hmid
      split at hmid
      · split at hmid
        · cases hmid
        · exact (Option.some.inj hmid).symm
      · exact (Option.some.inj hmid).symm
      · exact (Option.some.inj hmid).symm
    exact ih h

theorem databasePath?_some {name : FileName} {target : Path}
    (h : disk.databasePath? name = some target) : target = Path.normal name := by
  unfold databasePath? at h
  rw [Option.bind_eq_bind, Option.bind_eq_some_iff] at h
  obtain ⟨mid, hmid, h⟩ := h
  split at h
  · obtain rfl := Option.some.inj h
    exact foldlM_databasePath _ hmid
  · cases h

/-- A connection that is opened to the file of a house is plain, knows nothing yet, and leaves the
disk as it is. -/
theorem Houses.openDatabase {text : String} {opened : Disk} (h : disk.Houses path number file)
    (hl : Locator.Leads text path) (ho : disk.openDatabase text = some (handle, opened)) :
    opened = disk ∧ handle.IsPlain path number ∧ handle.memory = none := by
  obtain ⟨locator, name, hname, hhome, rfl, hshared, hfrozen⟩ := hl
  unfold Disk.openDatabase at ho
  simp only [hname, hhome, hshared, Option.bind_eq_bind, Option.bind_some] at ho
  obtain ⟨target, htarget, ho⟩ := Option.bind_eq_some_iff.1 ho
  obtain rfl := databasePath?_some htarget
  have hopen : disk.openFile? (Path.normal name) locator.mayMake = some (number, disk) := by
    simp only [openFile?, h.named]
  simp only [hopen, Bool.false_eq_true, if_false, Option.bind_some] at ho
  obtain ⟨rfl, rfl⟩ := Prod.mk.inj (Option.some.inj ho)
  exact ⟨rfl, ⟨rfl, rfl, rfl, rfl, hfrozen⟩, rfl⟩

/-- A connection that is opened where no file stands is a plain one to a blank file. -/
theorem openDatabase_missing {text : String} {opened : Disk} (hn : disk.numberAt? path = none)
    (hlog : disk.numberAt? (beside path logEnding) = none) (hl : Locator.Leads text path)
    (ho : disk.openDatabase text = some (handle, opened)) :
    opened.Houses path disk.files.length (.ofContent (.bytes .empty)) ∧
      handle.IsPlain path disk.files.length ∧ handle.memory = none := by
  obtain ⟨locator, name, hname, hhome, rfl, hshared, hfrozen⟩ := hl
  unfold Disk.openDatabase at ho
  simp only [hname, hhome, hshared, Option.bind_eq_bind, Option.bind_some] at ho
  obtain ⟨target, htarget, ho⟩ := Option.bind_eq_some_iff.1 ho
  obtain rfl := databasePath?_some htarget
  simp only [Bool.false_eq_true, if_false] at ho
  obtain ⟨⟨number, made⟩, hmade, ho⟩ := Option.bind_eq_some_iff.1 ho
  simp only [openFile?, hn] at hmade
  split at hmade
  · have hhouses := houses_makeFile (.bytes .empty) hlog
    rw [Option.some.inj hmade] at hhouses
    have hnumber : number = disk.files.length := (congrArg Prod.fst (Option.some.inj hmade)).symm
    obtain ⟨rfl, rfl⟩ := Prod.mk.inj (Option.some.inj ho)
    exact ⟨hhouses, ⟨hnumber, rfl, rfl, rfl, hfrozen⟩, rfl⟩
  · cases hmade

/-! ## Coming to read -/

theorem settleJournal_some {settled : Disk}
    (h : disk.settleJournal handle path = some settled) :
    settled = disk ∨ settled = disk.removeFile (beside path journalEnding) := by
  unfold settleJournal at h
  dsimp only at h
  repeat' split at h
  all_goals first
    | exact .inl (Option.some.inj h).symm
    | exact .inr (Option.some.inj h).symm
    | cases h

/-- Where no log stands there is nothing to settle. -/
theorem settleLog_some {settled : Disk} {later : Handle}
    (hl : disk.numberAt? (beside path logEnding) = none)
    (h : disk.settleLog handle path = some (settled, later)) :
    settled = disk ∧ later = handle := by
  have hs : disk.standing (beside path logEnding) = .folder ∨
      disk.standing (beside path logEnding) = .nothing := by
    unfold standing
    rw [hl]
    split
    · exact .inl rfl
    · exact .inr rfl
  unfold settleLog at h
  dsimp only at h
  rcases hs with hs | hs
  · rw [hs] at h
    cases h
  · rw [hs] at h
    obtain ⟨rfl, rfl⟩ := Prod.mk.inj (Option.some.inj h)
    exact ⟨rfl, rfl⟩

/-- What a connection meets that has come to a house: the house, itself, and the content of the file
if it may read. -/
structure Meets (path : Path) (number : Nat) (file : File) (a : Approach) : Prop where
  houses : a.disk.Houses path number file
  knows : a.handle.Knows path number file
  upToDate : a.mayRead = true → ∀ memory ∈ a.handle.memory, memory.version = file.version

theorem Houses.look (h : disk.Houses path number file) (hk : handle.Knows path number file) :
    disk.look handle = { handle with memory := some (renewed handle.memory file) } := by
  unfold Disk.look
  rw [hk.noLog, hk.notFrozen, hk.number, h.isFile]
  rfl

/-- Nobody shares what a plain connection has read. -/
theorem pinner?_plain (disk : Disk) (hp : handle.IsPlain path number) :
    disk.pinner? handle = none := by
  unfold pinner?
  cases disk.holder with
  | none => rfl
  | some holder => simp [Option.filter, hp.alone]

theorem Houses.approach (h : disk.Houses path number file)
    (hk : handle.Knows path number file) :
    Meets path number file (disk.approach handle) := by
  unfold Disk.approach
  simp only [pinner?_plain disk hk.toIsPlain, hk.path?, hk.noLog, hk.notFrozen, Bool.or_false,
    Bool.false_eq_true, if_false]
  split
  · exact ⟨h, hk, by simp⟩
  · split
    · exact ⟨h, hk, by simp⟩
    · next settled hj =>
      have hs : settled.Houses path number file := by
        obtain rfl | rfl := settleJournal_some hj
        · exact h
        · exact h.removeJournal
      split
      · exact ⟨hs, hk, by simp⟩
      · next d hd hlog =>
        obtain ⟨rfl, rfl⟩ := settleLog_some hs.noLog hlog
        obtain ⟨hfits, hv⟩ := Memory.fits_renewed hk.fits
        simp only [hs.look hk]
        refine ⟨hs, ⟨⟨hk.number, hk.path?, hk.alone, hk.noLog, hk.notFrozen⟩, ?_⟩, ?_⟩
        · intro memory hm
          exact Option.some.inj hm ▸ hfits
        · intro _ memory hm
          exact Option.some.inj hm ▸ hv

end Disk

/-! ## Working and going away -/

namespace Approach

variable {a : Approach} {contact : Contact} {sheet : Sheet} {before : Disk × Handle}

/-- A connection works on the file as it recalls it. -/
theorem sheet?_eq (h : a.disk.Houses path number file) (hp : a.handle.IsPlain path number) :
    a.sheet? =
      some ⟨a.handle.memory.elim file.content (Disk.recalled · file.content), file.hasWriter⟩ := by
  unfold Approach.sheet? Disk.sheet?
  rw [hp.number, h.isFile, Disk.pinner?_plain _ hp, hp.noLog]
  rfl

/-- A connection that may read works on what the file holds. -/
theorem sheet?_mayRead (h : Disk.Meets path number file a) (hr : a.mayRead = true) :
    a.sheet? = some ⟨file.content, file.hasWriter⟩ := by
  rw [sheet?_eq h.houses h.knows.toIsPlain]
  cases hm : a.handle.memory with
  | none => rfl
  | some memory =>
    have hrecalled := (h.knows.fits memory hm).recalled (h.upToDate hr memory hm)
    simp only [Option.elim_some, hrecalled]

theorem houses_withoutJournal (h : a.disk.Houses path number file)
    (hp : a.handle.IsPlain path number) : a.withoutJournal.Houses path number file := by
  unfold withoutJournal
  simp only [hp.path?, hp.noLog]
  exact h.removeJournal

/-- The disk after work, before the file is written. -/
def worked (a : Approach) (contact : Contact) : Disk :=
  if contact.hasWritten then a.withoutJournal else a.disk

theorem houses_worked (contact : Contact) (h : a.disk.Houses path number file)
    (hp : a.handle.IsPlain path number) : (a.worked contact).Houses path number file := by
  unfold worked
  split
  · exact houses_withoutJournal h hp
  · exact h

/-- Work that has changed nothing leaves the file as it is, apart from who may write. -/
theorem finish_same (h : Disk.Meets path number file a) (hr : contact.hasRead = true)
    (hc : contact.changes = 0) :
    a.finish before contact sheet =
      ((a.worked contact).setFile number { file with hasWriter := sheet.hasWriter },
        a.remembering contact sheet { file with hasWriter := sheet.hasWriter }) := by
  have hfile := (houses_worked contact h.houses h.knows.toIsPlain).isFile
  unfold worked at *
  unfold finish
  simp only [hr, h.knows.number, hfile, hc, if_true]
  cases sheet.content <;> rfl

/-- Work that has changed a database leaves it as the work has made it. -/
theorem finish_changed {db : Database} (h : Disk.Meets path number file a)
    (hm : a.mayRead = true) (hr : contact.hasRead = true) (hc : 0 < contact.changes)
    (hs : sheet.content = .database db) :
    a.finish before contact sheet =
      ((a.worked contact).setFile number
          ({ file with hasWriter := sheet.hasWriter }.changed false contact.changes db),
        a.remembering contact sheet
          ({ file with hasWriter := sheet.hasWriter }.changed false contact.changes db)) := by
  have hfile := (houses_worked contact h.houses h.knows.toIsPlain).isFile
  have hne : contact.changes ≠ 0 := by omega
  unfold worked at *
  unfold finish
  simp only [hr, h.knows.number, hfile, h.knows.noLog, hs, hne, if_false, sheet?_mayRead h hm]
  simp only [File.found, Option.bind_some, Bool.false_eq_true, if_false, written_self]
  rfl

theorem follows_changed {steps : Nat} (db : Database) (hasWriter : Bool) (h : 0 < steps) :
    file.Follows (File.changed { file with hasWriter } false steps db) where
  changes := Nat.le_add_right _ _
  same hn := by
    have hn : file.changes + steps = file.changes := hn
    omega
  stays _ _ := ⟨db, rfl⟩

theorem follows_hasWriter (hasWriter : Bool) : file.Follows { file with hasWriter } :=
  ⟨Nat.le_refl _, fun _ => ⟨rfl, rfl⟩, fun db h => ⟨db, h⟩⟩

/-- After work a connection knows the file, be it as it was or changed. -/
theorem knows_remembering {start : Sheet} {later : File}
    (h : Disk.Meets path number file a) (hs : a.sheet? = some start)
    (hf : file.Follows later)
    (hsame : contact.changes = 0 → sheet.content = start.content)
    (hchanged : 0 < contact.changes →
      ∃ db, sheet.content = .database db ∧ later.content = .database db) :
    (a.remembering contact sheet later).Knows path number later := by
  have hp := h.knows.toIsPlain
  refine ⟨⟨hp.number, hp.path?, hp.alone, hp.noLog, hp.notFrozen⟩, ?_⟩
  intro memory hm
  simp only [remembering, hp.noLog, Bool.false_eq_true, if_false] at hm
  obtain ⟨old, hold, rfl⟩ := Option.map_eq_some_iff.1 hm
  by_cases hc : contact.changes = 0
  · rw [sheet?_eq h.houses hp, hold] at hs
    obtain rfl := Option.some.inj hs
    rw [if_pos hc, hsame hc]
    exact ((h.knows.fits old hold).remember _).follow hf
  · obtain ⟨db, hdb, hlater⟩ := hchanged (by omega)
    rw [if_neg hc, hdb]
    exact Memory.fits_picture (Nat.le_of_eq (File.changes_version hlater)) hlater
      fun _ => Picture.view_self db _

/-- After work the file holds what the sheet holds, if the connection could read; if it could not,
the file is as it was. -/
theorem finish_houses {start : Sheet} (before : Disk × Handle) (contact : Contact)
    (sheet : Sheet) (h : Disk.Meets path number file a)
    (hs : a.sheet? = some start) (hb : before.1.Houses path number file)
    (hk : before.2.Knows path number file)
    (hsame : contact.changes = 0 → sheet.content = start.content)
    (hchanged : 0 < contact.changes →
      a.mayRead = true ∧ contact.hasRead = true ∧ ∃ db, sheet.content = .database db) :
    ∃ later, file.Follows later ∧ (a.finish before contact sheet).1.Houses path number later ∧
      (a.finish before contact sheet).2.Knows path number later ∧
      later.content = if a.mayRead then sheet.content else file.content := by
  have hworked := houses_worked contact h.houses h.knows.toIsPlain
  -- only work that has changed something writes the file, and only on what it could read
  by_cases hc : contact.changes = 0
  · have hcontent : file.content = if a.mayRead then sheet.content else file.content := by
      split
      · next hm =>
        rw [sheet?_mayRead h hm] at hs
        obtain rfl := Option.some.inj hs
        exact (hsame hc).symm
      · rfl
    by_cases hr : contact.hasRead = true
    · rw [finish_same h hr hc]
      exact ⟨_, follows_hasWriter _, hworked.setFile h.houses.unlogged,
        knows_remembering h hs (follows_hasWriter _) hsame (by omega), hcontent⟩
    · have hbefore : a.finish before contact sheet = before := by simp [finish, hr]
      rw [hbefore]
      exact ⟨file, .refl file, hb, hk, hcontent⟩
  · obtain ⟨hm, hr, db, hdb⟩ := hchanged (by omega)
    rw [finish_changed h hm hr (by omega) hdb, if_pos hm, hdb]
    exact ⟨_, follows_changed db _ (by omega), hworked.setFile h.houses.unlogged,
      knows_remembering h hs (follows_changed db _ (by omega)) hsame fun _ => ⟨db, hdb, rfl⟩, rfl⟩

end Approach

namespace Disk

/-! ## Closing -/

/-- Nothing on the disk tells whether a plain connection is open. -/
theorem leave_plain (disk : Disk) (hp : handle.IsPlain path number) :
    disk.leave handle = disk := by
  simp [leave, hp.noLog, hp.alone]

end Disk

end Gazetteer
