/-
Gazetteer.Proofs.World — a pool of connections to a database in a file of its own.

The name of such a pool leads to the path of the file, and its idle connections
are outside any transaction and know the file. Taking a connection from it and
giving one back keep that, and they touch neither the disk nor the faults to
come; it makes no difference which connections are closed on the way.
-/
import Gazetteer.Proofs.Disk.House
import Gazetteer.World

namespace Gazetteer

variable {path : Path} {number : Nat} {file later : File} {pool : Pool} {slot : Pool.Slot}
  {w : World}

/-- A connection outside any transaction that knows the file. -/
structure Connection.IsFree (c : Connection) (path : Path) (number : Nat) (file : File) :
    Prop where
  draft : c.draft = none
  knows : c.handle.Knows path number file

/-- A pool of connections to the file of a path. -/
structure Pool.ServesFile (pool : Pool) (path : Path) (number : Nat) (file : File) : Prop where
  leads : Locator.Leads pool.path path
  idle : ∀ slot ∈ pool.idle, slot.connection.IsFree path number file

namespace Pool

/-- Changes of the file that are counted do no harm to the idle connections. -/
theorem ServesFile.follow (h : pool.ServesFile path number file) (hf : file.Follows later) :
    pool.ServesFile path number later :=
  ⟨h.leads, fun slot hm => ⟨(h.idle slot hm).draft, (h.idle slot hm).knows.follow hf⟩⟩

/-- A pool of the same name serves the file as well if its idle connections are among those of the
first and free ones. -/
theorem ServesFile.of_idle {after : Pool} (h : pool.ServesFile path number file)
    (hp : after.path = pool.path)
    (hi : ∀ slot ∈ after.idle, slot ∈ pool.idle ∨ slot.connection.IsFree path number file) :
    after.ServesFile path number file :=
  ⟨hp ▸ h.leads, fun slot hm => (hi slot hm).elim (h.idle slot) id⟩

/-- A pool that has opened nothing yet serves any file that its name leads to. -/
theorem servesFile_new {text : String} (limits : Limits) (hl : Locator.Leads text path) :
    (Pool.new text limits).ServesFile path number file :=
  ⟨hl, fun _ hm => by simp [Pool.new] at hm⟩

/-- A request closes the idle connections at the front that are past a limit and hands out the next
one; if there is none, it has a place reserved or must wait. -/
theorem turn_eq (pool : Pool) (now : Time) :
    (∃ slot rest, pool.idle = pool.stale now ++ slot :: rest ∧
      pool.turn now = (.reuse { slot with lastUsed := now }, { pool with
        idle := rest, openCount := pool.openCount - (pool.stale now).length })) ∨
    (pool.idle = pool.stale now ∧
      pool.openCount - (pool.stale now).length < pool.limits.maxConnections ∧
      pool.turn now = (.mayOpen, { pool with
        idle := [], openCount := pool.openCount - (pool.stale now).length + 1 })) ∨
    (pool.idle = pool.stale now ∧
      pool.limits.maxConnections ≤ pool.openCount - (pool.stale now).length ∧
      pool.turn now = (.mustWait, { pool with
        idle := [], openCount := pool.openCount - (pool.stale now).length })) := by
  have hidle : pool.stale now ++ pool.idle.dropWhile (·.isStale pool.limits now) = pool.idle :=
    List.takeWhile_append_dropWhile
  have hclosed : pool.idle.length - (pool.idle.dropWhile (·.isStale pool.limits now)).length =
      (pool.stale now).length := by
    have hlength := congrArg List.length hidle
    rw [List.length_append] at hlength
    omega
  unfold turn
  dsimp only
  rw [hclosed]
  cases hgood : pool.idle.dropWhile (·.isStale pool.limits now) with
  | cons slot rest => exact .inl ⟨slot, rest, by rw [← hgood, hidle], rfl⟩
  | nil =>
    rw [hgood, List.append_nil] at hidle
    right
    by_cases hroom : pool.openCount - (pool.stale now).length < pool.limits.maxConnections
    · exact .inl ⟨hidle.symm, hroom, if_pos hroom⟩
    · exact .inr ⟨hidle.symm, Nat.not_lt.1 hroom, if_neg hroom⟩

theorem turn_limits (pool : Pool) (now : Time) : (pool.turn now).2.limits = pool.limits := by
  obtain ⟨slot, rest, -, heq⟩ | ⟨-, -, heq⟩ | ⟨-, -, heq⟩ := turn_eq pool now
  all_goals rw [heq]

/-- A request hands out one of the idle connections or none, and keeps others of them. -/
theorem turn_cases {now : Time} {served : Pool} {turn : Turn}
    (h : pool.turn now = (turn, served)) :
    served.path = pool.path ∧ (∀ slot ∈ served.idle, slot ∈ pool.idle) ∧
      ∀ slot, turn = .reuse slot → ∃ idle ∈ pool.idle, slot.connection = idle.connection := by
  obtain ⟨first, rest, hidle, heq⟩ | ⟨-, -, heq⟩ | ⟨-, -, heq⟩ := turn_eq pool now
  · obtain ⟨rfl, rfl⟩ := Prod.mk.inj (heq.symm.trans h)
    refine ⟨rfl, ?_, ?_⟩
    · intro slot hm
      rw [hidle]
      exact List.mem_append_right _ (List.mem_cons_of_mem _ hm)
    · intro slot hs
      obtain rfl := Turn.reuse.inj hs
      exact ⟨first, hidle ▸ List.mem_append_right _ List.mem_cons_self, rfl⟩
  · obtain ⟨rfl, rfl⟩ := Prod.mk.inj (heq.symm.trans h)
    exact ⟨rfl, by simp, by simp⟩
  · obtain ⟨rfl, rfl⟩ := Prod.mk.inj (heq.symm.trans h)
    exact ⟨rfl, by simp, by simp⟩

end Pool

namespace World

/-- Closing a free connection leaves no trace. -/
theorem close_free {c : Connection} (h : c.IsFree path number file) (w : World) :
    w.close c = w := by
  simp [World.close, withoutWriter, h.draft, Disk.leave_plain _ h.knows.toIsPlain]

theorem closeAll_free {slots : List Pool.Slot}
    (h : ∀ slot ∈ slots, slot.connection.IsFree path number file) (w : World) :
    w.closeAll slots = w := by
  induction slots with
  | nil => rfl
  | cons slot slots ih =>
    show (w.close slot.connection).closeAll slots = w
    rw [close_free (h slot List.mem_cons_self)]
    exact ih fun s hm => h s (List.mem_cons_of_mem _ hm)

/-- What becomes of a request to a pool that serves the file of a house. -/
structure Acquires (w : World) (path : Path) (number : Nat) (file : File)
    (taken : Except PoolError Pool.Slot × Pool × World) : Prop where
  disk : taken.2.2.disk = w.disk
  faults : taken.2.2.faults = w.faults
  notices : taken.2.2.notices = w.notices
  pool : taken.2.1.ServesFile path number file
  slot : ∀ slot, taken.1 = .ok slot → slot.connection.IsFree path number file

theorem acquires (hw : w.disk.Houses path number file)
    (hp : pool.ServesFile path number file) :
    Acquires w path number file (w.acquire pool) := by
  have hclose : w.tick.closeAll (pool.stale w.tick.now) = w.tick :=
    closeAll_free (fun slot hm => hp.idle slot ((List.takeWhile_sublist _).mem hm)) w.tick
  unfold acquire
  rcases hturn : pool.turn w.tick.now with ⟨turn, served⟩
  obtain ⟨hpath, hidle, hreuse⟩ := Pool.turn_cases hturn
  have hserved := hp.of_idle hpath fun slot hm => .inl (hidle slot hm)
  simp only [hclose, hturn]
  cases turn with
  | reuse slot =>
    refine ⟨rfl, rfl, rfl, hserved, ?_⟩
    intro taken ht
    obtain rfl := Except.ok.inj ht
    obtain ⟨first, hm, hc⟩ := hreuse slot rfl
    exact hc ▸ hp.idle first hm
  | mustWait => exact ⟨rfl, rfl, rfl, hserved, by simp⟩
  | mayOpen =>
    dsimp only
    cases hopen : w.tick.disk.openDatabase served.path with
    | none => exact ⟨rfl, rfl, rfl, hserved.of_idle rfl fun slot hm => .inl hm, by simp⟩
    | some opened =>
      obtain ⟨handle, disk⟩ := opened
      obtain ⟨rfl, hplain, hmemory⟩ := hw.openDatabase (hpath ▸ hp.leads) hopen
      refine ⟨rfl, rfl, rfl, hserved.of_idle rfl fun slot hm => .inl hm, ?_⟩
      intro taken ht
      obtain rfl := Except.ok.inj ht
      exact ⟨rfl, hplain, fun memory hm => nomatch hmemory.symm.trans hm⟩

/-- The first connection of a pool whose file is missing is one to a blank file. -/
theorem acquire_missing {served : Pool} {after : World}
    (hn : w.disk.numberAt? path = none)
    (hlog : w.disk.numberAt? (Disk.beside path Disk.logEnding) = none)
    (hl : Locator.Leads pool.path path) (hi : pool.idle = [])
    (h : w.acquire pool = (.ok slot, served, after)) :
    ∃ number, after.disk.Houses path number (.ofContent (.bytes .empty)) ∧
      served.ServesFile path number (.ofContent (.bytes .empty)) ∧
      slot.connection.IsFree path number (.ofContent (.bytes .empty)) ∧
      after.faults = w.faults := by
  have hclose : w.tick.closeAll (pool.stale w.tick.now) = w.tick := by
    simp [Pool.stale, hi, closeAll]
  unfold acquire at h
  rcases hturn : pool.turn w.tick.now with ⟨turn, kept⟩
  obtain ⟨hpath, hidle, hreuse⟩ := Pool.turn_cases hturn
  simp only [hclose, hturn] at h
  cases turn with
  | reuse first =>
    obtain ⟨other, hm, -⟩ := hreuse first rfl
    rw [hi] at hm
    cases hm
  | mustWait => cases (Prod.mk.inj h).1
  | mayOpen =>
    dsimp only at h
    cases hopen : w.tick.disk.openDatabase kept.path with
    | none =>
      rw [hopen] at h
      cases (Prod.mk.inj h).1
    | some opened =>
      obtain ⟨handle, disk⟩ := opened
      rw [hopen] at h
      obtain ⟨hhouses, hplain, hmemory⟩ := Disk.openDatabase_missing hn hlog (hpath ▸ hl) hopen
      obtain ⟨hslot, hrest⟩ := Prod.mk.inj h
      obtain rfl := Except.ok.inj hslot
      obtain ⟨rfl, rfl⟩ := Prod.mk.inj hrest
      refine ⟨_, hhouses, ⟨hpath ▸ hl, ?_⟩,
        ⟨rfl, hplain, fun memory hm => nomatch hmemory.symm.trans hm⟩, rfl⟩
      intro s hm
      have hm := hidle s hm
      rw [hi] at hm
      cases hm

/-- A free connection that is given back is there for the next request or closed; either way it
leaves no trace on the disk. -/
theorem release_free (hp : pool.ServesFile path number file)
    (hs : slot.connection.IsFree path number file) :
    (w.release pool slot).1.ServesFile path number file ∧
      (w.release pool slot).2.disk = w.disk := by
  unfold release
  dsimp only
  constructor
  · unfold Pool.release
    split
    · refine hp.of_idle rfl ?_
      intro s hm
      rcases List.mem_append.1 hm with hm | hm
      · exact .inl hm
      · obtain rfl := List.mem_singleton.1 hm
        exact .inr hs
    · exact hp.of_idle rfl fun s hm => .inl hm
  · split
    · rfl
    · rw [close_free hs]
      rfl

theorem discard_free (hp : pool.ServesFile path number file)
    (hs : slot.connection.IsFree path number file) :
    (w.discard pool slot).1.ServesFile path number file ∧
      (w.discard pool slot).2.disk = w.disk := by
  unfold discard
  rw [close_free hs]
  exact ⟨hp.of_idle rfl fun s hm => .inl hm, rfl⟩

/-- It makes no difference to pool and disk whether a free connection is closed or given back. -/
theorem part_free (isClosed : Bool) (w : World) (hw : w.disk.Houses path number file)
    (hp : pool.ServesFile path number file) (hs : slot.connection.IsFree path number file) :
    let parted := if isClosed then w.discard pool slot else w.release pool slot
    parted.2.disk.Houses path number file ∧ parted.1.ServesFile path number file := by
  cases isClosed with
  | true =>
    obtain ⟨hpool, hdisk⟩ := discard_free (w := w) hp hs
    exact ⟨hdisk ▸ hw, hpool⟩
  | false =>
    obtain ⟨hpool, hdisk⟩ := release_free (w := w) hp hs
    exact ⟨hdisk ▸ hw, hpool⟩

end World

end Gazetteer
