/-
Gazetteer.World — the working folder, the clock, the notices so far, and the faults to come.

Taking a connection from a pool and giving it back are the places where the
pools, the files and the clock meet. A caller alone that finds every place of a
pool taken waits in vain and gives up after the pool's timeout.
-/
import Gazetteer.Disk.Access
import Gazetteer.Pool

namespace Gazetteer

/-- Everything that lies outside the stores. -/
structure World where
  disk : Disk
  now : Time
  /-- The notices given so far, in order. -/
  notices : List Notice
  /-- Whether each coming statement meets a fault of the disk; after the last of them none does. -/
  faults : List Bool

namespace World

/-- An empty working folder at the beginning of time. -/
def start : World := ⟨.empty, 0, [], []⟩

/-- The world with some time gone by. -/
def wait (w : World) (span : Time) : World := { w with now := w.now + span }

/-- The world one moment later. -/
def tick (w : World) : World := w.wait 1

def tell (w : World) (notices : List Notice) : World := { w with notices := w.notices ++ notices }

/-- The disk after a connection has given up the right to write. -/
def withoutWriter (disk : Disk) (connection : Connection) : Disk :=
  match connection.draft with
  | some ⟨true, _, _⟩ =>
    match disk.file? connection.handle.file with
    | some file => disk.setFile connection.handle.file { file with hasWriter := false }
    | none => disk
  | _ => disk

/-- The world after a connection is closed; its transaction gives up the right to write. -/
def close (w : World) (connection : Connection) : World :=
  { w with disk := (withoutWriter w.disk connection).leave connection.handle }

/-- The world after some connections of a pool are closed. -/
def closeAll (w : World) (slots : List Pool.Slot) : World :=
  slots.foldl (fun w slot => w.close slot.connection) w

/-- Take a connection from a pool. -/
def acquire (w : World) (pool : Pool) : Except PoolError Pool.Slot × Pool × World :=
  let w := w.tick
  let turn := pool.turn w.now
  let w := w.closeAll (pool.stale w.now)
  match turn with
  | (.reuse slot, pool) => (.ok slot, pool, w)
  | (.mayOpen, pool) =>
    match w.disk.openDatabase pool.path with
    | none => (.error .cannotOpen, pool.openingFailed, w)
    | some (handle, disk) =>
      let (slot, pool) := pool.opened handle w.now
      (.ok slot, pool, { w with disk })
  | (.mustWait, pool) => (.error .timeout, pool, w.wait pool.limits.acquireTimeout)

/-- Give a connection back to its pool. -/
def release (w : World) (pool : Pool) (slot : Pool.Slot) : Pool × World :=
  let w := w.tick
  let (notices, released) := pool.release slot w.now
  (released, (if pool.keeps slot w.now then w else w.close slot.connection).tell notices)

/-- Close a connection instead of giving it back. -/
def discard (w : World) (pool : Pool) (slot : Pool.Slot) : Pool × World :=
  (pool.forget, w.tick.close slot.connection)

end World

end Gazetteer
