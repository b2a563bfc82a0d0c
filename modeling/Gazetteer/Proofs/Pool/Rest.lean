/-
Gazetteer.Proofs.Pool.Rest — a pool that nobody disturbs.

What counts of its borrowers is how many of them hold or open a connection, and
which. So a borrower may change its connection as long as it stays the same one, and
those that have nothing may come and go. Where the last has given its connection
back, a pool has idle connections only; whoever comes next is served.
-/
import Gazetteer.Proofs.Pool.Crowd

namespace Gazetteer

open Members

namespace Pool.Crowd

variable {c : Crowd} {limits : Limits} {slot other : Slot} {i : Nat}

/-- Other borrowers make no difference if they hold and open the same. -/
theorem Inv.of_borrowers (h : Inv limits c) (borrowers : List Borrower)
    (hh : borrowers.countP (·.isHolding) = c.borrowers.countP (·.isHolding))
    (ho : borrowers.countP (·.isOpening) = c.borrowers.countP (·.isOpening))
    (hn : ∀ serial, borrowers.countP (·.holds serial) = c.borrowers.countP (·.holds serial))
    (time : Time) : Inv limits ⟨c.pool, time, borrowers, c.closed⟩ := by
  refine ⟨h.limited, ?_, h.bound, ?_, h.free⟩
  · show c.pool.openCount = c.pool.idle.length + borrowers.countP _ + borrowers.countP _
    rw [hh, ho]
    exact h.count
  · intro serial
    show c.pool.idle.countP _ + borrowers.countP _ + c.closed.countP _ = _
    rw [hn]
    exact h.serials serial

theorem Inv.at_time (h : Inv limits c) (time : Time) :
    Inv limits ⟨c.pool, time, c.borrowers, c.closed⟩ :=
  h.of_borrowers c.borrowers rfl rfl (fun _ => rfl) time

/-- A holder may do with its connection what it likes, if it stays the same connection. -/
theorem Inv.rework (h : Inv limits c) (hi : c.borrowers[i]? = some (.holding slot))
    (hs : other.connection.serial = slot.connection.serial) :
    Inv limits ⟨c.pool, c.now, c.borrowers.set i (.holding other), c.closed⟩ := by
  have hsame (p : Borrower → Bool) (hp : p (.holding other) = p (.holding slot)) :
      (c.borrowers.set i (.holding other)).countP p = c.borrowers.countP p :=
    countP_set_of_eq hi hp
  refine h.of_borrowers _ (hsame _ rfl) (hsame _ rfl) (fun serial => hsame _ ?_) c.now
  show (other.connection.serial == serial) = (slot.connection.serial == serial)
  rw [hs]

/-- Whoever has nothing and wants nothing may come. -/
theorem Inv.append_gone (h : Inv limits c) :
    Inv limits ⟨c.pool, c.now, c.borrowers ++ [.gone], c.closed⟩ := by
  have hsame (p : Borrower → Bool) (hp : p .gone = false) :
      (c.borrowers ++ [Borrower.gone]).countP p = c.borrowers.countP p := by
    rw [countP_append_one, hp]
    rfl
  exact h.of_borrowers _ (hsame _ rfl) (hsame _ rfl) (fun _ => hsame _ rfl) c.now

/-- Whoever has nothing may as well not be there. -/
theorem Inv.of_gone {pool : Pool} {time : Time} {closed : List Slot}
    (h : Inv limits ⟨pool, time, [.gone], closed⟩) (later : Time) :
    Inv limits ⟨pool, later, [], closed⟩ :=
  h.of_borrowers [] rfl rfl (fun _ => rfl) later

end Pool.Crowd

/-! ## Taking and giving back -/

variable {w : World} {pool : Pool} {slot : Pool.Slot}

/-- A connection outside any transaction is not taken for a leak. -/
theorem Pool.release_notices (hs : slot.connection.isInTransaction = false) (now : Time) :
    (pool.release slot now).1 = [] := by
  unfold release
  split <;> simp [hs]

theorem Pool.mem_idle_release {now : Time} (hk : pool.keeps slot now = true) :
    { slot with lastUsed := now } ∈ (pool.release slot now).2.idle := by
  simp [release, hk]

namespace World

/-- The notices of giving a connection back are those of the pool. -/
theorem release_notices (w : World) (pool : Pool) (slot : Pool.Slot) :
    (w.release pool slot).2.notices = w.notices ++ (pool.release slot w.tick.now).1 := by
  unfold release
  dsimp only
  split <;> rfl

theorem closeAll_notices (w : World) (slots : List Pool.Slot) :
    (w.closeAll slots).notices = w.notices := by
  induction slots generalizing w with
  | nil => rfl
  | cons slot slots ih => exact ih (w.close slot.connection)

/-- To take a connection gives no notice. -/
theorem acquire_notices (w : World) (pool : Pool) : (w.acquire pool).2.2.notices = w.notices := by
  unfold acquire
  dsimp only
  split
  · exact closeAll_notices w.tick _
  · split <;> exact closeAll_notices w.tick _
  · exact closeAll_notices w.tick _

/-- Who does not have to wait does not wait in vain. -/
theorem acquire_ne_timeout (h : (pool.turn w.tick.now).1 ≠ .mustWait) :
    (w.acquire pool).1 ≠ .error .timeout := by
  intro htimeout
  have htakes := Pool.Crowd.takes_acquire w pool
  rw [htimeout] at htakes
  generalize (w.acquire pool).2.2.now = time at htakes
  cases htakes with
  | timeout hturn => exact h (congrArg Prod.fst hturn)

/-- A connection that is taken is outside any transaction, if the idle ones are. -/
theorem acquire_outside {served : Pool} {after : World}
    (hfree : ∀ idle ∈ pool.idle, idle.connection.isInTransaction = false)
    (h : w.acquire pool = (.ok slot, served, after)) : slot.connection.draft = none := by
  have htakes := Pool.Crowd.takes_acquire w pool
  rw [h] at htakes
  generalize after.now = time at htakes
  cases htakes with
  | reuse hturn =>
    obtain ⟨-, -, hreuse⟩ := Pool.turn_cases hturn
    obtain ⟨idle, hm, heq⟩ := hreuse slot rfl
    rw [heq]
    simpa [Connection.isInTransaction] using hfree idle hm
  | opened => rfl

end World

end Gazetteer
