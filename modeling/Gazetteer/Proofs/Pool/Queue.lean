/-
Gazetteer.Proofs.Pool.Queue — what a request gets, and which idle connections it closes.

Connections join the idle queue at its end, at the moment of their last use, and leave
it at its front. So the queue is in the order of last use, whatever the borrowers do,
and where the first connection has not been idle for too long none behind it has. A
request closes the connections at the front that are past a limit; what is done next
depends on whether one is left, and if not on whether there is a place for a new one.
-/
import Gazetteer.Proofs.Pool.Crowd

namespace Gazetteer.Pool

open Members

variable {pool : Pool} {now later : Time} {slot : Slot} {limits : Limits}
  {idle closed rest others : List Slot} {w : World}

/-! ## The order of the queue -/

/-- The connections were used last one after the other, and none of them later than now. -/
structure InOrder (now : Time) (idle : List Slot) : Prop where
  sorted : idle.Pairwise fun first second => first.lastUsed ≤ second.lastUsed
  past : ∀ slot ∈ idle, slot.lastUsed ≤ now

namespace InOrder

theorem nil (now : Time) : InOrder now [] := ⟨.nil, fun _ hm => absurd hm List.not_mem_nil⟩

theorem at_later (h : InOrder now idle) (hle : now ≤ later) : InOrder later idle :=
  ⟨h.sorted, fun slot hm => Nat.le_trans (h.past slot hm) hle⟩

/-- Whoever leaves at the front leaves the others in order. -/
theorem of_suffix (h : InOrder now idle) (hrest : rest <:+ idle) : InOrder now rest :=
  ⟨h.sorted.sublist hrest.sublist, fun slot hm => h.past slot (hrest.subset hm)⟩

/-- Who was used last joins at the end. -/
theorem append (h : InOrder now idle) (slot : Slot) :
    InOrder now (idle ++ [{ slot with lastUsed := now }]) := by
  constructor
  · refine List.pairwise_append.2 ⟨h.sorted, List.pairwise_singleton _ _, ?_⟩
    intro first hfirst second hsecond
    obtain rfl := List.mem_singleton.1 hsecond
    exact h.past first hfirst
  · intro other hm
    obtain hm | hm := List.mem_append.1 hm
    · exact h.past other hm
    · obtain rfl := List.mem_singleton.1 hm
      exact Nat.le_refl now

end InOrder

theorem turn_idle_suffix (pool : Pool) (now : Time) : (pool.turn now).2.idle <:+ pool.idle := by
  obtain ⟨slot, rest, hidle, heq⟩ | ⟨-, -, heq⟩ | ⟨-, -, heq⟩ := turn_eq pool now
  · rw [heq, hidle]
    exact ⟨pool.stale now ++ [slot], by simp⟩
  · rw [heq]
    exact List.nil_suffix
  · rw [heq]
    exact List.nil_suffix

/-- In a move connections leave the queue at its front, or one joins it at its end. -/
theorem idle_step (pool : Pool) (now : Time) (borrower : Borrower) (move : Move) :
    (borrower.step pool now move).2.1.idle <:+ pool.idle ∨
      ∃ slot : Slot, (borrower.step pool now move).2.1.idle =
        pool.idle ++ [{ slot with lastUsed := now }] := by
  have hrefl : pool.idle <:+ pool.idle := List.suffix_rfl
  cases borrower with
  | arriving deadline =>
    cases move with
    | request => exact .inl (turn_idle_suffix pool now)
    | _ => exact .inl hrefl
  | waiting deadline =>
    cases move with
    | request => exact .inl (turn_idle_suffix pool now)
    | _ => exact .inl hrefl
  | opening =>
    cases move with
    | _ => exact .inl hrefl
  | holding slot =>
    cases move with
    | release =>
      rw [Borrower.step, release]
      split
      · exact .inr ⟨slot, rfl⟩
      · exact .inl hrefl
    | _ => exact .inl hrefl
  | gone => exact .inl hrefl

namespace Crowd

variable {c : Crowd}

theorem inOrder_next (h : InOrder c.now c.pool.idle) (event : Event) :
    InOrder (c.next event).now (c.next event).pool.idle := by
  cases event with
  | come => exact h
  | wait span => exact h.at_later (Nat.le_add_right c.now span)
  | move number move =>
    cases hn : c.borrowers[number]? with
    | none => rwa [next_of_none hn]
    | some borrower =>
      rw [next_of_some hn]
      show InOrder c.now (borrower.step c.pool c.now move).2.1.idle
      obtain hsuffix | ⟨slot, heq⟩ := idle_step c.pool c.now borrower move
      · exact h.of_suffix hsuffix
      · rw [heq]
        exact h.append slot

theorem inOrder_run (h : InOrder c.now c.pool.idle) (events : List Event) :
    InOrder (c.run events).now (c.run events).pool.idle := by
  induction events generalizing c with
  | nil => exact h
  | cons event events ih => exact ih (inOrder_next h event)

end Crowd

/-! ## The front of the queue -/

/-- The connection has been open for too long, or idle for too long. -/
def Slot.IsPast (slot : Slot) (limits : Limits) (now : Time) : Prop :=
  slot.created + limits.maxLifetime < now ∨ slot.lastUsed + limits.idleTimeout < now

theorem isStale_iff : slot.isStale limits now = true ↔ slot.IsPast limits now := by
  simp only [Slot.isStale, Slot.isExpired, Slot.isIdleExpired, Slot.IsPast, Bool.or_eq_true,
    decide_eq_true_eq, Nat.lt_sub_iff_add_lt']

/-- The queue consists of the connections at its front that are past a limit, as many as there are,
and of the rest. -/
structure Divides (idle : List Slot) (limits : Limits) (now : Time) (closed rest : List Slot) :
    Prop where
  parts : idle = closed ++ rest
  past : ∀ slot ∈ closed, slot.IsPast limits now
  fresh : ∀ slot ∈ rest.head?, ¬ slot.IsPast limits now

theorem divides_iff : Divides pool.idle pool.limits now closed rest ↔
    pool.stale now = closed ∧ pool.idle.dropWhile (·.isStale pool.limits now) = rest := by
  rw [stale, takeWhile_dropWhile_iff]
  simp only [isStale_iff, ← Bool.not_eq_true]
  constructor
  · rintro ⟨hparts, hpast, hfresh⟩
    exact ⟨hparts, hpast, hfresh⟩
  · rintro ⟨hparts, hpast, hfresh⟩
    exact ⟨hparts, hpast, hfresh⟩

/-- A connection used now is not past a limit unless it was open for too long before. -/
theorem Slot.not_isPast_used (h : ¬ slot.IsPast limits now) :
    ¬ Slot.IsPast { slot with lastUsed := now } limits now := by
  rintro (hexpired | hidle)
  · exact h (.inl hexpired)
  · exact Nat.not_lt.2 (Nat.le_add_right now limits.idleTimeout) hidle

/-- Where the first connection has not been idle for too long none behind it has. -/
theorem InOrder.not_idle (h : InOrder now (slot :: others))
    (hfresh : ¬ slot.IsPast limits later) :
    ∀ other ∈ others, slot.lastUsed ≤ other.lastUsed ∧
      later ≤ other.lastUsed + limits.idleTimeout := by
  intro other hm
  have hle := (List.pairwise_cons.1 h.sorted).1 other hm
  have hrecent : later ≤ slot.lastUsed + limits.idleTimeout :=
    Nat.not_lt.1 fun hpast => hfresh (.inr hpast)
  exact ⟨hle, Nat.le_trans hrecent (Nat.add_le_add_right hle _)⟩

/-! ## What a request gets -/

namespace Divides

theorem turn_reuse (h : Divides pool.idle pool.limits now closed (slot :: others)) :
    pool.turn now = (.reuse { slot with lastUsed := now },
      { pool with idle := others, openCount := pool.openCount - closed.length }) := by
  obtain ⟨-, hdrop⟩ := divides_iff.1 h
  have hclosed : pool.idle.length - (slot :: others).length = closed.length := by
    rw [h.parts, List.length_append, Nat.add_sub_cancel]
  unfold turn
  simp only [hdrop, hclosed]

theorem turn_empty (h : Divides pool.idle pool.limits now closed []) :
    pool.turn now = if pool.openCount - closed.length < pool.limits.maxConnections then
        (.mayOpen, { pool with idle := [], openCount := pool.openCount - closed.length + 1 })
      else (.mustWait, { pool with idle := [], openCount := pool.openCount - closed.length }) := by
  obtain ⟨-, hdrop⟩ := divides_iff.1 h
  have hclosed : pool.idle.length - ([] : List Slot).length = closed.length := by
    rw [h.parts, List.append_nil]
    rfl
  unfold turn
  simp only [hdrop, hclosed]

/-- A connection that is left is handed out. -/
theorem acquire_reuse (h : Divides pool.idle pool.limits w.tick.now closed (slot :: others)) :
    w.acquire pool = (.ok { slot with lastUsed := w.tick.now },
      { pool with idle := others, openCount := pool.openCount - closed.length },
      w.tick.closeAll closed) := by
  unfold World.acquire
  simp only [h.turn_reuse, (divides_iff.1 h).1]

/-- With none left a new one is opened if there is a place for it. -/
theorem acquire_open (h : Divides pool.idle pool.limits w.tick.now closed [])
    (hroom : pool.openCount - closed.length < pool.limits.maxConnections) :
    w.acquire pool =
      match (w.tick.closeAll closed).disk.openDatabase pool.path with
      | none => (.error .cannotOpen,
          { pool with idle := [], openCount := pool.openCount - closed.length },
          w.tick.closeAll closed)
      | some (handle, disk) =>
        (.ok ⟨⟨pool.issued + 1, handle, none⟩, w.tick.now, w.tick.now⟩,
          { pool with
            idle := [], openCount := pool.openCount - closed.length + 1, issued := pool.issued + 1 },
          { w.tick.closeAll closed with disk }) := by
  unfold World.acquire
  simp only [h.turn_empty, if_pos hroom, (divides_iff.1 h).1, Crowd.closeAll_now]
  rfl

/-- Without a place nothing is done until the time is up. -/
theorem acquire_wait (h : Divides pool.idle pool.limits w.tick.now closed [])
    (hfull : pool.limits.maxConnections ≤ pool.openCount - closed.length) :
    w.acquire pool = (.error .timeout,
      { pool with idle := [], openCount := pool.openCount - closed.length },
      (w.tick.closeAll closed).wait pool.limits.acquireTimeout) := by
  unfold World.acquire
  simp only [h.turn_empty, if_neg (Nat.not_lt.2 hfull), (divides_iff.1 h).1]

end Divides

namespace Crowd

variable {c : Crowd}

theorem inOrder_start (path : String) (limits : Limits) (events : List Event) :
    InOrder ((start path limits).run events).now ((start path limits).run events).pool.idle :=
  inOrder_run (.nil 0) events

/-- What a request alone gets of a crowd's pool, by the idle connections that are past a limit and
those behind them. -/
structure Serves (c : Crowd) (limits : Limits) (w : World) (closed rest : List Slot) : Prop where
  /-- The first of the rest is handed out. It is outside any transaction and within its limits, and
  no other was used before it or has been idle for too long. -/
  reuse : ∀ slot others, rest = slot :: others →
    w.acquire c.pool = (.ok { slot with lastUsed := w.tick.now },
        { c.pool with idle := others, openCount := c.pool.openCount - closed.length },
        w.tick.closeAll closed) ∧
      slot.connection.isInTransaction = false ∧
      ¬ Slot.IsPast { slot with lastUsed := w.tick.now } limits w.tick.now ∧
      ∀ other ∈ others, slot.lastUsed ≤ other.lastUsed ∧
        w.tick.now ≤ other.lastUsed + limits.idleTimeout
  /-- With none left the file is opened if there is a place, -/
  opens : rest = [] → c.pool.openCount - closed.length < limits.maxConnections →
    ∀ handle disk, (w.tick.closeAll closed).disk.openDatabase c.pool.path = some (handle, disk) →
      w.acquire c.pool = (.ok ⟨⟨c.pool.issued + 1, handle, none⟩, w.tick.now, w.tick.now⟩,
        { c.pool with
          idle := []
          openCount := c.pool.openCount - closed.length + 1
          issued := c.pool.issued + 1 },
        { w.tick.closeAll closed with disk })
  /-- and if it cannot be, as many connections are in use as before. -/
  cannotOpen : rest = [] → c.pool.openCount - closed.length < limits.maxConnections →
    (w.tick.closeAll closed).disk.openDatabase c.pool.path = none →
      w.acquire c.pool = (.error .cannotOpen,
          { c.pool with idle := [], openCount := c.pool.openCount - closed.length },
          w.tick.closeAll closed) ∧
        (w.acquire c.pool).2.1.stats.inUse = c.pool.stats.inUse
  /-- Without a place the time goes by and nothing is done, -/
  waits : rest = [] → limits.maxConnections ≤ c.pool.openCount - closed.length →
    closed = [] ∧
      w.acquire c.pool = (.error .timeout, c.pool, w.tick.wait limits.acquireTimeout)
  /-- and that is so only where every place is held or kept for a connection being opened. -/
  timeout : (w.acquire c.pool).1 = .error .timeout →
    (w.acquire c.pool).2.1 = c.pool ∧ c.held + c.opening = limits.maxConnections

/-- If every place is taken without the idle connections that are past a limit, there are none. -/
theorem Inv.full (h : Inv limits c) (hd : Divides c.pool.idle limits now closed [])
    (hfull : limits.maxConnections ≤ c.pool.openCount - closed.length) :
    closed = [] ∧ c.held + c.opening = limits.maxConnections := by
  have hcount := h.count
  have hbound := h.bound
  have hlength : c.pool.idle.length = closed.length := by rw [hd.parts, List.append_nil]
  exact ⟨List.length_eq_zero_iff.1 (by omega), by omega⟩

theorem Inv.waits (h : Inv limits c)
    (hd : Divides c.pool.idle limits w.tick.now closed [])
    (hfull : limits.maxConnections ≤ c.pool.openCount - closed.length) :
    closed = [] ∧
      w.acquire c.pool = (.error .timeout, c.pool, w.tick.wait limits.acquireTimeout) := by
  obtain rfl := h.limited
  obtain ⟨rfl, -⟩ := h.full hd hfull
  have hsame : { c.pool with idle := [] } = c.pool := by rw [← show c.pool.idle = [] from hd.parts]
  refine ⟨rfl, (hd.acquire_wait hfull).trans ?_⟩
  show (Except.error PoolError.timeout, { c.pool with idle := [] }, _) = _
  rw [hsame]
  rfl

/-- Who waits in vain has found every place taken. -/
theorem Inv.full_of_timeout (h : Inv limits c)
    (hd : Divides c.pool.idle limits w.tick.now closed rest)
    (htimeout : (w.acquire c.pool).1 = .error .timeout) :
    rest = [] ∧ limits.maxConnections ≤ c.pool.openCount - closed.length := by
  obtain rfl := h.limited
  cases rest with
  | cons slot others =>
    rw [hd.acquire_reuse] at htimeout
    cases htimeout
  | nil =>
    refine ⟨rfl, Nat.not_lt.1 fun hroom => ?_⟩
    rw [hd.acquire_open hroom] at htimeout
    split at htimeout
    · cases htimeout
    · cases htimeout

theorem Inv.serves (h : Inv limits c) (horder : InOrder now c.pool.idle)
    (hd : Divides c.pool.idle limits w.tick.now closed rest) : c.Serves limits w closed rest := by
  obtain rfl := h.limited
  refine ⟨?_, ?_, ?_, ?_, ?_⟩
  · rintro slot others rfl
    have hfresh : ¬ slot.IsPast c.pool.limits w.tick.now := hd.fresh slot rfl
    have hidle : slot ∈ c.pool.idle := hd.parts ▸ List.mem_append_right _ List.mem_cons_self
    have hbehind := horder.of_suffix ⟨closed, hd.parts.symm⟩
    exact ⟨hd.acquire_reuse, h.free slot hidle, Slot.not_isPast_used hfresh,
      hbehind.not_idle hfresh⟩
  · rintro rfl hroom handle disk hopen
    rw [hd.acquire_open hroom, hopen]
  · rintro rfl hroom hopen
    have hacquire := hd.acquire_open hroom
    rw [hopen] at hacquire
    refine ⟨hacquire, ?_⟩
    have hlength : c.pool.idle.length = closed.length := by rw [hd.parts, List.append_nil]
    rw [hacquire]
    show c.pool.openCount - closed.length - 0 = c.pool.openCount - c.pool.idle.length
    omega
  · rintro rfl hfull
    exact h.waits hd hfull
  · intro htimeout
    obtain ⟨rfl, hfull⟩ := h.full_of_timeout hd htimeout
    obtain ⟨-, hacquire⟩ := h.waits hd hfull
    exact ⟨by rw [hacquire], (h.full hd hfull).2⟩

/-- Whatever has happened to a pool, its idle connections are in the order of their last use. A
request alone closes those at the front that are past a limit and no others; the first that is left
is handed out, and none behind it has been idle for too long. If none is left a new one is opened if
there is a place, and else the request waits in vain. -/
theorem served_in_order (path : String) (limits : Limits) (events : List Event) (w : World) :
    let c := (start path limits).run events
    InOrder c.now c.pool.idle ∧
      ∃ closed rest, Divides c.pool.idle limits w.tick.now closed rest ∧
        c.Serves limits w closed rest := by
  intro c
  have hinv : Inv limits c := (inv_start path limits).run events
  have horder : InOrder c.now c.pool.idle := inOrder_start path limits events
  have hdivides : Divides c.pool.idle c.pool.limits w.tick.now (c.pool.stale w.tick.now) _ :=
    divides_iff.2 ⟨rfl, rfl⟩
  rw [hinv.limited] at hdivides
  exact ⟨horder, _, _, hdivides, hinv.serves horder hdivides⟩

/-- Of three idle connections the first has been idle for too long. It is closed, and the second is
handed out. -/
theorem served_in_order_three :
    let limits := { Limits.standard with maxConnections := 3, idleTimeout := 10 }
    let events : List Event := [.come, .come, .come, .move 0 .request, .move 0 (.opened inMemory),
      .move 1 .request, .move 1 (.opened inMemory), .move 2 .request, .move 2 (.opened inMemory),
      .wait 1, .move 0 .release, .wait 5, .move 1 .release, .wait 1, .move 2 .release]
    let c := (start "geo.db" limits).run events
    let w := World.start.wait 14
    let used (serial : Nat) (lastUsed : Time) : Slot := ⟨⟨serial, inMemory, none⟩, 0, lastUsed⟩
    c.pool.idle = [used 1 1, used 2 6, used 3 7] ∧
      Divides c.pool.idle limits w.tick.now [used 1 1] [used 2 6, used 3 7] ∧
      w.acquire c.pool = (.ok (used 2 15),
        { c.pool with idle := [used 3 7], openCount := 2 }, w.tick.closeAll [used 1 1]) := by
  intro limits events c w used
  have hcrowd : (start "geo.db" limits).run events =
      ⟨⟨"geo.db", limits, [used 1 1, used 2 6, used 3 7], 3, 3⟩, 7, [.gone, .gone, .gone], []⟩ := by
    decide
  obtain ⟨-, closed, rest, hdivides, hserves⟩ := served_in_order "geo.db" limits events w
  rw [hcrowd] at hdivides hserves
  have hc : c = _ := hcrowd
  rw [hc]
  obtain ⟨hclosed, hrest⟩ := divides_iff.1 hdivides
  have hfront : closed = [used 1 1] := hclosed.symm
  have hbehind : rest = [used 2 6, used 3 7] := hrest.symm
  rw [hfront, hbehind] at hdivides hserves
  exact ⟨rfl, hdivides, (hserves.reuse _ _ rfl).1⟩

end Crowd

end Gazetteer.Pool
