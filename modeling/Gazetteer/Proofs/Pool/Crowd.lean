/-
Gazetteer.Proofs.Pool.Crowd — a pool loses no place and lends no connection twice.

Whatever its borrowers do, and in whatever order, a pool counts the connections
that are idle, held or being opened, and never more of them than it may open. A
connection is idle, in one borrower's hands, or closed for good. So the count goes
up and down by what each event takes and gives back, and there is always as much
to give back: an idle connection past a limit, a failed opening, a connection that
is closed and one left inside a transaction all give their place back.
-/
import Gazetteer.Pool.Crowd
import Gazetteer.Proofs.Members
import Gazetteer.Proofs.World

namespace Gazetteer.Pool

open Members

variable {pool : Pool} {now : Time} {borrower : Borrower} {move : Move} {slot : Slot}

/-! ## What a borrower has -/

def Borrower.isOpening : Borrower → Bool
  | opening => true
  | arriving _ | waiting _ | holding _ | gone => false

def Borrower.isHolding : Borrower → Bool
  | holding _ => true
  | arriving _ | waiting _ | opening | gone => false

/-- It is the connection of a serial number. -/
def Slot.isNumbered (serial : Nat) (slot : Slot) : Bool := slot.connection.serial == serial

/-- A borrower holds the connection of a serial number. -/
def Borrower.holds (serial : Nat) : Borrower → Bool
  | holding slot => slot.isNumbered serial
  | arriving _ | waiting _ | opening | gone => false

/-- A serial number has been given to a connection. -/
def isIssued (pool : Pool) (serial : Nat) : Bool := 0 < serial && serial ≤ pool.issued

/-! ## What a move takes and gives back -/

/-- How many places a turn in the lock takes. -/
def Turn.reserved : Turn → Nat
  | mayOpen => 1
  | reuse _ | mustWait => 0

/-- How many places a move takes. -/
def Borrower.reserved (pool : Pool) (now : Time) : Borrower → Move → Nat
  | arriving _, .request => (pool.turn now).1.reserved
  | waiting _, .request => (pool.turn now).1.reserved
  | _, _ => 0

/-- How many places a move gives back: the count of the pool goes down by one as often. -/
def Borrower.returned (pool : Pool) (now : Time) : Borrower → Move → Nat
  | arriving _, .request => (pool.stale now).length
  | waiting _, .request => (pool.stale now).length
  | opening, .failed => 1
  | holding slot, .release => if pool.keeps slot now then 0 else 1
  | holding _, .discard => 1
  | _, _ => 0

/-- A move in which some places are given back and some are taken. -/
structure Moves (pool : Pool) (borrower : Borrower) (returned reserved : Nat)
    (after : Borrower × Pool × List Slot) : Prop where
  limits : after.2.1.limits = pool.limits
  enough : returned ≤ pool.openCount
  count : after.2.1.openCount + returned = pool.openCount + reserved
  bound : pool.openCount ≤ pool.limits.maxConnections →
    after.2.1.openCount ≤ pool.limits.maxConnections
  places : after.2.1.idle.length + after.1.isHolding.toNat + after.1.isOpening.toNat + returned =
    pool.idle.length + borrower.isHolding.toNat + borrower.isOpening.toNat + reserved
  serials : ∀ serial,
    after.2.1.idle.countP (·.isNumbered serial) + (after.1.holds serial).toNat +
        after.2.2.countP (·.isNumbered serial) + (pool.isIssued serial).toNat =
      pool.idle.countP (·.isNumbered serial) + (borrower.holds serial).toNat +
        (after.2.1.isIssued serial).toNat
  free : ∀ slot ∈ after.2.1.idle,
    slot ∈ pool.idle ∨ slot.connection.isInTransaction = false

/-- A pool counts at least what is idle and what a borrower has. -/
def Covers (pool : Pool) (borrower : Borrower) : Prop :=
  pool.idle.length + borrower.isHolding.toNat + borrower.isOpening.toNat ≤ pool.openCount

/-- A move that has nothing to do with the pool. -/
theorem moves_aside (pool : Pool) (borrower after : Borrower)
    (hh : after.isHolding = borrower.isHolding) (ho : after.isOpening = borrower.isOpening)
    (hn : ∀ serial, after.holds serial = borrower.holds serial) :
    Moves pool borrower 0 0 (after, pool, []) := by
  refine ⟨rfl, Nat.zero_le _, rfl, id, ?_, ?_, fun _ hm => .inl hm⟩
  · rw [hh, ho]
  · intro serial
    rw [hn]
    rfl

theorem moves_nothing (pool : Pool) (borrower : Borrower) :
    Moves pool borrower 0 0 (borrower, pool, []) :=
  moves_aside pool borrower borrower rfl rfl fun _ => rfl

/-- Of the idle connections some are closed, the next may pass into the hands of the borrower, and
the rest stay idle. -/
theorem moves_turn (hc : Covers pool borrower) (hh : borrower.isHolding = false)
    (ho : borrower.isOpening = false) (hn : ∀ serial, borrower.holds serial = false)
    {after : Borrower} {reserved : Nat} (closed passed rest : List Slot)
    (hidle : pool.idle = closed ++ passed ++ rest)
    (hplaces : after.isHolding.toNat + after.isOpening.toNat = passed.length + reserved)
    (hholds : ∀ serial, (after.holds serial).toNat = passed.countP (·.isNumbered serial))
    (hbound : pool.openCount ≤ pool.limits.maxConnections →
      pool.openCount - closed.length + reserved ≤ pool.limits.maxConnections) :
    Moves pool borrower closed.length reserved
      (after, { pool with idle := rest, openCount := pool.openCount - closed.length + reserved },
        closed) := by
  rw [Covers, hh, ho, Bool.toNat_false] at hc
  have hlength := congrArg List.length hidle
  rw [List.length_append, List.length_append] at hlength
  refine ⟨rfl, by omega, ?_, hbound, ?_, ?_, ?_⟩
  · show pool.openCount - closed.length + reserved + closed.length = pool.openCount + reserved
    omega
  · rw [hh, ho, Bool.toNat_false]
    dsimp only
    omega
  · intro serial
    have hserials := congrArg (List.countP (·.isNumbered serial)) hidle
    rw [List.countP_append, List.countP_append] at hserials
    rw [hn, hserials, hholds]
    show rest.countP _ + passed.countP _ + closed.countP _ + (pool.isIssued serial).toNat =
      closed.countP _ + passed.countP _ + rest.countP _ + 0 + (pool.isIssued serial).toNat
    omega
  · intro slot hm
    rw [hidle]
    exact .inl (List.mem_append_right _ hm)

theorem moves_request (hc : Covers pool borrower) (hh : borrower.isHolding = false)
    (ho : borrower.isOpening = false) (hn : ∀ serial, borrower.holds serial = false)
    (deadline : Time) :
    Moves pool borrower (pool.stale now).length (pool.turn now).1.reserved
      (Borrower.request pool now deadline) := by
  unfold Borrower.request
  obtain ⟨slot, rest, hidle, heq⟩ | ⟨hidle, hroom, heq⟩ | ⟨hidle, -, heq⟩ := turn_eq pool now
  all_goals rw [heq]
  · refine moves_turn hc hh ho hn (pool.stale now) [slot] rest ?_ rfl ?_
      (Nat.le_trans (Nat.sub_le _ _))
    · rw [hidle, List.append_assoc]
      rfl
    · intro serial
      rw [countP_cons, List.countP_nil, Nat.zero_add]
      rfl
  · refine moves_turn hc hh ho hn (pool.stale now) [] [] ?_ rfl (fun _ => rfl) fun _ => hroom
    rw [List.append_nil, List.append_nil, ← hidle]
  · refine moves_turn hc hh ho hn (pool.stale now) [] [] ?_ rfl (fun _ => rfl)
      (Nat.le_trans (Nat.sub_le _ _))
    rw [List.append_nil, List.append_nil, ← hidle]

/-- A new connection has the next serial number and is in the hands of who has opened it. -/
theorem moves_opened (pool : Pool) (handle : Handle) (now : Time) :
    Moves pool .opening 0 0
      (.holding (pool.opened handle now).1, (pool.opened handle now).2, []) := by
  refine ⟨rfl, Nat.zero_le _, rfl, id, rfl, ?_, fun _ hm => .inl hm⟩
  intro serial
  show pool.idle.countP _ + (pool.issued + 1 == serial).toNat + 0 + (pool.isIssued serial).toNat =
    pool.idle.countP _ + 0 + (decide (0 < serial) && decide (serial ≤ pool.issued + 1)).toNat
  -- the new number is the only one that becomes issued
  have hnext : (pool.issued + 1 == serial).toNat + (pool.isIssued serial).toNat =
      (decide (0 < serial) && decide (serial ≤ pool.issued + 1)).toNat := by
    rw [isIssued]
    by_cases hnew : pool.issued + 1 = serial
    · subst hnew
      simp
    · have hold : serial ≤ pool.issued + 1 ↔ serial ≤ pool.issued := by omega
      simp [hnew, hold]
  omega

/-- The place of an opening that failed is given back. -/
theorem moves_failed (hc : Covers pool .opening) :
    Moves pool .opening 1 0 (.gone, pool.openingFailed, []) := by
  change pool.idle.length + 0 + 1 ≤ pool.openCount at hc
  refine ⟨rfl, by omega, ?_, fun hb => Nat.le_trans (Nat.sub_le _ _) hb, rfl, fun _ => rfl,
    fun _ hm => .inl hm⟩
  show pool.openCount - 1 + 1 = pool.openCount + 0
  omega

/-- A connection that its holder closes is given up with its place. -/
theorem moves_forget (hc : Covers pool (.holding slot)) :
    Moves pool (.holding slot) 1 0 (.gone, pool.forget, [slot]) := by
  change pool.idle.length + 1 + 0 ≤ pool.openCount at hc
  refine ⟨rfl, by omega, ?_, fun hb => Nat.le_trans (Nat.sub_le _ _) hb, rfl, ?_,
    fun _ hm => .inl hm⟩
  · show pool.openCount - 1 + 1 = pool.openCount + 0
    omega
  · intro serial
    show pool.idle.countP _ + 0 + [slot].countP _ + _ = _
    rw [countP_cons, List.countP_nil, Nat.zero_add]
    rfl

/-- A connection that is given back is idle, outside any transaction, or closed. -/
theorem moves_release (hc : Covers pool (.holding slot)) (now : Time) :
    Moves pool (.holding slot) (if pool.keeps slot now then 0 else 1) 0
      (.gone, (pool.release slot now).2, if pool.keeps slot now then [] else [slot]) := by
  cases hk : pool.keeps slot now with
  | true =>
    have hkept : (pool.release slot now).2 =
        { pool with idle := pool.idle ++ [{ slot with lastUsed := now }] } := by
      rw [release, if_pos hk]
    rw [hkept]
    refine ⟨rfl, Nat.zero_le _, rfl, id, ?_, ?_, ?_⟩
    · show (pool.idle ++ [_]).length + 0 + 0 + 0 = pool.idle.length + 1 + 0 + 0
      rw [List.length_append, List.length_singleton]
    · intro serial
      show (pool.idle ++ [_]).countP _ + 0 + 0 + _ = _
      rw [countP_append_one]
      rfl
    · intro other hm
      obtain hm | hm := List.mem_append.1 hm
      · exact .inl hm
      · obtain rfl := List.mem_singleton.1 hm
        rw [keeps, Bool.and_eq_true] at hk
        exact .inr (Bool.not_eq_true' _ ▸ hk.1)
  | false =>
    have hclosed : (pool.release slot now).2 = pool.forget := by
      rw [release, if_neg (by simp [hk])]
    rw [hclosed]
    exact moves_forget hc

/-- Every move of a borrower gives back what the pool has, and takes what there is room for. -/
theorem moves (hc : Covers pool borrower) (now : Time) (move : Move) :
    Moves pool borrower (borrower.returned pool now move) (borrower.reserved pool now move)
      (borrower.step pool now move) := by
  cases borrower with
  | arriving deadline =>
    cases move with
    | request => exact moves_request hc rfl rfl (fun _ => rfl) deadline
    | _ => exact moves_nothing pool _
  | waiting deadline =>
    cases move with
    | request => exact moves_request hc rfl rfl (fun _ => rfl) deadline
    | giveUp =>
      rw [Borrower.step]
      split
      · exact moves_aside pool (.waiting deadline) .gone rfl rfl fun _ => rfl
      · exact moves_nothing pool (.waiting deadline)
    | _ => exact moves_nothing pool _
  | opening =>
    cases move with
    | opened handle => exact moves_opened pool handle now
    | failed => exact moves_failed hc
    | _ => exact moves_nothing pool _
  | holding slot =>
    cases move with
    | work draft => exact moves_aside pool (.holding slot) (.holding _) rfl rfl fun _ => rfl
    | release => exact moves_release hc now
    | discard => exact moves_forget hc
    | _ => exact moves_nothing pool _
  | gone => exact moves_nothing pool _

/-! ## Crowds -/

namespace Crowd

variable {c : Crowd} {limits : Limits}

/-- How many connections are in somebody's hands. -/
def held (c : Crowd) : Nat := c.borrowers.countP (·.isHolding)

/-- How many connections are being opened. -/
def opening (c : Crowd) : Nat := c.borrowers.countP (·.isOpening)

/-- How often the connection of a serial number is there: idle, in somebody's hands, or closed. -/
def occurrences (c : Crowd) (serial : Nat) : Nat :=
  c.pool.idle.countP (·.isNumbered serial) + c.borrowers.countP (·.holds serial) +
    c.closed.countP (·.isNumbered serial)

/-- How many places of the pool an event takes. -/
def reserved (c : Crowd) : Event → Nat
  | .move number move => c.borrowers[number]?.elim 0 fun b => b.reserved c.pool c.now move
  | .come | .wait _ => 0

/-- How many places of the pool an event gives back. -/
def returned (c : Crowd) : Event → Nat
  | .move number move => c.borrowers[number]?.elim 0 fun b => b.returned c.pool c.now move
  | .come | .wait _ => 0

/-- The pool counts what there is, and every connection is in one place. -/
structure Inv (limits : Limits) (c : Crowd) : Prop where
  limited : c.pool.limits = limits
  count : c.pool.openCount = c.pool.idle.length + c.held + c.opening
  bound : c.pool.openCount ≤ limits.maxConnections
  serials : ∀ serial, c.occurrences serial = (c.pool.isIssued serial).toNat
  free : ∀ slot ∈ c.pool.idle, slot.connection.isInTransaction = false

theorem inv_start (path : String) (limits : Limits) : Inv limits (start path limits) := by
  refine ⟨rfl, rfl, Nat.zero_le _, ?_, fun _ hm => absurd hm List.not_mem_nil⟩
  intro serial
  show 0 = (decide (0 < serial) && decide (serial ≤ 0)).toNat
  cases serial with
  | zero => rfl
  | succ serial => rfl

theorem next_of_some {number : Nat} (hn : c.borrowers[number]? = some borrower) (move : Move) :
    c.next (.move number move) =
      ⟨(borrower.step c.pool c.now move).2.1, c.now,
        c.borrowers.set number (borrower.step c.pool c.now move).1,
        c.closed ++ (borrower.step c.pool c.now move).2.2⟩ := by
  simp only [next, hn]

theorem next_of_none {number : Nat} (hn : c.borrowers[number]? = none) (move : Move) :
    c.next (.move number move) = c := by
  simp only [next, hn]

/-- A pool counts at least what one of its borrowers has. -/
theorem Inv.covers (h : Inv limits c) {number : Nat}
    (hn : c.borrowers[number]? = some borrower) : Covers c.pool borrower := by
  have hh : _ + borrower.isHolding.toNat = c.held + 0 := countP_set (·.isHolding) .gone hn
  have ho : _ + borrower.isOpening.toNat = c.opening + 0 := countP_set (·.isOpening) .gone hn
  rw [Covers, h.count]
  omega

/-- The move of a borrower of the crowd. -/
theorem Inv.moves (h : Inv limits c) {number : Nat}
    (hn : c.borrowers[number]? = some borrower) (move : Move) :
    Moves c.pool borrower (c.returned (.move number move)) (c.reserved (.move number move))
      (borrower.step c.pool c.now move) := by
  rw [returned, reserved, hn]
  exact Pool.moves (h.covers hn) c.now move

theorem Inv.next (h : Inv limits c) (event : Event) : Inv limits (c.next event) := by
  cases event with
  | come =>
    have harriving : ∀ p : Borrower → Bool, (∀ deadline, p (.arriving deadline) = false) →
        (c.next .come).borrowers.countP p = c.borrowers.countP p := by
      intro p hp
      show (c.borrowers ++ [_]).countP p = _
      rw [countP_append_one, hp]
      rfl
    refine ⟨h.limited, ?_, h.bound, ?_, h.free⟩
    · rw [held, opening, harriving _ fun _ => rfl, harriving _ fun _ => rfl]
      exact h.count
    · intro serial
      rw [occurrences, harriving _ fun _ => rfl]
      exact h.serials serial
  | wait span => exact ⟨h.limited, h.count, h.bound, h.serials, h.free⟩
  | move number move =>
    cases hn : c.borrowers[number]? with
    | none => rwa [next_of_none hn]
    | some borrower =>
      -- in every count over the borrowers what this one had makes way for what it has
      have hm := h.moves hn move
      rw [next_of_some hn]
      refine ⟨hm.limits.trans h.limited, ?_, ?_, ?_, ?_⟩
      · have hh := countP_set (·.isHolding) (borrower.step c.pool c.now move).1 hn
        have ho := countP_set (·.isOpening) (borrower.step c.pool c.now move).1 hn
        have hplaces := hm.places
        have hcount := hm.count
        have hbefore := h.count
        rw [held, opening] at hbefore ⊢
        dsimp only
        omega
      · rw [← h.limited]
        exact hm.bound (h.limited ▸ h.bound)
      · intro serial
        have hholds := countP_set (·.holds serial) (borrower.step c.pool c.now move).1 hn
        have hserials := hm.serials serial
        have hbefore := h.serials serial
        rw [occurrences] at hbefore ⊢
        dsimp only
        rw [List.countP_append]
        omega
      · intro slot hs
        exact (hm.free slot hs).elim (h.free slot) id

theorem run_nil (c : Crowd) : c.run [] = c := rfl

theorem run_append (c : Crowd) (first second : List Event) :
    c.run (first ++ second) = (c.run first).run second := List.foldl_append

theorem Inv.run (h : Inv limits c) (events : List Event) : Inv limits (c.run events) := by
  induction events generalizing c with
  | nil => exact h
  | cons event events ih => exact ih (h.next event)

/-! ## Closed connections -/

theorem closed_next (c : Crowd) (event : Event) : c.closed <+: (c.next event).closed := by
  cases event with
  | come => exact List.prefix_rfl
  | wait span => exact List.prefix_rfl
  | move number move =>
    cases hn : c.borrowers[number]? with
    | none => exact ⟨[], by rw [next_of_none hn, List.append_nil]⟩
    | some borrower => exact ⟨_, by rw [next_of_some hn]⟩

theorem closed_run (c : Crowd) (events : List Event) : c.closed <+: (c.run events).closed := by
  induction events generalizing c with
  | nil => exact List.prefix_rfl
  | cons event events ih => exact (c.closed_next event).trans (ih (c.next event))

/-- A closed connection is neither idle nor in anybody's hands. -/
theorem Inv.closed (h : Inv limits c) (hm : slot ∈ c.closed) :
    (∀ other ∈ c.pool.idle, other.connection.serial ≠ slot.connection.serial) ∧
      ∀ other, .holding other ∈ c.borrowers →
        other.connection.serial ≠ slot.connection.serial := by
  have hclosed : 0 < c.closed.countP (·.isNumbered slot.connection.serial) :=
    List.countP_pos_iff.2 ⟨slot, hm, beq_self_eq_true _⟩
  have hone := h.serials slot.connection.serial
  have hle := Bool.toNat_le (c.pool.isIssued slot.connection.serial)
  rw [Crowd.occurrences] at hone
  constructor
  · intro other ho heq
    have hidle : 0 < c.pool.idle.countP (·.isNumbered slot.connection.serial) :=
      List.countP_pos_iff.2 ⟨other, ho, beq_iff_eq.2 heq⟩
    omega
  · intro other ho heq
    have hheld : 0 < c.borrowers.countP (·.holds slot.connection.serial) :=
      List.countP_pos_iff.2 ⟨.holding other, ho, beq_iff_eq.2 heq⟩
    omega

/-- No two borrowers hold one connection. -/
theorem Inv.exclusive (h : Inv limits c) {i j : Nat} {first second : Slot}
    (hi : c.borrowers[i]? = some (.holding first)) (hj : c.borrowers[j]? = some (.holding second))
    (heq : first.connection.serial = second.connection.serial) : i = j := by
  have hone := h.serials second.connection.serial
  have hle := Bool.toNat_le (c.pool.isIssued second.connection.serial)
  rw [Crowd.occurrences] at hone
  have hheld : c.borrowers.countP (·.holds second.connection.serial) ≤ 1 := by omega
  exact eq_of_countP_le_one hheld hi hj (beq_iff_eq.2 heq) (beq_self_eq_true _)

/-! ## The balance of the pool -/

/-- The count goes down and up by what an event gives back and takes; there is as much as it gives
back. -/
theorem Inv.balance (h : Inv limits c) (event : Event) :
    c.returned event ≤ c.pool.openCount ∧
      (c.next event).pool.openCount + c.returned event =
        c.pool.openCount + c.reserved event := by
  cases event with
  | come => exact ⟨Nat.zero_le _, rfl⟩
  | wait span => exact ⟨Nat.zero_le _, rfl⟩
  | move number move =>
    cases hn : c.borrowers[number]? with
    | none =>
      rw [next_of_none hn, returned, reserved, hn]
      exact ⟨Nat.zero_le _, rfl⟩
    | some borrower =>
      have hm := h.moves hn move
      rw [next_of_some hn]
      exact ⟨hm.enough, hm.count⟩

/-- As long as fewer connections are held or being opened than the pool may open, nobody waits. -/
theorem Inv.turn_ne_mustWait (h : Inv limits c) (hroom : c.held + c.opening < limits.maxConnections)
    (time : Time) : (c.pool.turn time).1 ≠ .mustWait := by
  obtain ⟨slot, rest, -, heq⟩ | ⟨-, -, heq⟩ | ⟨hidle, hfull, -⟩ := turn_eq c.pool time
  · rw [heq]
    exact Turn.noConfusion
  · rw [heq]
    exact Turn.noConfusion
  · have hcount := h.count
    rw [← hidle, h.limited] at hfull
    omega

/-- Whatever happens, a pool counts the connections that are idle, held or being opened, and no more
than it may open. Every connection that it has opened is in one place: idle, in the hands of one
borrower, or closed, and then for good. Idle connections are outside any transaction. Neither what
an event gives back nor what is idle is ever more than the count. So no place is lost: nobody waits
as long as fewer connections are held or being opened than the pool may open. -/
theorem nothing_lost (path : String) (limits : Limits) (events : List Event) :
    let now := (start path limits).run events
    now.pool.openCount = now.pool.idle.length + now.held + now.opening ∧
      now.pool.openCount ≤ limits.maxConnections ∧
      (∀ serial, now.occurrences serial = if 0 < serial ∧ serial ≤ now.pool.issued then 1 else 0) ∧
      (∀ (i j : Nat) (first second : Slot), now.borrowers[i]? = some (.holding first) →
        now.borrowers[j]? = some (.holding second) →
        first.connection.serial = second.connection.serial → i = j) ∧
      (∀ slot ∈ now.closed, ∀ more : List Event,
        let later := now.run more
        slot ∈ later.closed ∧
          (∀ other ∈ later.pool.idle, other.connection.serial ≠ slot.connection.serial) ∧
          ∀ other, .holding other ∈ later.borrowers →
            other.connection.serial ≠ slot.connection.serial) ∧
      (∀ slot ∈ now.pool.idle, slot.connection.isInTransaction = false) ∧
      (∀ event, now.returned event ≤ now.pool.openCount ∧
        (now.next event).pool.openCount + now.returned event =
          now.pool.openCount + now.reserved event) ∧
      now.pool.stats.idle ≤ now.pool.stats.openCount ∧
      now.pool.stats.inUse = now.held + now.opening ∧
      (now.held = 0 → now.opening = 0 → now.pool.openCount = now.pool.idle.length) ∧
      (now.held + now.opening < limits.maxConnections →
        ∀ time, (now.pool.turn time).1 ≠ .mustWait) := by
  intro now
  have h : Inv limits now := (inv_start path limits).run events
  have hcount := h.count
  refine ⟨hcount, h.bound, ?_, fun i j first second => h.exclusive, ?_, h.free, h.balance, ?_, ?_,
    ?_, h.turn_ne_mustWait⟩
  · intro serial
    rw [h.serials serial, isIssued, ← Bool.decide_and]
    split
    · next hin =>
      rw [decide_eq_true hin]
      rfl
    · next hin =>
      rw [decide_eq_false hin]
      rfl
  · intro slot hm more later
    have hlater : slot ∈ later.closed := (now.closed_run more).subset hm
    exact ⟨hlater, (h.run more).closed hlater⟩
  · show now.pool.idle.length ≤ now.pool.openCount
    omega
  · show now.pool.openCount - now.pool.idle.length = _
    omega
  · intro hheld hopening
    omega

/-- A connection to a database in memory. -/
def inMemory : Handle :=
  ⟨0, none, ⟨.own, true, true, .standard, true, false, false⟩, none, false, none⟩

/-- Two borrowers have all there is. One leaves its connection inside a transaction, and a third who
had to wait gets its place but cannot open the file. The place is there again for the next. -/
theorem nothing_lost_two :
    let limits := { Limits.standard with maxConnections := 2 }
    let events : List Event := [.come, .come, .come, .move 0 .request, .move 0 (.opened inMemory),
      .move 1 .request, .move 1 (.opened inMemory), .move 2 .request,
      .move 0 (.work (some (.begin false))), .move 0 .release, .move 2 .request, .move 2 .failed]
    let now := (start "geo.db" limits).run events
    now.held + now.opening < limits.maxConnections ∧
      (∀ time, (now.pool.turn time).1 ≠ .mustWait) ∧
      now.borrowers[2]? = some .gone ∧
      ∃ slot ∈ now.closed, slot.connection.serial = 1 ∧
        ∀ other, .holding other ∈ now.borrowers → other.connection.serial ≠ 1 := by
  intro limits events now
  obtain ⟨-, -, -, -, hclosed, -, -, -, -, -, hserved⟩ := nothing_lost "geo.db" limits events
  have hnow : (start "geo.db" limits).run events = now := rfl
  rw [hnow] at hclosed hserved
  have hroom : now.held + now.opening < limits.maxConnections := by decide
  let left : Slot := ⟨⟨1, inMemory, some (.begin false)⟩, 0, 0⟩
  have hleft : left ∈ now.closed := by decide
  have hnever := (hclosed left hleft []).2.2
  rw [run_nil] at hnever
  exact ⟨hroom, hserved hroom, by decide, left, hleft, rfl, hnever⟩

/-! ## Alone -/

/-- A borrower alone that is answered in the end. -/
def settled : Except PoolError Slot → Borrower
  | .ok slot => .holding slot
  | .error _ => .gone

theorem closeAll_now (w : World) (slots : List Slot) : (w.closeAll slots).now = w.now := by
  induction slots generalizing w with
  | nil => rfl
  | cons slot slots ih => exact ih (w.close slot.connection)

theorem release_now (w : World) (pool : Pool) (slot : Slot) :
    (w.release pool slot).2.now = w.tick.now := by
  unfold World.release
  dsimp only
  split <;> rfl

/-- How it ends to take a connection alone, and when. -/
inductive Takes (w : World) (pool : Pool) : Except PoolError Slot → Pool → Time → Prop where
  | reuse {slot : Slot} {served : Pool} (turn : pool.turn w.tick.now = (.reuse slot, served)) :
    Takes w pool (.ok slot) served w.tick.now
  | opened {served : Pool} (turn : pool.turn w.tick.now = (.mayOpen, served)) (handle : Handle) :
    Takes w pool (.ok (served.opened handle w.tick.now).1) (served.opened handle w.tick.now).2
      w.tick.now
  | failed {served : Pool} (turn : pool.turn w.tick.now = (.mayOpen, served)) :
    Takes w pool (.error .cannotOpen) served.openingFailed w.tick.now
  | timeout {served : Pool} (turn : pool.turn w.tick.now = (.mustWait, served)) :
    Takes w pool (.error .timeout) served (w.tick.now + pool.limits.acquireTimeout)

theorem takes_acquire (w : World) (pool : Pool) :
    Takes w pool (w.acquire pool).1 (w.acquire pool).2.1 (w.acquire pool).2.2.now := by
  have hnow := closeAll_now w.tick (pool.stale w.tick.now)
  rcases hturn : pool.turn w.tick.now with ⟨turn, served⟩
  unfold World.acquire
  dsimp only
  rw [hturn]
  cases turn with
  | reuse slot =>
    dsimp only
    rw [hnow]
    exact .reuse hturn
  | mayOpen =>
    dsimp only
    split
    · rw [hnow]
      exact .failed hturn
    · rw [hnow]
      exact .opened hturn _
  | mustWait =>
    have hlimits : served.limits = pool.limits := by
      rw [← turn_limits pool w.tick.now, hturn]
    show Takes w pool _ served (World.now _ + served.limits.acquireTimeout)
    rw [hnow, hlimits]
    exact .timeout hturn

/-- To take a connection alone is a run of one borrower. -/
theorem run_acquire (w : World) (pool : Pool) (closed : List Slot) :
    ∃ events, (Crowd.mk pool w.now [] closed).run events =
      ⟨(w.acquire pool).2.1, (w.acquire pool).2.2.now, [settled (w.acquire pool).1],
        closed ++ pool.stale w.tick.now⟩ := by
  let deadline := w.now + pool.limits.acquireTimeout
  have hrequest {turn : Turn} {served : Pool} (hturn : pool.turn w.tick.now = (turn, served)) :
      (Crowd.mk pool w.now [] closed).run [.come, .wait 1, .move 0 .request] =
        ⟨served, w.tick.now, [.ofTurn deadline turn], closed ++ pool.stale w.tick.now⟩ := by
    show (Crowd.mk pool w.tick.now [.arriving deadline] closed).next (.move 0 .request) = _
    have hstep : Borrower.step pool w.tick.now (.arriving deadline) .request =
        (.ofTurn deadline turn, served, pool.stale w.tick.now) := by
      rw [Borrower.step, Borrower.request, hturn]
    rw [next_of_some rfl, hstep]
    rfl
  have htakes := takes_acquire w pool
  generalize (w.acquire pool).1 = taken, (w.acquire pool).2.1 = after,
    (w.acquire pool).2.2.now = time at htakes ⊢
  cases htakes with
  | reuse hturn => exact ⟨_, hrequest hturn⟩
  | opened hturn handle =>
    refine ⟨[.come, .wait 1, .move 0 .request] ++ [.move 0 (.opened handle)], ?_⟩
    rw [run_append, hrequest hturn]
    show Crowd.mk _ _ _ (closed ++ _ ++ []) = _
    rw [List.append_nil]
    rfl
  | failed hturn =>
    refine ⟨[.come, .wait 1, .move 0 .request] ++ [.move 0 .failed], ?_⟩
    rw [run_append, hrequest hturn]
    show Crowd.mk _ _ _ (closed ++ _ ++ []) = _
    rw [List.append_nil]
    rfl
  | timeout hturn =>
    refine ⟨[.come, .wait 1, .move 0 .request] ++
      [.wait pool.limits.acquireTimeout, .move 0 .giveUp], ?_⟩
    have hpast : deadline ≤ w.tick.now + pool.limits.acquireTimeout :=
      Nat.add_le_add_right (Nat.le_succ w.now) _
    have hgone : Borrower.step after (w.tick.now + pool.limits.acquireTimeout)
        (.waiting deadline) .giveUp = (.gone, after, []) := by
      rw [Borrower.step, if_pos hpast]
    rw [run_append, hrequest hturn]
    show (Crowd.mk after (w.tick.now + pool.limits.acquireTimeout) [.waiting deadline] _).next
      (.move 0 .giveUp) = _
    rw [next_of_some rfl, hgone, List.append_nil]
    rfl

/-- So is to give it back, -/
theorem run_release (w : World) (pool : Pool) (slot : Slot) (closed : List Slot) :
    (Crowd.mk pool w.now [.holding slot] closed).run [.wait 1, .move 0 .release] =
      ⟨(w.release pool slot).1, (w.release pool slot).2.now, [.gone],
        closed ++ if pool.keeps slot w.tick.now then [] else [slot]⟩ := by
  rw [release_now]
  rfl

/-- and so is to close it. -/
theorem run_discard (w : World) (pool : Pool) (slot : Slot) (closed : List Slot) :
    (Crowd.mk pool w.now [.holding slot] closed).run [.wait 1, .move 0 .discard] =
      ⟨(w.discard pool slot).1, (w.discard pool slot).2.now, [.gone], closed ++ [slot]⟩ := rfl

end Crowd

end Gazetteer.Pool
