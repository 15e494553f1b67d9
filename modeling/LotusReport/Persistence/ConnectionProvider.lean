import LotusReport.StateMachine.Run
import Mathlib.Data.List.FinRange
import Mathlib.Logic.Function.Basic

/-!
# The Postgres connection provider

A provider has a fixed inventory of slots. A slot is locked from its reservation
until its connection is returned or disposed of. Threads borrow in three ways: raw
connections with `acquire` and `release`, `connection()` blocks, and strict leases.

A step is one block of the source that runs under the condition or under the lock
of a slot, or one call of the driver. The deadlines, the locks that a probe holds
for a moment and the answers of the driver are arguments of the step.
-/

namespace LotusReport.Persistence

/-- The state of a driver connection. -/
inductive Link where
  | closed
  | live (inTransaction : Bool)
deriving DecidableEq, Repr

/-- The raised object: an `Exception`, or a `BaseException` that is none. -/
inductive Raised where
  | exception
  | baseException
deriving DecidableEq, Repr

/-- The state of `_ConnectionSlot`. -/
inductive SlotState where
  | empty
  | idle
  | acquired
  | creating
  | closing
  | closed
  | quarantined
deriving DecidableEq, Repr

/-- `_ConnectionSlot`. -/
structure Slot where
  locked : Bool := false
  connection : Option Nat := none
  state : SlotState := .empty
  generation : Nat := 0
deriving DecidableEq, Repr

/-- The ways to borrow a connection. -/
inductive Client where
  | raw
  | block
  | strict
deriving DecidableEq, Repr

/-- The point at which a thread stands in its call, with what it has borrowed. A call of `release`
by the borrower of a slot carries that slot; the source knows it by the connection only. -/
inductive Phase (maxSize : Nat) where
  | outside
  | borrowing (client : Client)
  | finishing (client : Client) (slot : Fin maxSize)
  | admitting (client : Client) (slot : Fin maxSize)
  | disposing (slot : Fin maxSize)
  | holding (client : Client) (slot : Fin maxSize) (generation connection : Nat)
  | committing (slot : Fin maxSize) (connection : Nat)
  | rollingBack (slot : Fin maxSize) (connection : Nat)
  | releasing (slot : Option (Fin maxSize)) (connection : Nat)
  | sealed
  | closingIdle (next : Nat)
  | draining (next : Nat) (pending : Bool)
deriving DecidableEq, Repr

/-- `PostgresConnectionProvider` with the driver's connections and the threads that use it. The
connections handed out are recorded with their state. -/
structure Provider (maxSize : Nat) where
  strict : Bool
  closing : Bool := false
  drainLocked : Bool := false
  slots : Fin maxSize → Slot
  legacy : Nat → Option (Fin maxSize) := fun _ => none
  links : Nat → Link
  created : Nat
  threads : Nat → Phase maxSize := fun _ => .outside
  received : List (Nat × Link) := []

/-- What `connect` answers. -/
abbrev ConnectAnswer := Option Raised

/-- What `commit` or `rollback` answers: it ends the transaction, or raises and leaves the
connection in some state. -/
inductive EndAnswer where
  | ended
  | raised (raised : Raised) (link : Link)
deriving DecidableEq, Repr

/-- What `close` answers, and whether the connection is closed then. -/
structure CloseAnswer where
  raised : Option Raised := none
  closed : Bool := true
deriving DecidableEq, Repr

/-- One step of a thread. -/
inductive Action (maxSize : Nat) where
  | acquire (client : Client)
  | expire
  | borrow (contended : SlotState → Fin maxSize → Bool)
  | finishBorrow (answer : ConnectAnswer)
  | concludeBorrow (expired : Bool)
  | dispose (answer : CloseAnswer)
  | execute
  | commit (answer : EndAnswer)
  | rollback (answer : EndAnswer)
  | leave (ending : Option Raised)
  | release
  | releaseAgain (connection : Nat)
  | giveBack
  | releaseStrict (reusable poisoned unreadable expired : Bool)
  | close (deadline barrier : Bool)
  | drain
  | closeNext (contended : Bool) (answer : CloseAnswer)

/-- A thread makes a step, or the driver loses a connection. -/
inductive PoolEvent (maxSize : Nat) where
  | thread (t : Nat) (action : Action maxSize)
  | lost (connection : Nat)

/-- The link after a transaction was ended. -/
def Link.settled : Link → Link
  | .closed => .closed
  | .live _ => .live false

/-- The link after a statement. -/
def Link.executed : Link → Link
  | .closed => .closed
  | .live _ => .live true

/-- The link after `commit` or `rollback`. -/
def EndAnswer.after (answer : EndAnswer) (link : Link) : Link :=
  match answer with
  | .ended => link.settled
  | .raised _ link => link

namespace Provider

variable {maxSize : Nat} (s : Provider maxSize) (t : Nat)

/-- The thread goes on to another point. -/
def goes (phase : Phase maxSize) : Provider maxSize :=
  { s with threads := Function.update s.threads t phase }

/-- The link of a connection changes. -/
def relink (connection : Nat) (link : Link) : Provider maxSize :=
  { s with links := Function.update s.links connection link }

/-- A slot changes. -/
def reslot (i : Fin maxSize) (slot : Slot) : Provider maxSize :=
  { s with slots := Function.update s.slots i slot }

@[simp] theorem threads_goes (phase : Phase maxSize) : (s.goes t phase).threads t = phase := by
  simp [goes]

theorem threads_goes_of_ne {u : Nat} (h : u ≠ t) (phase : Phase maxSize) :
    (s.goes t phase).threads u = s.threads u := by simp [goes, h]

@[simp] theorem links_relink (c : Nat) (link : Link) : (s.relink c link).links c = link := by
  simp [relink]

theorem links_relink_of_ne {c c' : Nat} (h : c' ≠ c) (link : Link) :
    (s.relink c link).links c' = s.links c' := by simp [relink, h]

@[simp] theorem slots_reslot (i : Fin maxSize) (slot : Slot) : (s.reslot i slot).slots i = slot := by
  simp [reslot]

theorem slots_reslot_of_ne {i j : Fin maxSize} (h : j ≠ i) (slot : Slot) :
    (s.reslot i slot).slots j = s.slots j := by simp [reslot, h]

/-- `_terminal`. -/
def terminal (i : Fin maxSize) (state : SlotState) : Provider maxSize :=
  s.reslot i { s.slots i with state := state, locked := false }

/-- The first slot in a state whose lock can be taken. -/
def firstFree (contended : SlotState → Fin maxSize → Bool) (desired : List SlotState) :
    Option (Fin maxSize) :=
  (List.finRange maxSize).find? fun i =>
    !(s.slots i).locked && !contended (desired.headD .idle) i && (s.slots i).state ∈ desired

/-- `_reserve_slot`. -/
def reserveSlot (contended : SlotState → Fin maxSize → Bool) (allowCreate : Bool) :
    Option (Fin maxSize × SlotState) :=
  match s.firstFree contended [.idle] with
  | some i => some (i, .acquired)
  | none =>
      if allowCreate then
        (s.firstFree contended [.empty, .closed]).map fun i => (i, .creating)
      else none

/-- `acquire` or `_acquire_strict` is called. -/
def acquire (client : Client) : Provider maxSize :=
  if (client == .strict) == s.strict then s.goes t (.borrowing client) else s

/-- One pass of the loop of `_borrow`. -/
def borrow (client : Client) (contended : SlotState → Fin maxSize → Bool) : Provider maxSize :=
  if s.closing then s.goes t .outside
  else
    match s.reserveSlot contended (client != .strict) with
    | none => s
    | some (i, state) =>
        (s.reslot i { s.slots i with
          locked := true
          generation := (s.slots i).generation + 1
          state := state }).goes t (.finishing client i)

/-- `_finish_borrow` up to the admission. -/
def finishBorrow (client : Client) (i : Fin maxSize) (answer : ConnectAnswer) : Provider maxSize :=
  if (s.slots i).state = .creating then
    match answer with
    | some _ => (s.reslot i { s.slots i with
        connection := none, state := .empty, locked := false }).goes t .outside
    | none =>
        { (((s.reslot i { s.slots i with connection := some s.created }).relink
            s.created (.live false)).goes t (.admitting client i)) with created := s.created + 1 }
  else
    match (s.slots i).connection with
    | none => s.goes t .outside
    | some c =>
        if s.links c = .closed then (s.terminal i .closed).goes t (.borrowing client)
        else s.goes t (.admitting client i)

/-- The borrower receives its connection. -/
def handOver (client : Client) (i : Fin maxSize) (c : Nat) : Provider maxSize :=
  { s.goes t (.holding client i (s.slots i).generation c) with
    received := s.received ++ [(c, s.links c)] }

/-- The admission of a legacy borrower under the condition. -/
def admitLegacy (client : Client) (i : Fin maxSize) (c : Nat) : Provider maxSize :=
  if s.closing then s.goes t (.disposing i)
  else
    { s.reslot i { s.slots i with state := .acquired } with
      legacy := Function.update s.legacy c (some i) }.handOver t client i c

/-- The end of `_finish_borrow` or `_acquire_strict`. -/
def concludeBorrow (client : Client) (i : Fin maxSize) (expired : Bool) : Provider maxSize :=
  match (s.slots i).connection with
  | none => (s.terminal i .empty).goes t .outside
  | some c =>
      match client with
      | .strict =>
          if expired then (s.terminal i .idle).goes t .outside else s.handOver t .strict i c
      | client => s.admitLegacy t client i c

/-- `_dispose`, and whether it raised. -/
def dispose (i : Fin maxSize) (answer : CloseAnswer) : Provider maxSize × Bool :=
  match (s.slots i).connection with
  | none => (s.terminal i .quarantined, true)
  | some c =>
      if s.links c = .closed then (s.terminal i .closed, false)
      else
        let closed := if answer.closed then s.relink c .closed else s
        if answer.raised = none ∧ answer.closed = true then (closed.terminal i .closed, false)
        else (closed.terminal i .quarantined, true)

/-- The exits of the body of a `connection()` block. -/
def leave (i : Fin maxSize) (c : Nat) : Option Raised → Provider maxSize
  | none => s.goes t (.committing i c)
  | some .exception => s.goes t (.rollingBack i c)
  | some .baseException => s.goes t (.releasing (some i) c)

/-- `connection.commit()` at the end of a block. -/
def commitBlock (i : Fin maxSize) (c : Nat) (answer : EndAnswer) : Provider maxSize :=
  let s := s.relink c (answer.after (s.links c))
  match answer with
  | .raised .exception _ => s.goes t (.rollingBack i c)
  | _ => s.goes t (.releasing (some i) c)

/-- `connection.rollback()` after a failed block; the connection is released if it raises, too. -/
def rollbackBlock (i : Fin maxSize) (c : Nat) (answer : EndAnswer) : Provider maxSize :=
  (s.relink c (answer.after (s.links c))).goes t (.releasing (some i) c)

/-- `release`. -/
def giveBack (c : Nat) : Provider maxSize :=
  match s.legacy c with
  | none => s.goes t .outside
  | some i =>
      let popped := { s with legacy := Function.update s.legacy c none }
      if (s.slots i).connection ≠ some c then popped.goes t .outside
      else if s.closing ∨ s.links c = .closed then popped.goes t (.disposing i)
      else (popped.terminal i .idle).goes t .outside

/-- `_release_strict` with a lease of this thread. -/
def releaseStrict (i : Fin maxSize) (generation c : Nat)
    (reusable poisoned unreadable expired : Bool) : Provider maxSize :=
  if generation ≠ (s.slots i).generation then s
  else if unreadable then (s.terminal i .quarantined).goes t .outside
  else if reusable && !poisoned && s.links c != .closed then (s.terminal i .idle).goes t .outside
  else if expired then (s.terminal i .quarantined).goes t .outside
  else s.goes t (.disposing i)

/-- `close` up to the barrier of `_seal`. -/
def close (deadline barrier : Bool) : Provider maxSize :=
  let s := { s with closing := true }
  if deadline || s.strict then
    if barrier then s.goes t .sealed else s
  else s.goes t (.closingIdle 0)

/-- The next slot of a loop that closes idle slots: whether its lock was taken, the state it was
found in, and whether its disposal raised. -/
def closeSlot (i : Fin maxSize) (contended : Bool) (answer : CloseAnswer) :
    Provider maxSize × Option SlotState × Bool :=
  if (s.slots i).locked || contended then (s, none, false)
  else if (s.slots i).state = .idle then
    ((s.dispose i answer).1, some .idle, (s.dispose i answer).2)
  else (s, some (s.slots i).state, (s.slots i).state == .quarantined)

/-- `_close_idle_legacy`. -/
def closeIdleLegacy (next : Nat) (contended : Bool) (answer : CloseAnswer) : Provider maxSize :=
  if h : next < maxSize then
    match s.closeSlot ⟨next, h⟩ contended answer with
    | (s, _, true) => s.goes t .outside
    | (s, _, false) => s.goes t (.closingIdle (next + 1))
  else s.goes t .outside

/-- The drain is given up or has ended. -/
def leaveDrain : Provider maxSize := { s.goes t .outside with drainLocked := false }

/-- `_drain`. -/
def drainNext (next : Nat) (pending contended : Bool) (answer : CloseAnswer) : Provider maxSize :=
  if h : next < maxSize then
    match s.closeSlot ⟨next, h⟩ contended answer with
    | (s, _, true) => s.leaveDrain t
    | (s, found, false) =>
        s.goes t (.draining (next + 1)
          (pending || !(found ∈ [some .idle, some .closed, some .empty])))
  else if pending then s.goes t (.draining 0 false)
  else s.leaveDrain t

/-- A deadline passes. -/
def expire : Phase maxSize → Provider maxSize
  | .borrowing _ => s.goes t .outside
  | .sealed => s.goes t .outside
  | .draining _ _ => s.leaveDrain t
  | _ => s

/-- The driver call of a borrower on its connection. -/
def use (c : Nat) : Action maxSize → Provider maxSize
  | .execute => s.relink c (s.links c).executed
  | .commit answer => s.relink c (answer.after (s.links c))
  | .rollback answer => s.relink c (answer.after (s.links c))
  | _ => s

/-- One step of a thread; an action that does not belong to its point changes nothing. -/
def act (action : Action maxSize) : Provider maxSize :=
  match s.threads t, action with
  | .outside, .acquire client => s.acquire t client
  | .outside, .releaseAgain c => s.goes t (.releasing none c)
  | .outside, .close deadline barrier => s.close t deadline barrier
  | .borrowing client, .borrow contended => s.borrow t client contended
  | .finishing client i, .finishBorrow answer => s.finishBorrow t client i answer
  | .admitting client i, .concludeBorrow expired => s.concludeBorrow t client i expired
  | .disposing i, .dispose answer => (s.dispose i answer).1.goes t .outside
  | .holding .raw i _ c, .release => s.goes t (.releasing (some i) c)
  | .holding .block i _ c, .leave ending => s.leave t i c ending
  | .holding .strict i generation c, .releaseStrict reusable poisoned unreadable expired =>
      s.releaseStrict t i generation c reusable poisoned unreadable expired
  | .holding _ _ _ c, action => s.use c action
  | .committing i c, .commit answer => s.commitBlock t i c answer
  | .rollingBack i c, .rollback answer => s.rollbackBlock t i c answer
  | .releasing _ c, .giveBack => s.giveBack t c
  | .sealed, .drain =>
      if s.drainLocked then s else { s.goes t (.draining 0 false) with drainLocked := true }
  | .closingIdle next, .closeNext contended answer => s.closeIdleLegacy t next contended answer
  | .draining next pending, .closeNext contended answer =>
      s.drainNext t next pending contended answer
  | phase, .expire => s.expire t phase
  | _, _ => s

/-- One step of the pool. -/
def step (s : Provider maxSize) : PoolEvent maxSize → Provider maxSize
  | .thread t action => s.act t action
  | .lost c => s.relink c .closed

/-- The provider after `_open_minimum_connections`. -/
def opened (maxSize minSize : Nat) (strict : Bool) : Provider maxSize where
  strict := strict
  slots := fun i =>
    if i.val < minSize then { connection := some i.val, state := .idle } else {}
  links := fun _ => .live false
  created := minSize

end Provider

end LotusReport.Persistence
