import GoPhat.Phatlog
import Mathlib.Data.Fin.Basic
import Mathlib.Data.List.FinRange
import Mathlib.Logic.Function.Basic

/-!
# Replica state and the VR messages

The constants, the per-replica records and the RPC argument and reply records of package
`vr`. A `time.Time` is a local clock reading in milliseconds (`Int`); a `*time.Timer` is the
deadline at which it fires, `none` once stopped or fired. A failed `assert` (`log.Fatalf`)
and a Go runtime panic both end the replica's process, so handlers return `Except Fault`.
-/

namespace GoPhat

/-- `F`: how many replicas may fail. -/
def F : Nat := 1

/-- `NREPLICAS`: the replicas besides the master. -/
def nReplicas : Nat := 2 * F

/-- `LEASE`, in milliseconds. -/
def lease : Int := 2000

/-- `RENEW_FACTOR`. -/
def renewFactor : Int := 2

/-- `MAX_CLOCK_DRIFT`. -/
def maxClockDrift : Int := lease / 10

/-- Replica numbers `0 .. NREPLICAS`, the indices of `Config` and of the per-replica arrays. -/
abbrev ReplicaId := Fin (nReplicas + 1)

/-- The replica that `View % (NREPLICAS+1)` names, the master of `view`. -/
def masterOf (view : Nat) : ReplicaId := ⟨view % (nReplicas + 1), Nat.mod_lt _ (Nat.succ_pos _)⟩

/-- A replica's possible states. -/
inductive Status
  | normal
  | recovery
  | viewChange
  deriving DecidableEq, Repr

structure ReplicaState where
  view : Nat
  opNumber : Nat
  commitNumber : Nat
  replicaNumber : ReplicaId
  status : Status
  timer : Option Int

/-- `MasterState`; `Heartbeats` is a Go map that is nil until made. -/
structure MasterState where
  a : Nat
  replies : Nat
  timer : Option Int
  heartbeats : Option (List (ReplicaId × Int))

/-- `DoViewChangeArgs`; the defaults are Go's zero value, an unfilled array slot. -/
structure DoViewChangeArgs (α : Type) where
  view : Nat := 0
  replicaNumber : ReplicaId := 0
  log : Option (Log α) := none
  normalView : Nat := 0
  opNumber : Nat := 0
  commitNumber : Nat := 0

structure ViewChangeState (α : Type) where
  doViewChangeMsgs : ReplicaId → DoViewChangeArgs α := fun _ => {}
  doViewReplies : Nat := 0
  startViewReplies : Nat := 0
  startViews : Nat := 0
  doViews : Nat := 0
  normalView : Nat := 0

structure PrepareArgs (α : Type) where
  view : Nat
  command : α
  opNumber : Nat
  commitNumber : Nat

structure PrepareReply where
  view : Nat
  opNumber : Nat
  replicaNumber : ReplicaId
  lease : Int

structure CommitArgs where
  view : Nat
  commitNumber : Nat

structure HeartbeatReply where
  replicaNumber : ReplicaId
  lease : Int

structure StartViewChangeArgs where
  view : Nat
  replicaNumber : ReplicaId

structure StartViewArgs (α : Type) where
  view : Nat
  log : Option (Log α)
  opNumber : Nat
  commitNumber : Nat

/-- Where the `Log` pointer of a `StartView` goroutine's arguments points: at the log that is
still the replica's `Phatlog`, which `Add` changes in place, or at one the replica has since
replaced by another, which no code changes any more. -/
inductive LogRef (α : Type)
  | phatlog
  | detached (log : Option (Log α))

/-- What `ref` points at while the replica's `Phatlog` is `log`. -/
def LogRef.read {α : Type} : LogRef α → Option (Log α) → Option (Log α)
  | .phatlog, log => log
  | .detached log, _ => log

/-- A `go r.sendAndRecv(NREPLICAS, "RPCReplica.StartView", SVargs, ...)` that `DoViewChange`
started: `SVargs`, whose view and numbers are copies and whose `Log` is the pointer
`r.Phatlog`, and the calls `sendOne` has made to each peer. -/
structure StartViewCall (α : Type) where
  view : Nat
  log : LogRef α
  opNumber : Nat
  commitNumber : Nat
  tries : ReplicaId → Nat := fun _ => 0

/-- `sendOne` has made one more call to `dst`. -/
def StartViewCall.tried {α : Type} (c : StartViewCall α) (dst : ReplicaId) : StartViewCall α :=
  { c with tries := Function.update c.tries dst (c.tries dst + 1) }

/-- The requests and replies replicas exchange. Replies of `StartViewChange`, `DoViewChange`
and `StartView` are nil and their handlers return false, so they carry nothing. -/
inductive Body (α : Type)
  | prepare (args : PrepareArgs α)
  | prepareReply (reply : PrepareReply)
  | commit (args : CommitArgs)
  | heartbeatReply (reply : HeartbeatReply)
  | startViewChange (args : StartViewChangeArgs)
  | doViewChange (args : DoViewChangeArgs α)
  | startView (args : StartViewArgs α)

/-- The `StartViewArgs` gob encodes for a call while the replica's `Phatlog` is `log`. -/
def StartViewCall.args {α : Type} (c : StartViewCall α) (log : Option (Log α)) :
    StartViewArgs α :=
  ⟨c.view, c.log.read log, c.opNumber, c.commitNumber⟩

structure Msg (α : Type) where
  src : ReplicaId
  dst : ReplicaId
  body : Body α

/-- The `assert` calls of package `vr`. -/
inductive AssertSite
  | runVRIsMaster
  | runVROpNumber
  | heartbeatIsMaster
  | heartbeatLength
  | becomeMasterIsMaster
  deriving DecidableEq, Repr

/-- What ends a replica's process. -/
inductive Fault
  | assertFailed (site : AssertSite)
  | nilDereference
  | nilMapWrite
  | indexOutOfRange
  deriving DecidableEq, Repr

/-- `assert`: `log.Fatalf` when `b` is false. -/
def assert (b : Bool) (site : AssertSite) : Except Fault Unit :=
  if b then pure () else throw (.assertFailed site)

@[simp] theorem assert_eq_ok (b : Bool) (site : AssertSite) (u : Unit) :
    assert b site = .ok u ↔ b = true := by
  cases b <;> simp [assert, pure, Except.pure, throw, throwThe, MonadExceptOf.throw]

@[simp] theorem throw_ne_ok {ε β : Type} (e : ε) (b : β) :
    (throw e : Except ε β) ≠ .ok b := by
  simp [throw, throwThe, MonadExceptOf.throw]

@[simp] theorem pure_eq_ok {ε β : Type} (a b : β) :
    (pure a : Except ε β) = .ok b ↔ a = b := by
  simp [pure, Except.pure]

@[simp] theorem pure_ne_error {ε β : Type} (a : β) (e : ε) :
    (pure a : Except ε β) ≠ .error e := by
  simp [pure, Except.pure]

@[simp] theorem throw_eq_error {ε β : Type} (e e' : ε) :
    (throw e : Except ε β) = .error e' ↔ e = e' := by
  simp [throw, throwThe, MonadExceptOf.throw]

@[simp] theorem except_ok_bind {ε β γ : Type} (b : β) (f : β → Except ε γ) :
    (Except.ok b >>= f) = f b := rfl

@[simp] theorem except_bind_eq_ok {ε β γ : Type} (x : Except ε β) (f : β → Except ε γ)
    (c : γ) :
    x >>= f = .ok c ↔ ∃ b, x = .ok b ∧ f b = .ok c := by
  cases x <;> simp [bind, Except.bind]

/-- `Replica`, without its transport (`Config`, `Clients`, `Listener`), and with the
`StartView` goroutines it has started. `history` and `masterLease` are ghost fields: the
commands passed to `CommitFunc`, oldest first, and the deadline last set through `ExtendLease`
by `Heartbeat` or `BecomeMaster`. -/
structure Replica (α : Type) where
  rstate : ReplicaState
  mstate : MasterState
  vcstate : ViewChangeState α
  phatlog : Option (Log α)
  history : List (Option α)
  masterLease : Option Int
  startViewCalls : List (StartViewCall α) := []

/-- `(1 << n) & bits != 0`: replica `n` is marked in a reply bit vector. -/
def replied (bits : Nat) (n : ReplicaId) : Bool := (1 <<< n.val) &&& bits != 0

/-- `bits |= 1 << n`. -/
def markReplied (bits : Nat) (n : ReplicaId) : Nat := bits ||| 1 <<< n.val

/-- The replicas `sendAndRecv NREPLICAS` sends to from replica `me`: all the others. -/
def peers (me : ReplicaId) : List ReplicaId := (List.finRange (nReplicas + 1)).filter (· ≠ me)

/-- One call of `sendAndRecv NREPLICAS`: the same request to every other replica. -/
def broadcast {α : Type} (me : ReplicaId) (body : Body α) : List (Msg α) :=
  (peers me).map fun dst => ⟨me, dst, body⟩

theorem forall_mem_broadcast {α : Type} {me : ReplicaId} {b : Body α} {p : Msg α → Prop} :
    (∀ m ∈ broadcast me b, p m) ↔ ∀ dst ∈ peers me, p ⟨me, dst, b⟩ :=
  List.forall_mem_map

/-- `MasterState.Reset`. -/
def MasterState.reset (m : MasterState) : MasterState := { m with a := 0, replies := 0 }

/-- `MasterState.ExtendNeedsRenewal` at local time `now`: the renewal timer fires after
`1/RENEW_FACTOR` of the time left until `newTime`. -/
def MasterState.extendNeedsRenewal (m : MasterState) (now newTime : Int) : MasterState :=
  { m with timer := some (now + (newTime - now).tdiv renewFactor) }

/-- `ReplicaState.ExtendLease`: the timer fires at `newTime`. -/
def ReplicaState.extendLease (s : ReplicaState) (newTime : Int) : ReplicaState :=
  { s with timer := some newTime }

namespace Replica

variable {α : Type}

/-- `IsMaster`. -/
def isMaster (r : Replica α) : Bool :=
  r.rstate.view % (nReplicas + 1) == r.rstate.replicaNumber.val

/-- Modelled from the spec: `PrepareRecovery`, which src/ calls but does not define. It puts
the replica into Recovery; the recovery messages of the spec have no handler in src/. -/
def prepareRecovery (r : Replica α) : Replica α := { r with rstate.status := .recovery }

/-- `addLog`: `Phatlog.Add(OpNumber, command)` through the log pointer. -/
def addLog (r : Replica α) (command : α) : Except Fault (Replica α) :=
  match r.phatlog with
  | none => throw .nilDereference
  | some l => pure { r with phatlog := some (l.add r.rstate.opNumber command) }

/-- `resetVcstate`. -/
def resetVcstate (r : Replica α) : Replica α := { r with vcstate := {} }

/-- `r.Phatlog = log`: the goroutines that held the old pointer keep the log it points at. -/
def setPhatlog (r : Replica α) (log : Option (Log α)) : Replica α :=
  { r with
    phatlog := log
    startViewCalls := r.startViewCalls.map fun c =>
      { c with log := .detached (c.log.read r.phatlog) } }

@[simp] theorem setPhatlog_rstate (r : Replica α) (log : Option (Log α)) :
    (r.setPhatlog log).rstate = r.rstate := rfl

@[simp] theorem setPhatlog_mstate (r : Replica α) (log : Option (Log α)) :
    (r.setPhatlog log).mstate = r.mstate := rfl

@[simp] theorem setPhatlog_vcstate (r : Replica α) (log : Option (Log α)) :
    (r.setPhatlog log).vcstate = r.vcstate := rfl

@[simp] theorem setPhatlog_phatlog (r : Replica α) (log : Option (Log α)) :
    (r.setPhatlog log).phatlog = log := rfl

@[simp] theorem setPhatlog_history (r : Replica α) (log : Option (Log α)) :
    (r.setPhatlog log).history = r.history := rfl

@[simp] theorem setPhatlog_masterLease (r : Replica α) (log : Option (Log α)) :
    (r.setPhatlog log).masterLease = r.masterLease := rfl

theorem mem_setPhatlog {r : Replica α} {log : Option (Log α)} {c : StartViewCall α}
    (h : c ∈ (r.setPhatlog log).startViewCalls) :
    ∃ c₀ ∈ r.startViewCalls, c.view = c₀.view ∧ c.opNumber = c₀.opNumber ∧
      c.commitNumber = c₀.commitNumber ∧ ∀ l, c.log.read l = c₀.log.read r.phatlog := by
  obtain ⟨c₀, h₀, rfl⟩ := List.mem_map.1 h
  exact ⟨c₀, h₀, rfl, rfl, rfl, fun _ => rfl⟩

theorem isMaster_iff (r : Replica α) :
    r.isMaster ↔ masterOf r.rstate.view = r.rstate.replicaNumber := by
  simp [isMaster, masterOf, Fin.ext_iff]

end Replica

end GoPhat
