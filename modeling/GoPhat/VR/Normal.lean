import GoPhat.VR.Defs
import Mathlib.Data.List.Sort

/-!
# Normal operation

The master's write path (`RunVR`, `handlePrepareOK`), the followers' `Prepare` and `Commit`
RPCs, `doCommit`, and the lease bookkeeping of `Heartbeat` and `BecomeMaster`. Where src/ does
not compile, the model takes the evident repair and says so: the two `Heartbeat` call sites
pass the reply's `Lease`, and `SortTimes` sorts the recorded times.
-/

namespace GoPhat

namespace Replica

variable {α : Type}

/-- The last lines of `doCommit`: pass `GetCommand(CommitNumber+1)` to `CommitFunc` (recorded
in `history`) and count it. -/
def commitNext (r : Replica α) : Except Fault (Replica α) :=
  match r.phatlog with
  | none => throw .nilDereference
  | some l => pure { r with
      history := r.history ++ [l.getCommand (r.rstate.commitNumber + 1)]
      rstate.commitNumber := r.rstate.commitNumber + 1 }

/-- `doCommit`, unfolding its own recursion at most `fuel` deep. Each nested call is for a
smaller index, so `doCommit` below gives it `cn`, which is always enough. -/
def doCommitAux : Nat → Replica α → Nat → Except Fault (Replica α)
  | 0, r, _ => pure r
  | fuel + 1, r, cn =>
    if cn ≤ r.rstate.commitNumber then pure r
    else if cn > r.rstate.opNumber then pure r.prepareRecovery
    else do
      let r ← if cn > r.rstate.commitNumber + 1 then
          (List.range' (r.rstate.commitNumber + 1) (cn - (r.rstate.commitNumber + 1))).foldlM
            (fun r i => doCommitAux fuel r i) r
        else pure r
      r.commitNext

/-- `doCommit`. -/
def doCommit (r : Replica α) (cn : Nat) : Except Fault (Replica α) := doCommitAux cn r cn

/-- `wrongView()`. -/
def wrongView : String := "view numbers don't match"

/-- `RPCReplica.Prepare` at local time `now`: the new state and the RPC's reply or error. -/
def prepare (r : Replica α) (now : Int) (args : PrepareArgs α) :
    Except Fault (Replica α × Except String PrepareReply) :=
  if args.view > r.rstate.view then pure (r.prepareRecovery, .error "recovering")
  else if args.view < r.rstate.view then pure (r, .error wrongView)
  else if r.rstate.status ≠ .normal then pure (r, .error "not in normal mode")
  else if args.opNumber ≤ r.rstate.opNumber then pure (r, .error "old op number")
  else if args.opNumber > r.rstate.opNumber + 1 then
    pure (r.prepareRecovery, .error ("op numbers out of sync: got " ++ toString args.opNumber ++
      " expected " ++ toString (r.rstate.opNumber + 1)))
  else do
    let grant := now + lease
    let r := { r with rstate := r.rstate.extendLease grant }
    let r ← { r with rstate.opNumber := r.rstate.opNumber + 1 }.addLog args.command
    let r ← r.doCommit args.commitNumber
    pure (r, .ok ⟨r.rstate.view, r.rstate.opNumber, r.rstate.replicaNumber, grant⟩)

/-- What `Prepare` can do: leave the replica as it is, start a recovery, or, in `Normal`
status and for the next op of its view, append the entry and commit up to the master's commit
number. -/
theorem prepare_eq_ok {r r' : Replica α} {now : Int} {args : PrepareArgs α} {res}
    (h : r.prepare now args = .ok (r', res)) :
    r' = r ∨ r' = r.prepareRecovery ∨ ∃ r₁, r.rstate.status = .normal ∧
      args.view = r.rstate.view ∧ args.opNumber = r.rstate.opNumber + 1 ∧
      { r with rstate := { r.rstate.extendLease (now + lease) with
        opNumber := r.rstate.opNumber + 1 } }.addLog args.command = .ok r₁ ∧
      r₁.doCommit args.commitNumber = .ok r' := by
  have fst {x : Replica α × Except String PrepareReply}
      (hx : (pure x : Except Fault _) = .ok (r', res)) : r' = x.1 :=
    (Prod.mk.inj ((pure_eq_ok _ _).1 hx)).1.symm
  rw [prepare] at h
  by_cases h₁ : args.view > r.rstate.view
  · rw [if_pos h₁] at h; exact .inr (.inl (fst h))
  rw [if_neg h₁] at h
  by_cases h₂ : args.view < r.rstate.view
  · rw [if_pos h₂] at h; exact .inl (fst h)
  rw [if_neg h₂] at h
  by_cases h₃ : r.rstate.status ≠ .normal
  · rw [if_pos h₃] at h; exact .inl (fst h)
  rw [if_neg h₃] at h
  by_cases h₄ : args.opNumber ≤ r.rstate.opNumber
  · rw [if_pos h₄] at h; exact .inl (fst h)
  rw [if_neg h₄] at h
  by_cases h₅ : args.opNumber > r.rstate.opNumber + 1
  · rw [if_pos h₅] at h; exact .inr (.inl (fst h))
  rw [if_neg h₅] at h
  obtain ⟨r₁, h₆, h₇⟩ := (except_bind_eq_ok _ _ _).1 h
  obtain ⟨r₂, h₈, h₉⟩ := (except_bind_eq_ok _ _ _).1 h₇
  exact .inr (.inr ⟨r₁, not_not.1 h₃, by omega, by omega, h₆, fst h₉ ▸ h₈⟩)

/-- `RPCReplica.Commit` at local time `now`. -/
def commit (r : Replica α) (now : Int) (args : CommitArgs) :
    Except Fault (Replica α × Except String HeartbeatReply) :=
  if args.view > r.rstate.view then pure (r.prepareRecovery, .error "doing a recovery")
  else if args.view < r.rstate.view then pure (r, .error wrongView)
  else do
    let grant := now + lease
    let r ← { r with rstate := r.rstate.extendLease grant }.doCommit args.commitNumber
    pure (r, .ok ⟨r.rstate.replicaNumber, grant⟩)

/-- What `Commit` can do: leave the replica as it is, start a recovery, or, for its own view,
restart the lease timer and commit up to the master's commit number. -/
theorem commit_eq_ok {r r' : Replica α} {now : Int} {args : CommitArgs} {res}
    (h : r.commit now args = .ok (r', res)) :
    r' = r ∨ r' = r.prepareRecovery ∨ (args.view = r.rstate.view ∧
      { r with rstate := r.rstate.extendLease (now + lease) }.doCommit args.commitNumber =
        .ok r') := by
  have fst {x : Replica α × Except String HeartbeatReply}
      (hx : (pure x : Except Fault _) = .ok (r', res)) : r' = x.1 :=
    (Prod.mk.inj ((pure_eq_ok _ _).1 hx)).1.symm
  rw [commit] at h
  by_cases h₁ : args.view > r.rstate.view
  · rw [if_pos h₁] at h; exact .inr (.inl (fst h))
  rw [if_neg h₁] at h
  by_cases h₂ : args.view < r.rstate.view
  · rw [if_pos h₂] at h; exact .inl (fst h)
  rw [if_neg h₂] at h
  obtain ⟨r₁, h₃, h₄⟩ := (except_bind_eq_ok _ _ _).1 h
  exact .inr (.inr ⟨by omega, fst h₄ ▸ h₃⟩)

/-- `m[k] = v` on a Go map kept as an association list. -/
def setTime (times : List (ReplicaId × Int)) (k : ReplicaId) (v : Int) : List (ReplicaId × Int) :=
  (k, v) :: times.filter (·.1 ≠ k)

/-- `SortTimes`: the recorded times, earliest first. The function in src/ does not compile (it
ranges over an undefined `m` and stores an undefined `k`); its result type and its caller ask
for the sorted values. -/
def sortTimes (times : List (ReplicaId × Int)) : List Int :=
  (times.map Prod.snd).insertionSort (· ≤ ·)

/-- `Heartbeat(replica, newTime)` at local time `now`. -/
def heartbeat (r : Replica α) (now : Int) (replica : ReplicaId) (newTime : Int) :
    Except Fault (Replica α) := do
  assert r.isMaster .heartbeatIsMaster
  match r.mstate.heartbeats with
  | none => throw .nilMapWrite
  | some times =>
    let times := setTime times replica newTime
    let sortedTimes := sortTimes times
    assert (sortedTimes.length == nReplicas) .heartbeatLength
    match sortedTimes[F]? with
    | none => throw .indexOutOfRange
    | some t =>
      let leaseExpiry := t - maxClockDrift
      pure { r with
        mstate := { r.mstate with heartbeats := some times }.extendNeedsRenewal now leaseExpiry
        rstate := r.rstate.extendLease leaseExpiry
        masterLease := some leaseExpiry }

/-- `BecomeMaster` at local time `now`. -/
def becomeMaster (r : Replica α) (now : Int) : Except Fault (Replica α) := do
  assert r.isMaster .becomeMasterIsMaster
  let expiry := now + (lease - maxClockDrift)
  pure { r with
    mstate := r.mstate.reset.extendNeedsRenewal now expiry
    rstate := r.rstate.extendLease expiry
    masterLease := some expiry }

theorem becomeMaster_eq_ok {r r' : Replica α} {now : Int} :
    r.becomeMaster now = .ok r' ↔ r.isMaster ∧ r' = { r with
      mstate := r.mstate.reset.extendNeedsRenewal now (now + (lease - maxClockDrift))
      rstate := r.rstate.extendLease (now + (lease - maxClockDrift))
      masterLease := some (now + (lease - maxClockDrift)) } := by
  simp only [becomeMaster, except_bind_eq_ok, assert_eq_ok, pure_eq_ok]
  exact ⟨fun ⟨_, h, e⟩ => ⟨h, e.symm⟩, fun ⟨h, e⟩ => ⟨(), h, e.symm⟩⟩

/-- `sendCommitMsgs`: a `Commit` to every other replica. -/
def sendCommitMsgs (r : Replica α) : List (Msg α) :=
  broadcast r.rstate.replicaNumber (.commit ⟨r.rstate.view, r.rstate.commitNumber⟩)

/-- `MasterNeedsRenewal`; `IsShutdown` stays false, as `Shutdown` is not modelled. -/
def masterNeedsRenewal (r : Replica α) : List (Msg α) := r.sendCommitMsgs

/-- `RunVR(command)`: append and send `Prepare` to every other replica. -/
def runVR (r : Replica α) (command : α) : Except Fault (Replica α × List (Msg α)) := do
  assert r.isMaster .runVRIsMaster
  assert (r.rstate.opNumber == r.rstate.commitNumber) .runVROpNumber
  let r : Replica α :=
    { r with mstate := r.mstate.reset, rstate.opNumber := r.rstate.opNumber + 1 }
  let r ← r.addLog command
  pure (r, broadcast r.rstate.replicaNumber
    (.prepare ⟨r.rstate.view, command, r.rstate.opNumber, r.rstate.commitNumber⟩))

/-- `handlePrepareOK(reply)` at local time `now`, with the messages it sends and its result. -/
def handlePrepareOK (r : Replica α) (now : Int) (reply : PrepareReply) :
    Except Fault (Replica α × List (Msg α) × Bool) :=
  if reply.view ≠ r.rstate.view then pure (r, [], false)
  else do
    let r ← r.heartbeat now reply.replicaNumber reply.lease
    if reply.opNumber ≠ r.rstate.opNumber then pure (r, [], false)
    else if replied r.mstate.replies reply.replicaNumber then pure (r, [], false)
    else
      let r := { r with
        mstate.replies := markReplied r.mstate.replies reply.replicaNumber
        mstate.a := r.mstate.a + 1 }
      if r.mstate.a ≠ F then pure (r, [], decide (r.mstate.a ≥ F))
      else do
        let r ← r.doCommit (r.rstate.commitNumber + 1)
        pure (r, r.sendCommitMsgs, true)

end Replica

end GoPhat
