import GoPhat.VR.Normal
import GoPhat.VR.SendAndRecv

/-!
# View change

`vrviewchange.go`: a replica whose lease timer fires starts a view change
(`ReplicaTimeout`, `PrepareViewChange`); `StartViewChange` messages are counted until `F`
arrive, then a `DoViewChange` goes to the presumed new master, which, after `F` of them,
installs the state `calcMasterView` picks and starts a goroutine that sends `StartView`.

That goroutine, `go r.sendAndRecv(NREPLICAS, "RPCReplica.StartView", SVargs, ...)`, holds in
`SVargs.Log` the pointer `r.Phatlog`, not a copy of the log, and gob encodes `SVargs` at each
`client.Call`, first or retried. A `RunVR` or `Prepare` in between adds to that same log in
place, and the follower receives the log as it is then, with the `OpNumber` of the moment the
view change completed. Only `calcMasterView` and `StartView` make `r.Phatlog` point at another
log; the goroutine keeps the old one (`setPhatlog`).
-/

namespace GoPhat

/-- The loop variables of `calcMasterView`. -/
structure MasterViewScan where
  maxOp : Nat := 0
  maxCommit : Nat := 0
  maxIdx : ReplicaId := 0
  maxNormalView : Nat := 0
  maxView : Nat := 0

/-- One pass of `calcMasterView`'s loop body, at array slot `i`, for replica `me`. -/
def scanSlot {α : Type} (me : ReplicaId) (msgs : ReplicaId → DoViewChangeArgs α)
    (s : MasterViewScan) (i : ReplicaId) : MasterViewScan :=
  let m := msgs i
  let s := if m.view > s.maxView then { s with maxView := m.view } else s
  if i ≠ me then
    let s := if m.normalView > s.maxNormalView ∨
        (m.normalView = s.maxNormalView ∧ m.opNumber > s.maxOp) then
        { s with maxOp := m.opNumber, maxIdx := i } else s
    if m.commitNumber > s.maxCommit then { s with maxCommit := m.commitNumber } else s
  else s

namespace Replica

variable {α : Type}

/-- `PrepareViewChange`. -/
def prepareViewChange (r : Replica α) : Replica α × List (Msg α) :=
  let r := { r with rstate.status := .viewChange, rstate.view := r.rstate.view + 1 }
  (r, broadcast r.rstate.replicaNumber
    (.startViewChange ⟨r.rstate.view, r.rstate.replicaNumber⟩))

/-- `ReplicaTimeout` at local time `now`. -/
def replicaTimeout (r : Replica α) (now : Int) : Replica α × List (Msg α) :=
  let (r, sent) := r.prepareViewChange
  ({ r with rstate := r.rstate.extendLease (now + lease) }, sent)

/-- `RPCReplica.StartViewChange`, with the `StartViewChange` it rebroadcasts and the
`DoViewChange` it sends through `SendSync`. -/
def startViewChange (r : Replica α) (args : StartViewChangeArgs) : Replica α × List (Msg α) :=
  if r.rstate.view > args.view then (r, [])
  else if replied r.vcstate.startViewReplies args.replicaNumber then (r, [])
  else
    let r := { r with
      vcstate.startViewReplies := markReplied r.vcstate.startViewReplies args.replicaNumber
      vcstate.startViews := r.vcstate.startViews + 1 }
    let adopt := r.rstate.view < args.view
    let r := if adopt then
        { r with
          vcstate.normalView := r.rstate.view
          rstate.view := args.view
          rstate.status := .viewChange }
      else r
    let rebroadcast := if adopt then
        broadcast r.rstate.replicaNumber
          (.startViewChange ⟨r.rstate.view, r.rstate.replicaNumber⟩)
      else []
    let toMaster : List (Msg α) :=
      if r.vcstate.startViews = F ∧ !r.isMaster then
        [⟨r.rstate.replicaNumber, masterOf r.rstate.view, .doViewChange
          { view := r.rstate.view, replicaNumber := r.rstate.replicaNumber, log := r.phatlog,
            normalView := r.vcstate.normalView, opNumber := r.rstate.opNumber,
            commitNumber := r.rstate.commitNumber }⟩]
      else []
    (r, rebroadcast ++ toMaster)

/-- `calcMasterView`. -/
def calcMasterView (r : Replica α) : Replica α :=
  let msgs := r.vcstate.doViewChangeMsgs
  let r := { r with rstate.view := (msgs 0).view }
  let s := (List.finRange (nReplicas + 1)).foldl (scanSlot r.rstate.replicaNumber msgs) {}
  { r.setPhatlog (msgs s.maxIdx).log with
    rstate.view := s.maxView
    rstate.opNumber := s.maxOp
    rstate.commitNumber := s.maxCommit }

theorem mem_calcMasterView {r : Replica α} {c : StartViewCall α}
    (h : c ∈ r.calcMasterView.startViewCalls) :
    ∃ c₀ ∈ r.startViewCalls, c.view = c₀.view ∧ c.opNumber = c₀.opNumber ∧
      c.commitNumber = c₀.commitNumber ∧ ∀ l, c.log.read l = c₀.log.read r.phatlog := by
  obtain ⟨c₀, h₀, rfl⟩ := List.mem_map.1 h
  exact ⟨c₀, h₀, rfl, rfl, rfl, fun _ => rfl⟩

/-- `SVargs := StartViewArgs{View, Phatlog, OpNumber, CommitNumber}` and
`go r.sendAndRecv(NREPLICAS, "RPCReplica.StartView", SVargs, ...)`. -/
def spawnStartView (r : Replica α) : Replica α :=
  { r with
    startViewCalls := r.startViewCalls ++
      [{ view := r.rstate.view, log := .phatlog, opNumber := r.rstate.opNumber
         commitNumber := r.rstate.commitNumber }] }

/-- `RPCReplica.DoViewChange` at local time `now`; with the `F`-th message it starts the
goroutine that sends `StartView`. -/
def doViewChange (r : Replica α) (now : Int) (args : DoViewChangeArgs α) :
    Except Fault (Replica α) :=
  if replied r.vcstate.doViewReplies args.replicaNumber then pure r
  else
    let r := { r with
      vcstate.doViewReplies := markReplied r.vcstate.doViewReplies args.replicaNumber
      vcstate.doViews := r.vcstate.doViews + 1
      vcstate.doViewChangeMsgs :=
        Function.update r.vcstate.doViewChangeMsgs args.replicaNumber args }
    if r.vcstate.doViews ≠ F then pure r
    else do
      let r ← { r.calcMasterView with rstate.status := .normal }.becomeMaster now
      pure r.spawnStartView

/-- What `DoViewChange` can do: ignore a replica it has heard from, count the message, or,
with the `F`-th, install `calcMasterView`'s state in `Normal` status, become master and start
the `StartView` goroutine. -/
theorem doViewChange_eq_ok {r r' : Replica α} {now : Int} {args : DoViewChangeArgs α}
    (h : r.doViewChange now args = .ok r') :
    let r₁ : Replica α := { r with
      vcstate.doViewReplies := markReplied r.vcstate.doViewReplies args.replicaNumber
      vcstate.doViews := r.vcstate.doViews + 1
      vcstate.doViewChangeMsgs :=
        Function.update r.vcstate.doViewChangeMsgs args.replicaNumber args }
    (replied r.vcstate.doViewReplies args.replicaNumber ∧ r' = r) ∨
      (¬ replied r.vcstate.doViewReplies args.replicaNumber ∧ r.vcstate.doViews + 1 ≠ F ∧
        r' = r₁) ∨
      (¬ replied r.vcstate.doViewReplies args.replicaNumber ∧ r.vcstate.doViews + 1 = F ∧
        ∃ r₂, { r₁.calcMasterView with rstate.status := .normal }.becomeMaster now = .ok r₂ ∧
          r' = r₂.spawnStartView) := by
  intro r₁
  rw [doViewChange] at h
  by_cases h₁ : replied r.vcstate.doViewReplies args.replicaNumber
  · rw [if_pos h₁] at h; exact .inl ⟨h₁, ((pure_eq_ok _ _).1 h).symm⟩
  rw [if_neg h₁] at h
  by_cases h₂ : r.vcstate.doViews + 1 ≠ F
  · rw [if_pos h₂] at h; exact .inr (.inl ⟨h₁, h₂, ((pure_eq_ok _ _).1 h).symm⟩)
  rw [if_neg h₂] at h
  obtain ⟨r₂, h₃, h₄⟩ := (except_bind_eq_ok _ _ _).1 h
  exact .inr (.inr ⟨h₁, not_not.1 h₂, r₂, h₃, ((pure_eq_ok _ _).1 h₄).symm⟩)

/-- `RPCReplica.StartView` at local time `now`. Its `ExtendLease()` has no argument in src/;
the model restarts the lease timer for a full `LEASE`, as the spec says. -/
def startView (r : Replica α) (now : Int) (args : StartViewArgs α) : Replica α :=
  let r := { r.setPhatlog args.log with
    rstate.opNumber := args.opNumber
    rstate.commitNumber := args.commitNumber
    rstate.status := .normal }
  { r with rstate := r.rstate.extendLease (now + lease) }.resetVcstate

/-- One `client.Call` of the `k`-th `StartView` goroutine to peer `dst`, while `sendOne` has
made fewer than `MAX_TRIES` calls to it: gob encodes `SVargs` now, reading the log its pointer
points at. -/
def sendStartView (r : Replica α) (k : Nat) (dst : ReplicaId) : Option (Replica α × Msg α) :=
  match r.startViewCalls[k]? with
  | none => none
  | some c =>
    if dst ∈ peers r.rstate.replicaNumber ∧ c.tries dst < maxTries then
      some ({ r with startViewCalls := r.startViewCalls.set k (c.tried dst) },
        ⟨r.rstate.replicaNumber, dst, .startView (c.args r.phatlog)⟩)
    else none

/-- What a call of a `StartView` goroutine does: it counts the call, and sends a `StartView`
from the replica to a peer with the goroutine's view and numbers and the log its pointer points
at. -/
theorem sendStartView_eq_some {r r' : Replica α} {k : Nat} {dst : ReplicaId} {m : Msg α}
    (h : r.sendStartView k dst = some (r', m)) :
    ∃ c ∈ r.startViewCalls, dst ∈ peers r.rstate.replicaNumber ∧
      r' = { r with startViewCalls := r.startViewCalls.set k (c.tried dst) } ∧
      m = ⟨r.rstate.replicaNumber, dst, .startView (c.args r.phatlog)⟩ := by
  unfold sendStartView at h
  split at h
  · cases h
  rename_i c hc
  split_ifs at h with hd
  obtain ⟨rfl, rfl⟩ := Prod.mk.inj (Option.some.inj h).symm
  exact ⟨c, List.getElem?_mem hc, hd.1, rfl, rfl⟩

theorem mem_set_tried {l : List (StartViewCall α)} {k : Nat} {c c' : StartViewCall α}
    {dst : ReplicaId} (h : c' ∈ l.set k (c.tried dst)) : c' ∈ l ∨ c' = c.tried dst := by
  rcases List.mem_or_eq_of_mem_set h with h | h
  exacts [.inl h, .inr h]

end Replica

end GoPhat
