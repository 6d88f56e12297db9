import GoPhat.VR.Install
import GoPhat.VR.Uncommitted

/-!
# The RPC server facade

`phatRPC.Server.RPCDB` answers a client at one replica. A replica in `Normal` status whose
number is `getMasterId` sends `CREATE`, `DELETE`, `SET` and `GET` through `RunVR` and hands
any other command straight to the database through `InputChan`; every other replica refuses.
`getMasterId` reads `View % NREPLICAS`, where `IsMaster` reads `View % (NREPLICAS+1)`.

`Served` is the group of `GroupSteps` driven by clients: `RunVR` is called only from `RPCDB`.
-/

namespace GoPhat

/-- `phatdb.DBCommand`. -/
structure DBCommand where
  command : String
  path : String
  value : String
  deriving DecidableEq, Repr

/-- The two fields of `phatdb.DBResponse` that `RPCDB` sets itself. -/
structure DBResponse where
  error : String := ""
  reply : Nat := 0
  deriving DecidableEq, Repr

/-- Where `RPCDB` sends a command it accepts. -/
inductive Dispatch
  | runVR
  | inputChan
  deriving DecidableEq, Repr

variable {α : Type}

/-- `getMasterId`. -/
def getMasterId (r : Replica α) : Nat := r.rstate.view % nReplicas

/-- `RPCDB` up to the hand-off: the error it returns, with the reply fields set by then, or
where the command goes. -/
def rpcdb (r : Replica α) (args : DBCommand) : Except (String × DBResponse) Dispatch :=
  if r.rstate.status ≠ .normal then .error ("Master Failover", {})
  else if r.rstate.replicaNumber.val ≠ getMasterId r then
    .error ("Not master node", { error := "Not master node", reply := getMasterId r })
  else if args.command ∈ ["CREATE", "DELETE", "SET", "GET"] then .ok .runVR
  else .ok .inputChan

/-- `RunVR` called directly, not through `RPCDB`. -/
def Action.isRunVR : Action α → Bool
  | .runVR _ _ => true
  | _ => false

/-- A client's `RPCDB` call at replica `i`: a command sent to `RunVR` runs it there; one
refused or handed to the database leaves the group as it is. -/
def World.serve (w : World DBCommand) (i : ReplicaId) (args : DBCommand) :
    Option (World DBCommand) :=
  if w.alive i then
    match rpcdb (w.replicas i) args with
    | .ok .runVR => w.exec (.runVR i args)
    | _ => some w
  else none

/-- The worlds a timed run of the group reaches when clients reach `RunVR` only through
`RPCDB`. -/
inductive Served : World DBCommand → Prop
  | init (skew : ReplicaId → Int)
      (h : ∀ i, -maxClockDrift ≤ skew i ∧ skew i ≤ maxClockDrift) : Served (.init skew h)
  | step {w w' : World DBCommand} (a : Action DBCommand) :
      Served w → a.isRunVR = false → w.timely a → w.exec a = some w' → Served w'
  | serve {w w' : World DBCommand} (i : ReplicaId) (args : DBCommand) :
      Served w → w.serve i args = some w' → Served w'

theorem Served.reachable {w : World DBCommand} (h : Served w) : Reachable w := by
  induction h with
  | init skew h => exact .init skew h
  | step a _ _ _ hw ih => exact .step a ih hw
  | serve i args _ hw ih =>
    unfold World.serve at hw
    split_ifs at hw
    split at hw
    · exact .step _ ih hw
    · cases hw; exact ih

theorem Served.timedRun {w w' : World DBCommand} {as : List (Action DBCommand)} (h : Served w)
    (has : as.all (!·.isRunVR)) (hr : w.timedRun as = some w') : Served w' := by
  induction as generalizing w with
  | nil => cases hr; exact h
  | cons a as ih =>
    simp only [List.all_cons, Bool.and_eq_true, Bool.not_eq_true'] at has
    simp only [World.timedRun] at hr
    split at hr
    · obtain ⟨v, hv, hr⟩ := Option.bind_eq_some.mp hr
      exact ih (h.step a has.1 ‹_› hv) has.2 hr
    · cases hr

/-- A command `RPCDB` hands straight to the database is read at a replica that has already
applied every command any replica has applied, in the same order. This is `history_eq_nil`: no
replica applies any command, and `RPCDB`'s checks play no part. -/
theorem readLocally_linearizable {w : World DBCommand} (hw : Reachable w) {i : ReplicaId}
    {args : DBCommand} (_h : rpcdb (w.replicas i) args = .ok .inputChan) (j : ReplicaId) :
    (w.replicas j).history <+: (w.replicas i).history :=
  history_eq_nil hw j ▸ List.nil_prefix

/-- `viewOneElectionRun`, then replica 2 times out of view 1 at its deadline and replica 0
follows it into view 2; then replica 0 takes the `StartView` of view 1. -/
def staleStartViewRun : List (Action DBCommand) :=
  viewOneElectionRun ++ [.tick 200, .replicaTimeout 2, .deliver 11, .deliver 9]

/-- After `staleStartViewRun` replica 0 is `Normal` in view 2, where `getMasterId` names it
and `IsMaster` does not: `RPCDB` passes a `SET` to `RunVR`, whose first `assert` fails and
ends the process. -/
theorem rpcdb_runVR_assert_fails :
    ∃ w, (World.init noSkew noSkew_le).timedRun staleStartViewRun = some w ∧ Served w ∧
      rpcdb (w.replicas 0) ⟨"SET", "/a", "1"⟩ = .ok .runVR ∧
      (w.replicas 0).runVR ⟨"SET", "/a", "1"⟩ = .error (.assertFailed .runVRIsMaster) ∧
      w.serve 0 ⟨"SET", "/a", "1"⟩ = some (w.halt 0) :=
  ⟨_, rfl, @Served.timedRun _ _ staleStartViewRun (.init noSkew noSkew_le) (by decide) rfl,
    rfl, rfl, rfl⟩

/-- After `staleStartViewRun` replica 0, `Normal` in view 2, is the replica `getMasterId` names,
and hands a `CHILDREN` straight to the database. -/
theorem readLocally_linearizable_staleStartView :
    ∃ w, (World.init noSkew noSkew_le).timedRun staleStartViewRun = some w ∧ Reachable w ∧
      rpcdb (w.replicas 0) ⟨"CHILDREN", "/", ""⟩ = .ok .inputChan ∧
      (w.replicas 1).history <+: (w.replicas 0).history :=
  have hw := @Served.timedRun _ _ staleStartViewRun (.init noSkew noSkew_le) (by decide) rfl
  ⟨_, rfl, hw.reachable, rfl,
    @readLocally_linearizable _ hw.reachable 0 ⟨"CHILDREN", "/", ""⟩ rfl 1⟩

end GoPhat
