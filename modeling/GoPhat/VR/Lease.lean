import GoPhat.VR.Install

/-!
# Leases

A follower's `Prepare` and `Commit` replies carry a lease, `time.Now().Add(LEASE)`, and set
its own `ReplicaTimeout` to that instant. `BecomeMaster` gives the new master a lease of
`LEASE - MAX_CLOCK_DRIFT` from its own clock, counting no grant. `StartViewChange` adopts a
higher view whatever the follower has granted, as the `TODO` beside it says. In timed runs
these let a follower leave the view it promised to stay in, and two masters hold live leases
at the same instant.
-/

namespace GoPhat

variable {α : Type}

/-- Replica `i` serves as master: `Normal`, `IsMaster()`, and its clock has not reached the
deadline last set by `Heartbeat` or `BecomeMaster`. -/
def World.leaseMaster (w : World α) (i : ReplicaId) : Bool :=
  (w.replicas i).rstate.status == .normal && (w.replicas i).isMaster &&
    (w.replicas i).masterLease.any (w.clock i < ·)

/-- `viewOneElectionRun`, then replica 2 times out of view 1 at its deadline; replica 0 takes
its `StartViewChange` for view 2 and sends it the `DoViewChange` that makes it master. -/
def leaseOverlapRun : List (Action α) :=
  viewOneElectionRun ++ [.tick 200, .replicaTimeout 2, .deliver 11, .deliver 15]

/-- At real time 2000 replicas 1 and 2 are both `Normal` masters, of views 1 and 2, each with
a lease its clock has not reached. -/
theorem two_lease_masters :
    ∃ w, (World.init noSkew noSkew_le : World Nat).timedRun leaseOverlapRun = some w ∧
      TimedReachable w ∧ w.leaseMaster 1 ∧ w.leaseMaster 2 :=
  ⟨_, rfl, @TimedReachable.timedRun _ _ _ leaseOverlapRun (.init noSkew noSkew_le) rfl,
    rfl, rfl⟩

/-- Replica 1 takes the master's `Prepare` at time 0 and grants it a lease until 2000;
the master renews at 900 and times out of view 0 at 1800, at its deadline. -/
def grantThenTimeoutRun : List (Action Nat) :=
  [.runVR 0 7, .deliver 0, .tick 900, .masterNeedsRenewal 0, .tick 900, .replicaTimeout 0]

/-- At 1800 replica 1, whose grant to the master of view 0 runs to 2000, takes the old
master's `StartViewChange` and moves to view 1. -/
theorem startViewChange_breaks_grant :
    ∃ w w', (World.init noSkew noSkew_le).timedRun grantThenTimeoutRun = some w ∧
      TimedReachable w ∧ (1, 0, 2000) ∈ w.grants ∧ w.clock 1 < 2000 ∧
      (w.replicas 1).rstate.view = 0 ∧ w.exec (.deliver 5) = some w' ∧
      (w'.replicas 1).rstate.view = 1 :=
  ⟨_, _, rfl, @TimedReachable.timedRun _ _ _ grantThenTimeoutRun (.init noSkew noSkew_le) rfl,
    by decide, by decide, rfl, rfl, rfl⟩

/-- The master of view 0 writes its first grant to the nil `Heartbeats` map. Had the map been
made, one grant, enough for `F = 1`, would fail the length `assert`; and a grant left from an
earlier view counts: beside replica 1's grant until 3000, replica 2's old grant until 5000 sets
the lease to 4800. -/
theorem heartbeat_counts_stale_grant :
    let r : Replica Nat := (World.init noSkew noSkew_le).replicas 0
    r.isMaster ∧ r.heartbeat 0 1 3000 = .error .nilMapWrite ∧
      { r with mstate.heartbeats := some [] }.heartbeat 0 1 3000 =
        .error (.assertFailed .heartbeatLength) ∧
      Except.map Replica.masterLease
        ({ r with mstate.heartbeats := some [(2, 5000)] }.heartbeat 0 1 3000) = .ok (some 4800) :=
  ⟨rfl, rfl, rfl, rfl⟩

end GoPhat
