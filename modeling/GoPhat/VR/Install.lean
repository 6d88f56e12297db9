import GoPhat.VR.Group

/-!
# What a new master installs

`calcMasterView` fills the new master's record from `DoViewChangeMsgs` alone. Its view is
the largest view in any slot, the replica's own view not among them, so a master that has
timed out again since the slots were filled moves back. Its log is the log of slot `maxIdx`,
and `maxIdx` starts at slot `0` and moves only to a slot reporting a later normal view or a
longer log: when no slot does, the log of slot `0` is installed, whether a `DoViewChange` ever
filled it or not.
-/

namespace GoPhat

variable {α : Type}

section Scan

variable (me : ReplicaId) (msgs : ReplicaId → DoViewChangeArgs α)

@[simp] theorem scanSlot_maxView (s : MasterViewScan) (i : ReplicaId) :
    (scanSlot me msgs s i).maxView = max s.maxView (msgs i).view := by
  by_cases h₁ : (msgs i).view > s.maxView <;> by_cases h₂ : i = me <;>
    simp only [scanSlot, h₁, h₂, if_true, if_false, ne_eq, not_true, not_false_eq_true] <;>
    split_ifs <;> (try dsimp only) <;> omega

theorem foldl_scanSlot_maxView (l : List ReplicaId) (s : MasterViewScan) :
    (l.foldl (scanSlot me msgs) s).maxView =
      l.foldl (fun v i => max v (msgs i).view) s.maxView := by
  induction l generalizing s with
  | nil => rfl
  | cons i l ih => simp only [List.foldl_cons, ih, scanSlot_maxView]

end Scan

theorem foldl_max_le_iff {f : ReplicaId → Nat} (l : List ReplicaId) (a v : Nat) :
    l.foldl (fun m i => max m (f i)) a ≤ v ↔ a ≤ v ∧ ∀ i ∈ l, f i ≤ v := by
  induction l generalizing a with
  | nil => simp
  | cons i l ih => simp [ih, and_assoc]

namespace Replica

/-- The view `calcMasterView` installs is at most `v` exactly when every slot's view is. -/
theorem calcMasterView_view_le_iff (r : Replica α) (v : Nat) :
    r.calcMasterView.rstate.view ≤ v ↔ ∀ i, (r.vcstate.doViewChangeMsgs i).view ≤ v := by
  simp [calcMasterView, foldl_scanSlot_maxView, foldl_max_le_iff]

end Replica

/-- The log invariant of a replica: `Phatlog` is set, holds entries exactly at
`1 .. OpNumber`, `MaxIndex = OpNumber`, and `CommitNumber ≤ OpNumber`. -/
def Replica.LogWellFormed (r : Replica α) : Prop :=
  ∃ l, r.phatlog = some l ∧
    (∀ k, (l.commits k).isSome ↔ 1 ≤ k ∧ k ≤ r.rstate.opNumber) ∧
    l.maxIndex = r.rstate.opNumber ∧ r.rstate.commitNumber ≤ r.rstate.opNumber

/-- Replica 0 times out of view 0 at its deadline; replica 1 takes its `StartViewChange`
and, as master of view 1, waits for one `DoViewChange`; replica 2 takes the same message and
sends replica 1 its `DoViewChange`, which replica 1 then takes. Replica 1's `StartView`
goroutine then calls replicas 0 and 2 once each. -/
def viewOneElectionRun : List (Action α) :=
  [.tick 900, .masterNeedsRenewal 0, .tick 900, .replicaTimeout 0, .deliver 2, .deliver 3,
    .deliver 8, .sendStartView 1 0 0, .sendStartView 1 0 2]

/-- After `viewOneElectionRun` replica 1 is the `Normal` master of view 1 with a nil
`Phatlog`, taken from the unfilled slot `0`: the next `RunVR` dereferences it. -/
theorem doViewChange_installs_nil_log :
    ∃ w, (World.init noSkew noSkew_le : World Nat).timedRun viewOneElectionRun = some w ∧
      TimedReachable w ∧ ¬ (w.replicas 1).LogWellFormed ∧
      (w.replicas 1).rstate.status = .normal ∧ (w.replicas 1).isMaster ∧
      (w.replicas 1).runVR 7 = .error .nilDereference := by
  refine ⟨_, rfl, @TimedReachable.timedRun _ _ _ viewOneElectionRun (.init noSkew noSkew_le) rfl,
    ?_, rfl, rfl, rfl⟩
  rintro ⟨l, hl, -⟩
  cases hl

/-- Replica 0 crashes; replicas 1 and 2 time out of view 0 at their deadlines; replica 2
takes replica 1's `StartViewChange` for view 1 and sends it a `DoViewChange`; replica 1 times
out again, into view 2, before that message arrives. -/
def staleDoViewChangeRun : List (Action α) :=
  [.crash 0, .tick 2000, .replicaTimeout 1, .replicaTimeout 2, .deliver 1, .tick 2000,
    .replicaTimeout 1]

/-- Taking the stale `DoViewChange` moves replica 1 from view 2 back to view 1. -/
theorem doViewChange_lowers_view :
    ∃ w w', (World.init noSkew noSkew_le : World Nat).timedRun staleDoViewChangeRun = some w ∧
      TimedReachable w ∧ w.exec (.deliver 4) = some w' ∧
      (w'.replicas 1).rstate.view < (w.replicas 1).rstate.view :=
  ⟨_, _, rfl, @TimedReachable.timedRun _ _ _ staleDoViewChangeRun (.init noSkew noSkew_le) rfl,
    rfl, by decide⟩

/-- Replica 1 has taken `DoViewChange`s from replicas 0 and 2 for view 3: replica 0 was last
`Normal` in view 2 at op 1, replica 2 in view 1 at op 5. `maxNormalView` stays `0`, so every
slot with a normal view above `0` replaces the candidate, and the later slot, with the older
normal view, is installed. -/
theorem calcMasterView_installs_older_normalView :
    let slot0 : DoViewChangeArgs Nat :=
      { view := 3, replicaNumber := 0, log := some (Log.emptyLog.add 1 10), normalView := 2,
        opNumber := 1 }
    let slot2 : DoViewChangeArgs Nat :=
      { view := 3, replicaNumber := 2, log := some (Log.emptyLog.add 5 20), normalView := 1,
        opNumber := 5 }
    let r : Replica Nat := { replicaInit 1 0 with
      vcstate := { doViewChangeMsgs := fun i => if i = 0 then slot0 else if i = 2 then slot2 else {}
                   doViewReplies := markReplied (markReplied 0 0) 2
                   doViews := 1 } }
    replied r.vcstate.doViewReplies 0 ∧ replied r.vcstate.doViewReplies 2 ∧
      slot2.normalView < slot0.normalView ∧
      r.calcMasterView.rstate.opNumber = slot2.opNumber ∧ r.calcMasterView.phatlog = slot2.log :=
  ⟨rfl, rfl, by decide, rfl, rfl⟩

end GoPhat
