import GoPhat.VR.Commit
import GoPhat.VR.Lease
import GoPhat.VR.Uncommitted

/-!
# Status over whole runs

Which step can change a replica's `Status`, and to what. A lease timeout (`ReplicaTimeout`,
`PrepareViewChange`) and a `StartViewChange` for a higher view put a replica into `ViewChange`
whatever its status, `Recovery` included: neither handler looks at the status. `Prepare`,
`Commit` and `doCommit` start a recovery; `DoViewChange` and `StartView` end a view change in
`Normal`, again whatever the status.

`NormalView` is set only where `StartViewChange` adopts a higher view; `PrepareViewChange`
and the new master's `DoViewChange` leave it, so a master that times out reports the view it
was last `Normal` in wrongly. `DoViewChange` counts messages whatever view they carry, and its
counters are reset only by `StartView`: a stale `DoViewChange` makes a master complete the same
view change again.
-/

namespace GoPhat

variable {α : Type}

/-- The status handling a message of this kind can leave its receiver in, other than the one
it had: `StartViewChange` adopts a higher view in `ViewChange`; `Prepare`, `Commit` and, through
`doCommit`, a `PrepareReply` start a recovery; `DoViewChange` and `StartView` end in `Normal`. -/
def Body.canSetStatus : Body α → Status → Bool
  | .startViewChange _, .viewChange => true
  | .prepare _, .recovery => true
  | .commit _, .recovery => true
  | .prepareReply _, .recovery => true
  | .doViewChange _, .normal => true
  | .startView _, .normal => true
  | _, _ => false

namespace Replica

theorem heartbeat_status {r r' : Replica α} {now : Int} {replica : ReplicaId} {newTime : Int}
    (h : r.heartbeat now replica newTime = .ok r') : r'.rstate.status = r.rstate.status := by
  unfold heartbeat at h
  obtain ⟨_, -, h⟩ := (except_bind_eq_ok _ _ _).1 h
  split at h
  · cases h
  · obtain ⟨_, -, h⟩ := (except_bind_eq_ok _ _ _).1 h
    split at h
    · cases h
    · rw [← (pure_eq_ok _ _).1 h]
      rfl

theorem prepare_keepsStatus {r r' : Replica α} {now : Int} {args : PrepareArgs α} {res}
    (h : r.prepare now args = .ok (r', res)) : KeepsStatus r r' := by
  obtain rfl | rfl | ⟨r₁, -, -, -, h₁, h₂⟩ := prepare_eq_ok h
  · exact .inl rfl
  · exact .inr rfl
  · obtain ⟨_, -, rfl⟩ := addLog_eq_ok h₁
    have := doCommit_keepsStatus h₂
    exact this

theorem commit_keepsStatus {r r' : Replica α} {now : Int} {args : CommitArgs} {res}
    (h : r.commit now args = .ok (r', res)) : KeepsStatus r r' := by
  obtain rfl | rfl | ⟨-, h₁⟩ := commit_eq_ok h
  · exact .inl rfl
  · exact .inr rfl
  · have := doCommit_keepsStatus h₁
    exact this

theorem handlePrepareOK_keepsStatus {r r' : Replica α} {now : Int} {reply : PrepareReply}
    {sent : List (Msg α)} {b : Bool} (h : r.handlePrepareOK now reply = .ok (r', sent, b)) :
    KeepsStatus r r' := by
  have fst {x : Replica α × List (Msg α) × Bool} (hx : (pure x : Except Fault _) = .ok (r', sent, b)) :
      r' = x.1 := (Prod.mk.inj ((pure_eq_ok _ _).1 hx)).1.symm
  rw [handlePrepareOK] at h
  by_cases h₁ : reply.view ≠ r.rstate.view
  · rw [if_pos h₁] at h; exact .inl (by rw [fst h])
  rw [if_neg h₁] at h
  obtain ⟨r₁, h₂, h₃⟩ := (except_bind_eq_ok _ _ _).1 h
  have hs : KeepsStatus r r₁ := .inl (heartbeat_status h₂)
  by_cases h₄ : reply.opNumber ≠ r₁.rstate.opNumber
  · rw [if_pos h₄] at h₃; rw [fst h₃]; exact hs
  rw [if_neg h₄] at h₃
  by_cases h₅ : replied r₁.mstate.replies reply.replicaNumber
  · rw [if_pos h₅] at h₃; rw [fst h₃]; exact hs
  rw [if_neg h₅] at h₃
  dsimp only at h₃
  split_ifs at h₃
  · rw [fst h₃]; exact hs
  · obtain ⟨r₂, h₆, h₇⟩ := (except_bind_eq_ok _ _ _).1 h₃
    rw [fst h₇]
    have := doCommit_keepsStatus h₆
    exact hs.trans this

theorem startViewChange_status (r : Replica α) (args : StartViewChangeArgs) :
    (r.startViewChange args).1.rstate.status = r.rstate.status ∨
      (r.startViewChange args).1.rstate.status = .viewChange := by
  rw [startViewChange]
  by_cases h₁ : r.rstate.view > args.view
  · simp [h₁]
  by_cases h₂ : replied r.vcstate.startViewReplies args.replicaNumber
  · simp [h₁, h₂]
  rw [if_neg h₁, if_neg h₂]
  by_cases h₃ : r.rstate.view < args.view <;> simp [h₃]

theorem doViewChange_status {r r' : Replica α} {now : Int} {args : DoViewChangeArgs α}
    (h : r.doViewChange now args = .ok r') :
    r'.rstate.status = r.rstate.status ∨ r'.rstate.status = .normal := by
  obtain ⟨-, rfl⟩ | ⟨-, -, rfl⟩ | ⟨-, -, _, h₁, rfl⟩ := doViewChange_eq_ok h
  · exact .inl rfl
  · exact .inl rfl
  · obtain ⟨-, rfl⟩ := becomeMaster_eq_ok.1 h₁
    exact .inr rfl

theorem runVR_status {r r' : Replica α} {c : α} {sent} (h : r.runVR c = .ok (r', sent)) :
    r'.rstate.status = r.rstate.status := by
  unfold runVR at h
  simp only [except_bind_eq_ok, assert_eq_ok] at h
  obtain ⟨_, -, _, -, r₁, h₁, h₂⟩ := h
  obtain ⟨_, -, rfl⟩ := addLog_eq_ok h₁
  rw [← (Prod.mk.inj ((pure_eq_ok _ _).1 h₂)).1]

theorem receive_status {r r' : Replica α} {now : Int} {m : Msg α} {sent g}
    (h : r.receive now m = .ok (r', sent, g)) :
    r'.rstate.status = r.rstate.status ∨ m.body.canSetStatus r'.rstate.status := by
  have ofKeeps (hk : KeepsStatus r r') (hb : m.body.canSetStatus .recovery) :
      r'.rstate.status = r.rstate.status ∨ m.body.canSetStatus r'.rstate.status := by
    rcases hk with hk | hk
    · exact .inl hk
    · exact .inr (hk ▸ hb)
  unfold receive at h
  split at h <;> rename_i hb
  · simp only [except_bind_eq_ok] at h
    obtain ⟨⟨r₁, res⟩, h₁, h₂⟩ := h
    have : r' = r₁ := by
      split at h₂ <;> exact (Prod.mk.inj ((pure_eq_ok _ _).1 h₂)).1.symm
    subst this
    exact ofKeeps (prepare_keepsStatus h₁) (by simp [hb, Body.canSetStatus])
  · obtain ⟨⟨r₁, sent₁, b⟩, h₁, h₂⟩ := (except_bind_eq_ok _ _ _).1 h
    obtain rfl := (Prod.mk.inj ((pure_eq_ok _ _).1 h₂)).1.symm
    exact ofKeeps (handlePrepareOK_keepsStatus h₁) (by simp [hb, Body.canSetStatus])
  · simp only [except_bind_eq_ok] at h
    obtain ⟨⟨r₁, res⟩, h₁, h₂⟩ := h
    have : r' = r₁ := by
      split at h₂ <;> exact (Prod.mk.inj ((pure_eq_ok _ _).1 h₂)).1.symm
    subst this
    exact ofKeeps (commit_keepsStatus h₁) (by simp [hb, Body.canSetStatus])
  · obtain ⟨r₁, h₁, h₂⟩ := (except_bind_eq_ok _ _ _).1 h
    obtain rfl := (Prod.mk.inj ((pure_eq_ok _ _).1 h₂)).1.symm
    exact .inl (heartbeat_status h₁)
  · obtain rfl := (Prod.mk.inj ((pure_eq_ok _ _).1 h)).1.symm
    rcases startViewChange_status r _ with h₁ | h₁
    · exact .inl h₁
    · exact .inr (by simp [hb, h₁, Body.canSetStatus])
  · obtain ⟨r₁, h₁, h₂⟩ := (except_bind_eq_ok _ _ _).1 h
    obtain rfl := (Prod.mk.inj ((pure_eq_ok _ _).1 h₂)).1.symm
    rcases doViewChange_status h₁ with h₃ | h₃
    · exact .inl h₃
    · exact .inr (by simp [hb, h₃, Body.canSetStatus])
  · obtain rfl := (Prod.mk.inj ((pure_eq_ok _ _).1 h)).1.symm
    exact .inr (by simp [hb, startView, resetVcstate, ReplicaState.extendLease,
      Body.canSetStatus])

end Replica

/-- What changes a replica's status in one step: its lease timer, which puts it into
`ViewChange`, or a message it takes, of a kind that can leave it in the new status. -/
theorem status_change_cause {w w' : World α} {a : Action α} (h : w.exec a = some w')
    (i : ReplicaId) (hs : (w'.replicas i).rstate.status ≠ (w.replicas i).rstate.status) :
    (a = .replicaTimeout i ∧ (w'.replicas i).rstate.status = .viewChange) ∨
      ∃ k m, a = .deliver k ∧ w.msgs[k]? = some m ∧ m.dst = i ∧
        m.body.canSetStatus (w'.replicas i).rstate.status := by
  rcases World.exec_cases h with ⟨hr, -⟩ | ⟨j, r, sent, hr, -, hj⟩
  · exact absurd (by rw [hr]) hs
  rw [hr] at hs ⊢
  by_cases hij : i = j
  · subst hij
    rw [Function.update_same] at hs ⊢
    rcases hj with ⟨k, m, g, rfl, hk, rfl, h₁⟩ | ⟨rfl, rfl, -⟩ | ⟨-, rfl, -⟩ | ⟨c, -, h₁⟩ |
      ⟨k, dst, m, -, h₁, -⟩
    · exact .inr ⟨k, m, rfl, hk, rfl, (Replica.receive_status h₁).resolve_left hs⟩
    · exact .inl ⟨rfl, rfl⟩
    · exact absurd rfl hs
    · exact absurd (Replica.runVR_status h₁) hs
    · obtain ⟨_, -, -, rfl, -⟩ := Replica.sendStartView_eq_some h₁
      exact absurd rfl hs
  · exact absurd (by rw [Function.update_noteq hij]) hs

theorem status_change_cause_replicaTimeout :
    ∃ w', (World.init noSkew noSkew_le : World Nat).exec (.replicaTimeout 0) = some w' ∧
      (w'.replicas 0).rstate.status ≠
        ((World.init noSkew noSkew_le : World Nat).replicas 0).rstate.status ∧
      (((.replicaTimeout 0 : Action Nat) = .replicaTimeout 0 ∧
          (w'.replicas 0).rstate.status = .viewChange) ∨
        ∃ k m, (.replicaTimeout 0 : Action Nat) = .deliver k ∧
          (World.init noSkew noSkew_le : World Nat).msgs[k]? = some m ∧ m.dst = 0 ∧
          m.body.canSetStatus (w'.replicas 0).rstate.status) :=
  ⟨_, rfl, by decide,
    status_change_cause (w := World.init noSkew noSkew_le) (a := .replicaTimeout 0) rfl 0
      (by decide)⟩

/-- Replica 0 times out of view 0 at its deadline; replica 1 takes its `StartViewChange`, and
replica 0 replica 1's, so replica 0 sends replica 1 the `DoViewChange` that makes it master of
view 1; its `StartView` goroutine calls replicas 0 and 2; replica 1's first `Prepare` reaches
replica 2, still in view 0, which starts a recovery. -/
def recoveryRun : List (Action Nat) :=
  [.tick 900, .masterNeedsRenewal 0, .tick 900, .replicaTimeout 0, .deliver 2, .deliver 4,
    .deliver 6, .sendStartView 1 0 0, .sendStartView 1 0 2, .runVR 1 7, .deliver 10]

/-- Replica 2, recovering, enters `ViewChange` by taking replica 0's `StartViewChange` for view
1, and then sends replica 1 a `DoViewChange` from its log without op 1; it enters `ViewChange`
as well when its lease timer fires at 2000. -/
theorem recovering_enters_viewChange :
    ∃ w w₁ w₂, (World.init noSkew noSkew_le).timedRun recoveryRun = some w ∧ TimedReachable w ∧
      (w.replicas 2).rstate.status = .recovery ∧ (w.replicas 1).rstate.opNumber = 1 ∧
      w.exec (.deliver 3) = some w₁ ∧ (w₁.replicas 2).rstate.status = .viewChange ∧
      w₁.msgs[13]? =
        some ⟨2, 1, .doViewChange { view := 1, replicaNumber := 2, log := some Log.emptyLog }⟩ ∧
      w.timedRun [.tick 200, .replicaTimeout 2] = some w₂ ∧
      (w₂.replicas 2).rstate.status = .viewChange :=
  ⟨_, _, _, rfl, @TimedReachable.timedRun _ _ _ recoveryRun (.init noSkew noSkew_le) rfl, rfl,
    rfl, rfl, rfl, rfl, rfl, rfl⟩

/-- `viewOneElectionRun`, after which replica 1 is the `Normal` master of view 1; replica 2
times out at 2000, replica 1 renews at 2700, and at 3600 replica 1's own lease runs out. -/
def masterTimeoutRun : List (Action Nat) :=
  viewOneElectionRun ++ [.tick 200, .replicaTimeout 2, .tick 700, .masterNeedsRenewal 1,
    .tick 900, .replicaTimeout 1]

/-- Replica 1, `Normal` in view 1 after `viewOneElectionRun`, enters `ViewChange` at the end
of `masterTimeoutRun` with `NormalView` still `0`. -/
theorem normalView_stale_after_timeout :
    ∃ w w', (World.init noSkew noSkew_le : World Nat).timedRun viewOneElectionRun = some w ∧
      (w.replicas 1).rstate.status = .normal ∧ (w.replicas 1).rstate.view = 1 ∧
      (World.init noSkew noSkew_le).timedRun masterTimeoutRun = some w' ∧ TimedReachable w' ∧
      (w'.replicas 1).rstate.status = .viewChange ∧ (w'.replicas 1).vcstate.normalView = 0 :=
  ⟨_, _, rfl, rfl, rfl, rfl,
    @TimedReachable.timedRun _ _ _ masterTimeoutRun (.init noSkew noSkew_le) rfl, rfl, rfl⟩

/-- The view changes to view `v` that replica `i` has completed: each started one `StartView`
goroutine for `v`, and the replica keeps its goroutines. -/
def World.completions (w : World α) (i : ReplicaId) (v : Nat) : Nat :=
  (w.replicas i).startViewCalls.countP (·.view == v)

/-- After `leaseOverlapRun` replica 1 has completed the view change to view 1 once. Replica 2's
`StartView` goroutine for view 2 calls replica 1, which takes the message: that resets its
counters but leaves it in view 1. Replica 1 then takes replica 2's old `DoViewChange` for view 1
once more, and completes the view change to view 1 a second time. -/
theorem doViewChange_completes_twice :
    ∃ w w', (World.init noSkew noSkew_le : World Nat).timedRun leaseOverlapRun = some w ∧
      TimedReachable w ∧ w.completions 1 1 = 1 ∧
      w.timedRun [.sendStartView 2 0 1, .deliver 16, .deliver 8] = some w' ∧
      w'.completions 1 1 = 2 :=
  ⟨_, _, rfl, @TimedReachable.timedRun _ _ _ leaseOverlapRun (.init noSkew noSkew_le) rfl, rfl,
    rfl, rfl⟩

end GoPhat
