import GoPhat.VR.Group

/-!
# No command is ever committed

`handlePrepareOK` calls `Heartbeat` before it looks at the op number, and `Heartbeat` writes
to `Mstate.Heartbeats`, a map nothing ever makes: the write panics, so a master's process ends
at the first `PrepareReply` of its own view, before `doCommit`. Every commit number a replica
or a message holds then stays `0`, and `CommitFunc` is never called. This is an inductive
invariant of the whole step relation (`World.reachable_uncommitted`), `StartView` goroutines
included, and the results on applied histories (`history_prefix_agreement`,
`history_eq_committedPrefix`, `commit_only_in_normal`) follow from it.
-/

namespace GoPhat

variable {α : Type}

/-- The commit number a message carries, `0` for those that carry none. -/
def Body.commitNumber : Body α → Nat
  | .prepare args => args.commitNumber
  | .commit args => args.commitNumber
  | .doViewChange args => args.commitNumber
  | .startView args => args.commitNumber
  | _ => 0

theorem scanSlot_maxCommit (me : ReplicaId) (msgs : ReplicaId → DoViewChangeArgs α)
    (s : MasterViewScan) (i : ReplicaId) :
    (scanSlot me msgs s i).maxCommit = s.maxCommit ∨
      (scanSlot me msgs s i).maxCommit = (msgs i).commitNumber := by
  unfold scanSlot
  dsimp only
  split_ifs <;> first | exact .inl rfl | exact .inr rfl

theorem foldl_scanSlot_maxCommit_le (me : ReplicaId) (msgs : ReplicaId → DoViewChangeArgs α)
    {b : Nat} (hb : ∀ i, (msgs i).commitNumber ≤ b) (l : List ReplicaId) {s : MasterViewScan}
    (hs : s.maxCommit ≤ b) :
    (l.foldl (scanSlot me msgs) s).maxCommit ≤ b := by
  induction l generalizing s with
  | nil => exact hs
  | cons i l ih =>
    apply ih
    rcases scanSlot_maxCommit me msgs s i with h | h <;> rw [h]
    exacts [hs, hb i]

namespace Replica

/-- Nothing has been passed to `CommitFunc`, no commit number other than `0` is held, by the
replica, its slots or its `StartView` goroutines, and the `Heartbeats` map is still nil. -/
structure Uncommitted (r : Replica α) : Prop where
  commitNumber : r.rstate.commitNumber = 0
  history : r.history = []
  heartbeats : r.mstate.heartbeats = none
  slots : ∀ i, (r.vcstate.doViewChangeMsgs i).commitNumber = 0
  calls : ∀ c ∈ r.startViewCalls, c.commitNumber = 0

@[simp] theorem doCommit_zero (r : Replica α) : r.doCommit 0 = .ok r := rfl

theorem addLog_eq_ok {r r' : Replica α} {c : α} (h : r.addLog c = .ok r') :
    ∃ l, r.phatlog = some l ∧ r' = { r with phatlog := some (l.add r.rstate.opNumber c) } := by
  unfold addLog at h
  split at h
  · simp at h
  · exact ⟨_, ‹_›, ((pure_eq_ok _ _).1 h).symm⟩

theorem heartbeat_nil {r : Replica α} (h : r.mstate.heartbeats = none) (now : Int)
    (replica : ReplicaId) (newTime : Int) :
    r.heartbeat now replica newTime =
      .error (if r.isMaster then .nilMapWrite else .assertFailed .heartbeatIsMaster) := by
  unfold heartbeat
  cases hm : r.isMaster <;> simp [assert, hm, h, bind, Except.bind, throw, throwThe,
    MonadExceptOf.throw, pure, Except.pure]

theorem handlePrepareOK_nil {r : Replica α} (h : r.mstate.heartbeats = none) {now : Int}
    {reply : PrepareReply} {res} (hok : r.handlePrepareOK now reply = .ok res) :
    res = (r, [], false) := by
  unfold handlePrepareOK at hok
  split at hok
  · exact ((pure_eq_ok _ _).1 hok).symm
  · simp [heartbeat_nil h] at hok

theorem addLog_uncommitted {r r' : Replica α} {c : α} (hr : r.Uncommitted)
    (h : r.addLog c = .ok r') : r'.Uncommitted := by
  obtain ⟨l, -, rfl⟩ := addLog_eq_ok h
  exact ⟨hr.1, hr.2, hr.3, hr.4, hr.5⟩

theorem prepare_uncommitted {r r' : Replica α} {now : Int} {args : PrepareArgs α} {res}
    (hr : r.Uncommitted) (ha : args.commitNumber = 0) (h : r.prepare now args = .ok (r', res)) :
    r'.Uncommitted := by
  rcases prepare_eq_ok h with rfl | rfl | ⟨r₁, -, -, -, h₁, h₂⟩
  · exact hr
  · exact ⟨hr.1, hr.2, hr.3, hr.4, hr.5⟩
  · rw [ha, doCommit_zero, Except.ok.injEq] at h₂
    exact h₂ ▸ addLog_uncommitted (by exact ⟨hr.1, hr.2, hr.3, hr.4, hr.5⟩) h₁

theorem commit_uncommitted {r r' : Replica α} {now : Int} {args : CommitArgs} {res}
    (hr : r.Uncommitted) (ha : args.commitNumber = 0) (h : r.commit now args = .ok (r', res)) :
    r'.Uncommitted := by
  rcases commit_eq_ok h with rfl | rfl | ⟨-, h₁⟩
  · exact hr
  · exact ⟨hr.1, hr.2, hr.3, hr.4, hr.5⟩
  · rw [ha, doCommit_zero, Except.ok.injEq] at h₁
    exact h₁ ▸ ⟨hr.1, hr.2, hr.3, hr.4, hr.5⟩

theorem becomeMaster_uncommitted {r r' : Replica α} {now : Int} (hr : r.Uncommitted)
    (h : r.becomeMaster now = .ok r') : r'.Uncommitted := by
  obtain ⟨-, rfl⟩ := becomeMaster_eq_ok.1 h
  exact ⟨hr.1, hr.2, hr.3, hr.4, hr.5⟩

theorem runVR_uncommitted {r r' : Replica α} {c : α} {sent} (hr : r.Uncommitted)
    (h : r.runVR c = .ok (r', sent)) :
    r'.Uncommitted ∧ ∀ m ∈ sent, m.body.commitNumber = 0 := by
  simp only [runVR, except_bind_eq_ok, pure_eq_ok, Prod.mk.injEq] at h
  obtain ⟨_, -, _, -, r₁, h₁, rfl, rfl⟩ := h
  have h₁' := addLog_uncommitted (by exact ⟨hr.1, hr.2, hr.3, hr.4, hr.5⟩) h₁
  refine ⟨h₁', ?_⟩
  simp [broadcast, Body.commitNumber, h₁'.1]

theorem sendCommitMsgs_commitNumber {r : Replica α} (hr : r.Uncommitted) :
    ∀ m ∈ r.sendCommitMsgs, m.body.commitNumber = 0 := by
  simp [sendCommitMsgs, broadcast, Body.commitNumber, hr.1]

theorem replicaTimeout_uncommitted {r : Replica α} {now : Int} (hr : r.Uncommitted) :
    (r.replicaTimeout now).1.Uncommitted ∧
      ∀ m ∈ (r.replicaTimeout now).2, m.body.commitNumber = 0 := by
  refine ⟨⟨hr.1, hr.2, hr.3, hr.4, hr.5⟩, ?_⟩
  simp [replicaTimeout, prepareViewChange, broadcast, Body.commitNumber]

theorem startViewChange_frame (r : Replica α) (args : StartViewChangeArgs) :
    (r.startViewChange args).1.rstate.commitNumber = r.rstate.commitNumber ∧
    (r.startViewChange args).1.history = r.history ∧
    (r.startViewChange args).1.mstate = r.mstate ∧
    (r.startViewChange args).1.vcstate.doViewChangeMsgs = r.vcstate.doViewChangeMsgs ∧
    (r.startViewChange args).1.startViewCalls = r.startViewCalls := by
  rw [startViewChange]
  by_cases h₁ : r.rstate.view > args.view
  · simp [h₁]
  by_cases h₂ : replied r.vcstate.startViewReplies args.replicaNumber
  · simp [h₁, h₂]
  rw [if_neg h₁, if_neg h₂]
  by_cases h₃ : r.rstate.view < args.view <;> simp [h₃]

theorem startViewChange_sent_commitNumber_le (r : Replica α) (args : StartViewChangeArgs) :
    ∀ m ∈ (r.startViewChange args).2, m.body.commitNumber ≤ r.rstate.commitNumber := by
  have toMaster : ∀ (c : Prop) [Decidable c] (m : Msg α),
      (∀ m' ∈ (if c then [m] else []), m'.body.commitNumber ≤ r.rstate.commitNumber) ↔
        (c → m.body.commitNumber ≤ r.rstate.commitNumber) := by
    intro c _ m; split <;> simp [*]
  rw [startViewChange]
  by_cases h₁ : r.rstate.view > args.view
  · rw [if_pos h₁]; exact fun _ h => absurd h (List.not_mem_nil _)
  by_cases h₂ : replied r.vcstate.startViewReplies args.replicaNumber
  · rw [if_neg h₁, if_pos h₂]; exact fun _ h => absurd h (List.not_mem_nil _)
  rw [if_neg h₁, if_neg h₂]
  by_cases h₃ : r.rstate.view < args.view
  · simp only [if_pos h₃]
    refine List.forall_mem_append.2 ⟨forall_mem_broadcast.2 fun _ _ => Nat.zero_le _, ?_⟩
    exact (toMaster _ _).2 fun _ => le_rfl
  · simp only [if_neg h₃, List.nil_append]
    exact (toMaster _ _).2 fun _ => le_rfl

theorem startViewChange_uncommitted {r : Replica α} {args : StartViewChangeArgs}
    (hr : r.Uncommitted) : (r.startViewChange args).1.Uncommitted ∧
      ∀ m ∈ (r.startViewChange args).2, m.body.commitNumber = 0 := by
  obtain ⟨h₁, h₂, h₃, h₄, h₅⟩ := startViewChange_frame r args
  refine ⟨⟨h₁.trans hr.1, h₂.trans hr.2, h₃ ▸ hr.3, h₄ ▸ hr.4, h₅ ▸ hr.5⟩, fun m hm => ?_⟩
  have := startViewChange_sent_commitNumber_le r args m hm
  have := hr.1
  omega

theorem calcMasterView_commitNumber_le {r : Replica α} {b : Nat}
    (hb : ∀ i, (r.vcstate.doViewChangeMsgs i).commitNumber ≤ b) :
    r.calcMasterView.rstate.commitNumber ≤ b :=
  foldl_scanSlot_maxCommit_le _ _ hb _ (Nat.zero_le b)

theorem Uncommitted.spawnStartView {r : Replica α} (hr : r.Uncommitted) :
    r.spawnStartView.Uncommitted := by
  refine ⟨hr.1, hr.2, hr.3, hr.4, fun c hc => ?_⟩
  rcases List.mem_append.1 hc with hc | hc
  · exact hr.5 c hc
  · rw [List.mem_singleton.1 hc]
    exact hr.1

theorem doViewChange_uncommitted {r r' : Replica α} {now : Int} {args : DoViewChangeArgs α}
    (hr : r.Uncommitted) (ha : args.commitNumber = 0) (h : r.doViewChange now args = .ok r') :
    r'.Uncommitted := by
  have hslots : ∀ i,
      (Function.update r.vcstate.doViewChangeMsgs args.replicaNumber args i).commitNumber = 0 := by
    intro i
    by_cases hi : i = args.replicaNumber
    · subst hi; simpa using ha
    · simpa [hi] using hr.4 i
  rcases doViewChange_eq_ok h with ⟨-, rfl⟩ | ⟨-, -, rfl⟩ | ⟨-, -, r₂, h₁, rfl⟩
  · exact hr
  · exact ⟨hr.1, hr.2, hr.3, hslots, hr.5⟩
  · exact (becomeMaster_uncommitted (by exact ⟨Nat.le_zero.1 (calcMasterView_commitNumber_le
      fun i => (hslots i).le), hr.2, hr.3, hslots, fun c hc =>
        have ⟨c₀, h₀, _, _, e, _⟩ := mem_calcMasterView hc
        e.trans (hr.5 c₀ h₀)⟩) h₁).spawnStartView

theorem startView_uncommitted {r : Replica α} {now : Int} {args : StartViewArgs α}
    (hr : r.Uncommitted) (ha : args.commitNumber = 0) : (r.startView now args).Uncommitted :=
  ⟨ha, hr.2, hr.3, fun _ => rfl, fun _ hc =>
    have ⟨c₀, h₀, _, _, e, _⟩ := @mem_setPhatlog _ r args.log _ hc
    e.trans (hr.5 c₀ h₀)⟩

/-- A call of a `StartView` goroutine sends the commit number the goroutine holds. -/
theorem sendStartView_uncommitted {r r' : Replica α} {k : Nat} {dst : ReplicaId} {m : Msg α}
    (hr : r.Uncommitted) (h : r.sendStartView k dst = some (r', m)) :
    r'.Uncommitted ∧ m.body.commitNumber = 0 := by
  obtain ⟨c, hc, -, rfl, rfl⟩ := sendStartView_eq_some h
  refine ⟨⟨hr.1, hr.2, hr.3, hr.4, fun c' hc' => ?_⟩, hr.5 c hc⟩
  rcases mem_set_tried hc' with hc' | rfl
  exacts [hr.5 c' hc', hr.5 c hc]

theorem receive_uncommitted {r r' : Replica α} {now : Int} {m : Msg α} {sent g}
    (hr : r.Uncommitted) (hm : m.body.commitNumber = 0) (h : r.receive now m = .ok (r', sent, g)) :
    r'.Uncommitted ∧ ∀ m ∈ sent, m.body.commitNumber = 0 := by
  unfold receive at h
  split at h <;> rename_i hb <;> simp only [hb, Body.commitNumber] at hm
  · simp only [except_bind_eq_ok] at h
    obtain ⟨⟨r₁, res⟩, h₁, h₂⟩ := h
    have := prepare_uncommitted hr hm h₁
    split at h₂ <;> obtain ⟨rfl, rfl, -⟩ := Prod.mk.inj ((pure_eq_ok _ _).1 h₂).symm <;>
      simp [this, Body.commitNumber]
  · simp only [except_bind_eq_ok] at h
    obtain ⟨⟨r₁, sent₁, b⟩, h₁, h₂⟩ := h
    obtain ⟨rfl, rfl, -⟩ := handlePrepareOK_nil hr.3 h₁
    obtain ⟨rfl, rfl, -⟩ := Prod.mk.inj ((pure_eq_ok _ _).1 h₂).symm
    exact ⟨hr, by simp⟩
  · simp only [except_bind_eq_ok] at h
    obtain ⟨⟨r₁, res⟩, h₁, h₂⟩ := h
    have := commit_uncommitted hr hm h₁
    split at h₂ <;> obtain ⟨rfl, rfl, -⟩ := Prod.mk.inj ((pure_eq_ok _ _).1 h₂).symm <;>
      simp [this, Body.commitNumber]
  · simp [heartbeat_nil hr.3] at h
  · obtain ⟨rfl, rfl, -⟩ := Prod.mk.inj ((pure_eq_ok _ _).1 h).symm
    exact startViewChange_uncommitted hr
  · simp only [except_bind_eq_ok] at h
    obtain ⟨r₁, h₁, h₂⟩ := h
    obtain ⟨rfl, rfl, -⟩ := Prod.mk.inj ((pure_eq_ok _ _).1 h₂).symm
    exact ⟨doViewChange_uncommitted hr hm h₁, by simp⟩
  · obtain ⟨rfl, rfl, -⟩ := Prod.mk.inj ((pure_eq_ok _ _).1 h).symm
    exact ⟨startView_uncommitted hr hm, by simp⟩

theorem replicaInit_uncommitted (i : ReplicaId) (now : Int) :
    (replicaInit i now : Replica α).Uncommitted :=
  ⟨rfl, rfl, rfl, fun _ => rfl, fun _ h => nomatch h⟩

theorem runAsReplica_uncommitted (i : ReplicaId) (now : Int) :
    (runAsReplica i now : Replica α).Uncommitted := by
  unfold runAsReplica
  dsimp only
  split_ifs
  · split
    · exact becomeMaster_uncommitted (replicaInit_uncommitted i now) ‹_›
    · exact replicaInit_uncommitted i now
  · exact replicaInit_uncommitted i now

end Replica

namespace World

/-- No replica has passed a command to `CommitFunc` or holds a commit number other than `0`,
every `Heartbeats` map is still nil, and no message in flight carries a commit number. -/
structure Uncommitted (w : World α) : Prop where
  replicas : ∀ i, (w.replicas i).Uncommitted
  msgs : ∀ m ∈ w.msgs, m.body.commitNumber = 0

theorem init_uncommitted (skew : ReplicaId → Int) (h) : (init skew h : World α).Uncommitted :=
  ⟨fun i => Replica.runAsReplica_uncommitted i _, by simp [init]⟩

theorem Uncommitted.exec {w w' : World α} {a : Action α} (hw : w.Uncommitted)
    (h : w.exec a = some w') : w'.Uncommitted :=
  have ⟨h₁, h₂⟩ := exec_preserves (fun _ r => r.Uncommitted) (·.body.commitNumber = 0)
    ⟨hw.1, hw.2⟩ h
    (fun m hm _ _ _ h₁ => Replica.receive_uncommitted (hw.1 _) (hw.2 m hm) h₁)
    (fun i => have ⟨h₁, h₂, h₃, h₄, h₅⟩ := hw.1 i
      Replica.replicaTimeout_uncommitted ⟨h₁, h₂, h₃, h₄, h₅⟩)
    (fun i => have ⟨h₁, h₂, h₃, h₄, h₅⟩ := hw.1 i
      ⟨⟨h₁, h₂, h₃, h₄, h₅⟩, Replica.sendCommitMsgs_commitNumber ⟨h₁, h₂, h₃, h₄, h₅⟩⟩)
    (fun i _ _ _ h₁ => Replica.runVR_uncommitted (hw.1 i) h₁)
    (fun i _ _ _ _ h₁ => Replica.sendStartView_uncommitted (hw.1 i) h₁)
  ⟨h₁, h₂⟩

theorem reachable_uncommitted {w : World α} (h : Reachable w) : w.Uncommitted := by
  induction h with
  | init skew h => exact init_uncommitted skew h
  | step a _ hw ih => exact ih.exec hw

end World

theorem Reachable.uncommitted {w : World α} (h : Reachable w) : w.Uncommitted :=
  World.reachable_uncommitted h

theorem history_eq_nil {w : World α} (hw : Reachable w) (r : ReplicaId) :
    (w.replicas r).history = [] :=
  (hw.uncommitted.1 r).2

/-- Two replicas' applied histories agree wherever both are defined: one is a prefix of the
other. -/
theorem history_prefix_agreement {w : World α} (hw : Reachable w) (r s : ReplicaId) :
    (w.replicas r).history <+: (w.replicas s).history ∨
      (w.replicas s).history <+: (w.replicas r).history :=
  .inl (history_eq_nil hw r ▸ List.nil_prefix)

/-- Replica 1 has taken the master's first `Prepare`: both hold the command at op number `1`,
and the reply and the other `Prepare` are in flight. -/
theorem history_prefix_agreement_prepared :
    ∃ w : World Nat, (World.init noSkew noSkew_le).run [.runVR 0 7, .deliver 0] = some w ∧
      Reachable w ∧ (w.replicas 1).rstate.opNumber = 1 ∧
      ((w.replicas 0).history <+: (w.replicas 1).history ∨
        (w.replicas 1).history <+: (w.replicas 0).history) :=
  have hw := @Reachable.run Nat _ _ [.runVR 0 7, .deliver 0] (.init noSkew noSkew_le) rfl
  ⟨_, rfl, hw, rfl, history_prefix_agreement hw 0 1⟩

/-- `Phatlog.GetCommand(1), ..., Phatlog.GetCommand(CommitNumber)` of the current log. -/
def Replica.committedPrefix (r : Replica α) : List (Option α) :=
  (List.range' 1 r.rstate.commitNumber).map fun i => r.phatlog.bind (·.getCommand i)

theorem history_eq_committedPrefix {w : World α} (hw : Reachable w) (r : ReplicaId) :
    (w.replicas r).history = (w.replicas r).committedPrefix ∧
      ∀ a w', w.exec a = some w' →
        (w.replicas r).rstate.commitNumber ≤ (w'.replicas r).rstate.commitNumber := by
  refine ⟨by simp [Replica.committedPrefix, history_eq_nil hw, (hw.uncommitted.1 r).1], ?_⟩
  intro a w' h
  rw [(hw.uncommitted.1 r).1]
  exact Nat.zero_le _

theorem history_eq_committedPrefix_prepared :
    ∃ w : World Nat, (World.init noSkew noSkew_le).run [.runVR 0 7, .deliver 0] = some w ∧
      Reachable w ∧ (w.replicas 1).rstate.opNumber = 1 ∧
      (w.replicas 1).history = (w.replicas 1).committedPrefix ∧
      ∀ a w', w.exec a = some w' →
        (w.replicas 1).rstate.commitNumber ≤ (w'.replicas 1).rstate.commitNumber :=
  have hw := @Reachable.run Nat _ _ [.runVR 0 7, .deliver 0] (.init noSkew noSkew_le) rfl
  ⟨_, rfl, hw, rfl, history_eq_committedPrefix hw 1⟩

/-- After `RunVR(7)` at replica 0 at time 0 the master waits for one acknowledgement of op 1 in
view 0. The first, from replica 1, makes `handlePrepareOK` write to the nil `Heartbeats` map
before it counts the reply; had the map been made, the length `assert` would fail instead.
Either way the process ends and `doCommit` is not called. -/
theorem handlePrepareOK_quorum_panics :
    ∃ w, (World.init noSkew noSkew_le : World Nat).timedRun [.runVR 0 7] = some w ∧
      TimedReachable w ∧
      (w.replicas 0).rstate.opNumber = (w.replicas 0).rstate.commitNumber + 1 ∧
      (w.replicas 0).handlePrepareOK 0 ⟨0, 1, 1, 2000⟩ = .error .nilMapWrite ∧
      { w.replicas 0 with mstate.heartbeats := some [] }.handlePrepareOK 0 ⟨0, 1, 1, 2000⟩ =
        .error (.assertFailed .heartbeatLength) :=
  ⟨_, rfl, @TimedReachable.timedRun _ _ _ [.runVR 0 7] (.init noSkew noSkew_le) rfl, rfl, rfl,
    rfl⟩

end GoPhat
