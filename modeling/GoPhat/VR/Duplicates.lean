import GoPhat.VR.Quorum
import GoPhat.VR.Install

/-!
# Messages delivered twice

The group's network keeps every message it carries, so it may hand one over again. Delivered
twice in a row, a message changes its destination only once: the second delivery leaves every
replica as the first left it, and adds only copies of messages and grants already there. Each
handler has its own reason. `StartViewChange` and `DoViewChange` mark their sender in
`StartViewReplies` and `DoViewReplies` and return at once on a marked one; `Prepare` then
finds its op number old; `Commit` and `StartView` write values of the message and the clock
(the `StartView` goroutines the first one detached from `Phatlog` keep the log they read then);
a recovering replica answers every `Prepare` with an error. `PrepareReply` and `HeartbeatReply`
reach `Heartbeat`, which fails or is not reached. Only in a row: `StartView` clears the marks
(`resetVcstate`), and a copy that arrives after it is counted again.
-/

namespace GoPhat

variable {α : Type}

namespace Replica

/-- A replica in `Recovery` status answers every `Prepare` with an error and stays as it is. -/
theorem prepare_prepareRecovery (r : Replica α) (now : Int) (args : PrepareArgs α) :
    ∃ e, r.prepareRecovery.prepare now args = .ok (r.prepareRecovery, .error e) := by
  rw [prepare]
  by_cases h₁ : args.view > r.prepareRecovery.rstate.view
  · rw [if_pos h₁]; exact ⟨_, rfl⟩
  rw [if_neg h₁]
  by_cases h₂ : args.view < r.prepareRecovery.rstate.view
  · rw [if_pos h₂]; exact ⟨_, rfl⟩
  rw [if_neg h₂, if_pos (by simp [prepareRecovery])]
  exact ⟨_, rfl⟩

/-- A `Prepare` taken again at once leaves the replica as the first one did, answering as
before or with an error. -/
theorem prepare_again {r r' : Replica α} {now : Int} {args : PrepareArgs α} {res}
    (h : r.prepare now args = .ok (r', res)) (hc : args.commitNumber = 0) :
    ∃ res', r'.prepare now args = .ok (r', res') ∧ (res' = res ∨ ∃ e, res' = .error e) := by
  rcases prepare_eq_ok h with rfl | rfl | ⟨r₁, hn, hv, ho, ha, hd⟩
  · exact ⟨res, h, .inl rfl⟩
  · obtain ⟨e, he⟩ := prepare_prepareRecovery r now args
    exact ⟨_, he, .inr ⟨e, rfl⟩⟩
  · rw [hc, doCommit_zero, Except.ok.injEq] at hd
    subst hd
    obtain ⟨l, -, rfl⟩ := addLog_eq_ok ha
    refine ⟨.error "old op number", ?_, .inr ⟨_, rfl⟩⟩
    rw [prepare, if_neg (by simp [ReplicaState.extendLease]; omega),
      if_neg (by simp [ReplicaState.extendLease]; omega), if_neg (by simpa using hn),
      if_pos (by simp [ReplicaState.extendLease]; omega)]
    rfl

/-- A `Commit` taken again at once gives the same answer and leaves the replica as it is. -/
theorem commit_again {r r' : Replica α} {now : Int} {args : CommitArgs} {res}
    (h : r.commit now args = .ok (r', res)) (hc : args.commitNumber = 0) :
    r'.commit now args = .ok (r', res) := by
  rw [commit] at h
  by_cases h₁ : args.view > r.rstate.view
  · rw [if_pos h₁] at h
    obtain ⟨rfl, rfl⟩ := Prod.mk.inj ((pure_eq_ok _ _).1 h).symm
    rw [commit, if_pos (show args.view > r.prepareRecovery.rstate.view from h₁)]; rfl
  by_cases h₂ : args.view < r.rstate.view
  · rw [if_neg h₁, if_pos h₂] at h
    obtain ⟨rfl, rfl⟩ := Prod.mk.inj ((pure_eq_ok _ _).1 h).symm
    rw [commit, if_neg h₁, if_pos h₂]; rfl
  simp only [if_neg h₁, if_neg h₂, hc, doCommit_zero, except_ok_bind] at h
  obtain ⟨rfl, rfl⟩ := Prod.mk.inj ((pure_eq_ok _ _).1 h).symm
  simp only [commit, ReplicaState.extendLease, if_neg h₁, if_neg h₂, hc, doCommit_zero,
    except_ok_bind]
  rfl

/-- `StartViewChange` taken again at once changes nothing and sends nothing: the first one
left the view at least the message's and marked its sender. -/
theorem startViewChange_again (r : Replica α) (args : StartViewChangeArgs) :
    (r.startViewChange args).1.startViewChange args = ((r.startViewChange args).1, []) := by
  have stop : ∀ r₁ : Replica α, r₁.rstate.view > args.view ∨
      replied r₁.vcstate.startViewReplies args.replicaNumber →
      r₁.startViewChange args = (r₁, []) := by
    rintro r₁ (h | h) <;> simp [startViewChange, h]
  apply stop
  rw [startViewChange]
  by_cases h₁ : r.rstate.view > args.view
  · rw [if_pos h₁]; exact .inl h₁
  by_cases h₂ : replied r.vcstate.startViewReplies args.replicaNumber
  · rw [if_neg h₁, if_pos h₂]; exact .inr h₂
  rw [if_neg h₁, if_neg h₂]
  by_cases h₃ : r.rstate.view < args.view <;> simp [h₃, replied_markReplied]

/-- `DoViewChange` taken again at once changes nothing and sends nothing: its sender is marked,
also once the view change is complete. -/
theorem doViewChange_again {r r' : Replica α} {now : Int} {args : DoViewChangeArgs α}
    (h : r.doViewChange now args = .ok r') : r'.doViewChange now args = .ok r' := by
  have stop : ∀ r₁ : Replica α, replied r₁.vcstate.doViewReplies args.replicaNumber →
      r₁.doViewChange now args = .ok r₁ := fun r₁ h => by
    rw [doViewChange, if_pos h]; rfl
  apply stop
  rcases doViewChange_eq_ok h with ⟨hr, rfl⟩ | ⟨-, -, rfl⟩ | ⟨-, -, _, hb, rfl⟩
  · exact hr
  · simp [replied_markReplied]
  · obtain ⟨-, rfl⟩ := becomeMaster_eq_ok.1 hb
    simp [spawnStartView, calcMasterView, replied_markReplied]

/-- `StartView` sets every field it writes to a value of the message or of the clock, and the
goroutines it detached from the old log stay detached. -/
theorem startView_again (r : Replica α) (now : Int) (args : StartViewArgs α) :
    (r.startView now args).startView now args = r.startView now args := by
  simp only [startView, setPhatlog, resetVcstate, List.map_map]
  rfl

/-- A message delivered again at once, with the `Heartbeats` map nil and commit number `0`,
leaves its destination as the first delivery did, and sends and grants only what the first
did. -/
theorem receive_again {r r' : Replica α} {now : Int} {m : Msg α} {sent g}
    (hh : r.mstate.heartbeats = none) (hc : m.body.commitNumber = 0)
    (h : r.receive now m = .ok (r', sent, g)) :
    ∃ sent' g', r'.receive now m = .ok (r', sent', g') ∧ sent' ⊆ sent ∧
      (g' = g ∨ g' = none) := by
  obtain ⟨src, dst, body⟩ := m
  cases body with
  | prepare args =>
    obtain ⟨⟨r₁, res⟩, hp, h⟩ := (except_bind_eq_ok _ _ _).1 h
    have e : r₁ = r' := by cases res <;> exact (Prod.mk.inj ((pure_eq_ok _ _).1 h)).1
    subst e
    obtain ⟨res', hp', rfl | ⟨e, rfl⟩⟩ := prepare_again hp hc
    · exact ⟨sent, g, by simp only [receive, hp', except_ok_bind]; exact h, List.Subset.refl _,
        .inl rfl⟩
    · exact ⟨[], none, by simp only [receive, hp', except_ok_bind]; rfl, List.nil_subset _,
        .inr rfl⟩
  | prepareReply reply =>
    obtain ⟨⟨r₁, sent₁, b⟩, hp, h₁⟩ := (except_bind_eq_ok _ _ _).1 h
    obtain ⟨rfl, -⟩ := Prod.mk.inj_iff.1 (handlePrepareOK_nil hh hp)
    obtain ⟨rfl, -⟩ := Prod.mk.inj_iff.1 ((pure_eq_ok _ _).1 h₁)
    exact ⟨sent, g, h, List.Subset.refl _, .inl rfl⟩
  | commit args =>
    obtain ⟨⟨r₁, res⟩, hp, h'⟩ := (except_bind_eq_ok _ _ _).1 h
    have e : r₁ = r' := by cases res <;> exact (Prod.mk.inj ((pure_eq_ok _ _).1 h')).1
    subst e
    exact ⟨sent, g, by simp only [receive, commit_again hp hc, except_ok_bind]; exact h',
      List.Subset.refl _, .inl rfl⟩
  | heartbeatReply reply =>
    simp only [receive, heartbeat_nil hh] at h
    cases h
  | startViewChange args =>
    obtain ⟨rfl, rfl, rfl⟩ := Prod.mk.inj_iff.1 ((pure_eq_ok _ _).1 h).symm
    exact ⟨[], none, by simp only [receive, startViewChange_again]; rfl, List.nil_subset _,
      .inr rfl⟩
  | doViewChange args =>
    obtain ⟨r₁, hp, h⟩ := (except_bind_eq_ok _ _ _).1 h
    obtain ⟨rfl, rfl, rfl⟩ := Prod.mk.inj_iff.1 ((pure_eq_ok _ _).1 h).symm
    exact ⟨[], none, by simp only [receive, doViewChange_again hp, except_ok_bind]; rfl,
      List.nil_subset _, .inr rfl⟩
  | startView args =>
    obtain ⟨rfl, rfl, rfl⟩ := Prod.mk.inj_iff.1 ((pure_eq_ok _ _).1 h).symm
    exact ⟨[], none, by simp only [receive, startView_again]; rfl, List.nil_subset _, .inr rfl⟩

end Replica

namespace World

/-- In every reachable world, a message delivered twice in a row changes its destination only
once: either the first delivery ended the destination's process, so the second is not
enabled, or the second leaves every replica and every clock as they are and adds only copies of
messages and grants already in the world. -/
theorem reachable_deliver_again {w w₁ : World α} (h : Reachable w) {k : Nat} {m : Msg α}
    (hk : w.msgs[k]? = some m) (h₁ : w.exec (.deliver k) = some w₁) :
    (w₁ = w.halt m.dst ∧ w₁.exec (.deliver k) = none) ∨
      ∃ sent gs, w₁.exec (.deliver k) =
          some { w₁ with msgs := w₁.msgs ++ sent, grants := w₁.grants ++ gs } ∧
        sent ⊆ w₁.msgs ∧ gs ⊆ w₁.grants := by
  have hu := reachable_uncommitted h
  simp only [World.exec, hk] at h₁
  split_ifs at h₁ with ha
  split at h₁ <;> rename_i hr <;> obtain rfl := Option.some.inj h₁.symm
  · rename_i r' sent g
    obtain ⟨sent', g', hr', hs, hg⟩ :=
      Replica.receive_again (hu.replicas m.dst).heartbeats (hu.msgs m (List.getElem?_mem hk)) hr
    right
    refine ⟨sent', g'.toList.map (m.dst, ·), ?_, ?_, ?_⟩
    · have hk' : (w.msgs ++ sent)[k]? = some m := by
        rw [List.getElem?_append_left (List.getElem?_eq_some_iff.1 hk).1]; exact hk
      have hr₁ : Function.update w.replicas m.dst r' m.dst = r' := Function.update_same _ _ _
      simp only [World.exec, World.update, World.clock, hk', ha, if_true, hr₁] at hr' ⊢
      rw [hr']
      simp only [Function.update_idem]
    · exact hs.trans (List.subset_append_right _ _)
    · rcases hg with rfl | rfl
      · exact List.subset_append_right _ _
      · exact List.nil_subset _
  · left
    refine ⟨rfl, ?_⟩
    simp [World.exec, World.halt, hk]

/-- After the first six actions of `viewOneElectionRun`, message `8` is replica 2's
`DoViewChange` to replica 1, whose first delivery completes the view change. -/
theorem reachable_deliver_again_viewOne :
    ∃ w w₁ m, (World.init noSkew noSkew_le : World Nat).run (viewOneElectionRun.take 6) =
        some w ∧ w.msgs[8]? = some m ∧ w.exec (.deliver 8) = some w₁ ∧
      ((w₁ = w.halt m.dst ∧ w₁.exec (.deliver 8) = none) ∨
        ∃ sent gs, w₁.exec (.deliver 8) =
            some { w₁ with msgs := w₁.msgs ++ sent, grants := w₁.grants ++ gs } ∧
          sent ⊆ w₁.msgs ∧ gs ⊆ w₁.grants) := by
  refine ⟨_, _, _, rfl, rfl, rfl, ?_⟩
  exact reachable_deliver_again
    (@Reachable.run Nat _ _ (viewOneElectionRun.take 6) (.init noSkew noSkew_le) rfl) rfl rfl

end World

end GoPhat
