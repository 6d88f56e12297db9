import GoPhat.VR.Completion

/-!
# Which messages end a replica's process

Delivering a message ends its destination's process when the handler fails: an `assert` that
calls `log.Fatalf`, or a Go runtime panic. In every reachable world exactly three kinds of
message do this. A `HeartbeatReply` always does, and so does a `PrepareReply` of the replica's
own view: both reach `Heartbeat`, which writes to the nil `Heartbeats` map, or fails its
`IsMaster` assert first. A `Prepare` does when the replica takes it while its `Phatlog` is nil,
which `addLog` dereferences. A `Commit` never does, since it carries commit number `0`; nor does
any view-change message, `DoViewChange` included.
-/

namespace GoPhat

variable {α : Type}

theorem exists_bind_eq_error {ε β γ : Type} (x : Except ε β) {f : β → Except ε γ}
    (hf : ∀ b, ∃ c, f b = .ok c) : (∃ e, x >>= f = .error e) ↔ ∃ e, x = .error e := by
  cases x with
  | error e => exact ⟨fun _ => ⟨e, rfl⟩, fun _ => ⟨e, rfl⟩⟩
  | ok b =>
    obtain ⟨c, hc⟩ := hf b
    simp [hc]

namespace Replica

/-- `Prepare` with commit number `0` fails exactly when it takes the next op number of the
replica's view in `Normal` status while the log is nil. -/
theorem prepare_fails_iff (r : Replica α) (now : Int) {args : PrepareArgs α}
    (hc : args.commitNumber = 0) :
    (∃ e, r.prepare now args = .error e) ↔ args.view = r.rstate.view ∧
      r.rstate.status = .normal ∧ args.opNumber = r.rstate.opNumber + 1 ∧ r.phatlog = none := by
  rw [prepare]
  by_cases h₁ : args.view > r.rstate.view
  · rw [if_pos h₁]; exact iff_of_false (by simp) fun h => absurd h.1 (by omega)
  rw [if_neg h₁]
  by_cases h₂ : args.view < r.rstate.view
  · rw [if_pos h₂]; exact iff_of_false (by simp) fun h => absurd h.1 (by omega)
  rw [if_neg h₂]
  by_cases h₃ : r.rstate.status ≠ .normal
  · rw [if_pos h₃]; exact iff_of_false (by simp) fun h => h₃ h.2.1
  rw [if_neg h₃]
  by_cases h₄ : args.opNumber ≤ r.rstate.opNumber
  · rw [if_pos h₄]; exact iff_of_false (by simp) fun h => absurd h.2.2.1 (by omega)
  rw [if_neg h₄]
  by_cases h₅ : args.opNumber > r.rstate.opNumber + 1
  · rw [if_pos h₅]; exact iff_of_false (by simp) fun h => absurd h.2.2.1 (by omega)
  rw [if_neg h₅, hc]
  cases hl : r.phatlog with
  | none =>
    refine iff_of_true ?_ ⟨by omega, not_not.1 h₃, by omega, rfl⟩
    simp only [addLog, hl]
    exact ⟨_, rfl⟩
  | some l =>
    refine iff_of_false ?_ fun h => nomatch h.2.2.2
    simp [addLog, hl]

/-- `PrepareReply` fails, with the `Heartbeats` map nil, exactly when it is of the replica's
view and so reaches `Heartbeat`. -/
theorem handlePrepareOK_fails_iff (r : Replica α) (now : Int) (reply : PrepareReply)
    (hh : r.mstate.heartbeats = none) :
    (∃ e, r.handlePrepareOK now reply = .error e) ↔ reply.view = r.rstate.view := by
  rw [handlePrepareOK]
  by_cases h₁ : reply.view ≠ r.rstate.view
  · rw [if_pos h₁]; exact iff_of_false (by simp) h₁
  rw [if_neg h₁, heartbeat_nil hh]
  exact iff_of_true ⟨_, rfl⟩ (not_not.1 h₁)

/-- `Commit` with commit number `0` never fails. -/
theorem commit_ok (r : Replica α) (now : Int) (args : CommitArgs) (hc : args.commitNumber = 0) :
    ∃ x, r.commit now args = .ok x := by
  rw [commit]
  split_ifs <;> simp [hc]

/-- With the `Heartbeats` map nil, a message carrying commit number `0`, and a `DoViewChange`
that succeeds, a handler fails exactly on a `HeartbeatReply`, a `PrepareReply` of the replica's
view, or a `Prepare` it takes while its log is nil. -/
theorem receive_fails_iff (r : Replica α) (now : Int) (m : Msg α)
    (hh : r.mstate.heartbeats = none) (hc : m.body.commitNumber = 0)
    (hd : ∀ args, m.body = .doViewChange args → ∃ x, r.doViewChange now args = .ok x) :
    (∃ e, r.receive now m = .error e) ↔
      (∃ reply, m.body = .heartbeatReply reply) ∨
      (∃ reply, m.body = .prepareReply reply ∧ reply.view = r.rstate.view) ∨
      (∃ args, m.body = .prepare args ∧ args.view = r.rstate.view ∧
        r.rstate.status = .normal ∧ args.opNumber = r.rstate.opNumber + 1 ∧ r.phatlog = none) := by
  obtain ⟨src, dst, body⟩ := m
  cases body with
  | prepare args =>
    simp only [receive]
    rw [exists_bind_eq_error _ fun _ => by split <;> exact ⟨_, rfl⟩, prepare_fails_iff r now hc]
    simp
  | prepareReply reply =>
    simp only [receive]
    rw [exists_bind_eq_error _ fun _ => by exact ⟨_, rfl⟩,
      handlePrepareOK_fails_iff r now reply hh]
    simp
  | commit args =>
    obtain ⟨x, hx⟩ := commit_ok r now args hc
    simp only [receive]
    rw [exists_bind_eq_error _ fun _ => by split <;> exact ⟨_, rfl⟩, hx]
    simp
  | heartbeatReply reply =>
    simp only [receive]
    rw [exists_bind_eq_error _ fun _ => by exact ⟨_, rfl⟩, heartbeat_nil hh]
    simp
  | startViewChange args => simp [receive]
  | doViewChange args =>
    obtain ⟨x, hx⟩ := hd args rfl
    simp only [receive]
    rw [exists_bind_eq_error _ fun _ => by exact ⟨_, rfl⟩, hx]
    simp
  | startView args => simp [receive]

end Replica

namespace World

/-- Delivering message `k` to a live replica ends its process exactly when the handler fails. -/
theorem exec_deliver_halts_iff {w : World α} {k : Nat} {m : Msg α} (hk : w.msgs[k]? = some m)
    (ha : w.alive m.dst) :
    w.exec (.deliver k) = some (w.halt m.dst) ↔
      ∃ e, (w.replicas m.dst).receive (w.clock m.dst) m = .error e := by
  simp only [World.exec, hk, ha, if_true]
  split <;> rename_i h
  · refine iff_of_false (fun he => ?_) fun ⟨e, he⟩ => nomatch h.symm.trans he
    have := congrArg (fun w : World α => w.alive m.dst) (Option.some.inj he)
    simp [World.update, World.halt, ha] at this
  · exact iff_of_true rfl ⟨_, h⟩

/-- In every reachable world, delivering a message in flight to a live replica ends that
replica's process exactly when the message is a `HeartbeatReply`, a `PrepareReply` of the
replica's view, or a `Prepare` the replica takes while its `Phatlog` is nil. -/
theorem reachable_deliver_halts_iff {w : World α} (h : Reachable w) {k : Nat} {m : Msg α}
    (hk : w.msgs[k]? = some m) (ha : w.alive m.dst) :
    w.exec (.deliver k) = some (w.halt m.dst) ↔
      (∃ reply, m.body = .heartbeatReply reply) ∨
      (∃ reply, m.body = .prepareReply reply ∧ reply.view = (w.replicas m.dst).rstate.view) ∨
      (∃ args, m.body = .prepare args ∧ args.view = (w.replicas m.dst).rstate.view ∧
        (w.replicas m.dst).rstate.status = .normal ∧
        args.opNumber = (w.replicas m.dst).rstate.opNumber + 1 ∧
        (w.replicas m.dst).phatlog = none) := by
  have hm := List.getElem?_mem hk
  have hu := reachable_uncommitted h
  rw [exec_deliver_halts_iff hk ha]
  refine Replica.receive_fails_iff _ _ m (hu.1 m.dst).3 (hu.2 m hm) fun args hb => ?_
  obtain ⟨r', h', -⟩ := Replica.doViewChange_ok _ (w.clock m.dst) args
    (reachable_counted_replicas h m.dst).3 ((reachable_completes h).1 m.dst)
    (((reachable_completes h).2 m hm args hb).trans ((reachable_addressed h).1 m.dst).symm)
  exact ⟨_, h'⟩

/-- After the first six actions of `viewOneElectionRun`, replica 1 is live with replica 2's
`DoViewChange` at index `8`. -/
theorem reachable_deliver_halts_iff_viewOne :
    ∃ w m, (World.init noSkew noSkew_le : World Nat).run (viewOneElectionRun.take 6) = some w ∧
      w.msgs[8]? = some m ∧ w.alive m.dst ∧
      (w.exec (.deliver 8) = some (w.halt m.dst) ↔
        (∃ reply, m.body = .heartbeatReply reply) ∨
        (∃ reply, m.body = .prepareReply reply ∧ reply.view = (w.replicas m.dst).rstate.view) ∨
        (∃ args, m.body = .prepare args ∧ args.view = (w.replicas m.dst).rstate.view ∧
          (w.replicas m.dst).rstate.status = .normal ∧
          args.opNumber = (w.replicas m.dst).rstate.opNumber + 1 ∧
          (w.replicas m.dst).phatlog = none)) := by
  refine ⟨_, _, rfl, rfl, rfl, ?_⟩
  exact reachable_deliver_halts_iff
    (@Reachable.run Nat _ _ (viewOneElectionRun.take 6) (.init noSkew noSkew_le) rfl) rfl rfl

end World

end GoPhat
