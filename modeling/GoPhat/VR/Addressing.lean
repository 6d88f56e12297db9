import GoPhat.VR.Uncommitted

/-!
# Who a message is from

Replica `i` keeps `ReplicaNumber = i` from `ReplicaInit` on: no handler assigns it. Replies go
back along the request, with `src` and `dst` swapped, and carry the replier's number; broadcasts
go to `peers`, every replica but the sender; and `StartViewChange` sends its `DoViewChange` to
the master of the new view only when it is not that master itself (`!IsMaster()`). So in every
reachable world each message in flight goes to another replica than the one that sent it, and
the replica number in its body is its sender's (`reachable_wellAddressed`). A master thus never
counts a `PrepareOK` of its own in `handlePrepareOK`, and `DoViewChange` never records a message
in the new master's own slot of `DoViewChangeMsgs`.
-/

namespace GoPhat

variable {α : Type}

/-- The replica number a request or reply carries: the replier of a `PrepareReply` or a
`HeartbeatReply`, the sender of a `StartViewChange` or a `DoViewChange`. -/
def Body.replicaNumber? : Body α → Option ReplicaId
  | .prepareReply reply => some reply.replicaNumber
  | .heartbeatReply reply => some reply.replicaNumber
  | .startViewChange args => some args.replicaNumber
  | .doViewChange args => some args.replicaNumber
  | _ => none

/-- A message goes to another replica than its sender, and the replica number in its body, if
it carries one, is its sender's. -/
def Msg.WellAddressed (m : Msg α) : Prop :=
  m.src ≠ m.dst ∧ ∀ n ∈ m.body.replicaNumber?, n = m.src

theorem broadcast_wellAddressed {me : ReplicaId} {b : Body α}
    (hb : ∀ n ∈ b.replicaNumber?, n = me) : ∀ m ∈ broadcast me b, m.WellAddressed :=
  forall_mem_broadcast.2 fun _ hd => ⟨Ne.symm (of_decide_eq_true (List.mem_filter.1 hd).2), hb⟩

namespace Replica

theorem foldlM_preserves (P : Replica α → Prop)
    {f : Replica α → Nat → Except Fault (Replica α)} (hf : ∀ r i r', f r i = .ok r' → P r → P r') :
    ∀ (l : List Nat) {r r' : Replica α}, l.foldlM f r = .ok r' → P r → P r'
  | [], _, _, h, hr => (pure_eq_ok _ _).1 h ▸ hr
  | _ :: l, _, _, h, hr => by
    obtain ⟨_, h₁, h₂⟩ := (except_bind_eq_ok _ _ _).1 h
    exact foldlM_preserves P hf l h₂ (hf _ _ _ h₁ hr)

/-- `doCommit` keeps what committing one entry and starting a recovery keep. -/
theorem doCommitAux_preserves (P : Replica α → Prop)
    (hc : ∀ r r', r.commitNext = .ok r' → P r → P r') (hp : ∀ r, P r → P r.prepareRecovery)
    {fuel cn : Nat} {r r' : Replica α} (h : doCommitAux fuel r cn = .ok r') (hr : P r) : P r' := by
  induction fuel generalizing r r' cn with
  | zero => exact (pure_eq_ok _ _).1 h ▸ hr
  | succ fuel ih =>
    rw [doCommitAux] at h
    by_cases h₁ : cn ≤ r.rstate.commitNumber
    · rw [if_pos h₁] at h; exact (pure_eq_ok _ _).1 h ▸ hr
    rw [if_neg h₁] at h
    by_cases h₂ : cn > r.rstate.opNumber
    · rw [if_pos h₂] at h; exact (pure_eq_ok _ _).1 h ▸ hp r hr
    rw [if_neg h₂] at h
    by_cases h₃ : cn > r.rstate.commitNumber + 1
    · rw [if_pos h₃] at h
      obtain ⟨r₁, h₄, h₅⟩ := (except_bind_eq_ok _ _ _).1 h
      exact hc _ _ h₅ (foldlM_preserves P (fun _ _ _ => ih) _ h₄ hr)
    · rw [if_neg h₃, pure_bind] at h
      exact hc _ _ h hr

/-- What `doCommit` changes: the history, the commit number and the status, and nothing
else. -/
theorem doCommit_frame {r r' : Replica α} {cn : Nat} (h : r.doCommit cn = .ok r') :
    ∃ hist c st, r' =
      { r with history := hist, rstate.commitNumber := c, rstate.status := st } := by
  refine doCommitAux_preserves
    (fun x => ∃ hist c st, x =
      { r with history := hist, rstate.commitNumber := c, rstate.status := st })
    (fun r₁ r₂ h₁ ⟨hist, c, st, e⟩ => ?_) (fun _ ⟨hist, c, _, e⟩ => ⟨hist, c, _, by subst e; rfl⟩)
    h ⟨_, _, _, rfl⟩
  unfold commitNext at h₁
  split at h₁
  · cases h₁
  · obtain rfl := (pure_eq_ok _ _).1 h₁
    subst e
    exact ⟨_, _, st, rfl⟩

theorem doCommit_replicaNumber {r r' : Replica α} {cn : Nat} (h : r.doCommit cn = .ok r') :
    r'.rstate.replicaNumber = r.rstate.replicaNumber := by
  obtain ⟨_, _, _, rfl⟩ := doCommit_frame h
  rfl

theorem else_eq_ok_of_ite_error {β γ : Type} {c : Prop} [Decidable c] {x z : β} {e : String}
    {y : Except Fault (β × Except String γ)} {b : γ}
    (h : (if c then pure (x, .error e) else y) = .ok (z, .ok b)) : y = .ok (z, .ok b) := by
  split at h
  · cases h
  · exact h

/-- The reply `Prepare` returns reports the replica's new view, op number and replica number,
and the lease it grants. -/
theorem prepare_reply {r r' : Replica α} {now : Int} {args : PrepareArgs α} {reply : PrepareReply}
    (h : r.prepare now args = .ok (r', .ok reply)) :
    reply = ⟨r'.rstate.view, r'.rstate.opNumber, r'.rstate.replicaNumber, now + lease⟩ := by
  rw [prepare] at h
  obtain ⟨r₁, -, h₁⟩ := (except_bind_eq_ok _ _ _).1 (else_eq_ok_of_ite_error
    (else_eq_ok_of_ite_error (else_eq_ok_of_ite_error (else_eq_ok_of_ite_error
      (else_eq_ok_of_ite_error h)))))
  obtain ⟨r₂, -, h₂⟩ := (except_bind_eq_ok _ _ _).1 h₁
  obtain ⟨rfl, ⟨⟩⟩ := Prod.mk.inj ((pure_eq_ok _ _).1 h₂)
  rfl

/-- `Prepare` keeps the replica number and replies with it. -/
theorem prepare_addressed {r r' : Replica α} {now : Int} {args : PrepareArgs α} {res}
    (h : r.prepare now args = .ok (r', res)) :
    r'.rstate.replicaNumber = r.rstate.replicaNumber ∧
      ∀ reply, res = .ok reply → reply.replicaNumber = r.rstate.replicaNumber := by
  have hn : r'.rstate.replicaNumber = r.rstate.replicaNumber := by
    obtain rfl | rfl | ⟨r₁, -, -, -, h₁, h₂⟩ := prepare_eq_ok h
    · rfl
    · rfl
    · obtain ⟨_, -, rfl⟩ := addLog_eq_ok h₁
      exact (doCommit_replicaNumber h₂).trans rfl
  refine ⟨hn, fun reply hres => ?_⟩
  subst hres
  rw [prepare_reply h]
  exact hn

/-- `Commit` keeps the replica number and replies with it. -/
theorem commit_addressed {r r' : Replica α} {now : Int} {args : CommitArgs} {res}
    (h : r.commit now args = .ok (r', res)) :
    r'.rstate.replicaNumber = r.rstate.replicaNumber ∧
      ∀ reply, res = .ok reply → reply.replicaNumber = r.rstate.replicaNumber := by
  have hn : r'.rstate.replicaNumber = r.rstate.replicaNumber := by
    obtain rfl | rfl | ⟨-, h₁⟩ := commit_eq_ok h
    · rfl
    · rfl
    · exact (doCommit_replicaNumber h₁).trans rfl
  refine ⟨hn, fun reply hres => ?_⟩
  subst hres
  rw [commit] at h
  obtain ⟨r₁, -, h₁⟩ :=
    (except_bind_eq_ok _ _ _).1 (else_eq_ok_of_ite_error (else_eq_ok_of_ite_error h))
  obtain ⟨rfl, ⟨⟩⟩ := Prod.mk.inj ((pure_eq_ok _ _).1 h₁)
  exact hn

/-- What a successful `Heartbeat` changes: the `Heartbeats` map and the renewal timer of the
master state, the lease timer and the ghost lease. -/
theorem heartbeat_eq_ok {r r' : Replica α} {now : Int} {replica : ReplicaId} {newTime : Int}
    (h : r.heartbeat now replica newTime = .ok r') :
    ∃ hb mt t ml, r' = { r with
      mstate := { r.mstate with heartbeats := hb, timer := mt }
      rstate := r.rstate.extendLease t
      masterLease := ml } := by
  unfold heartbeat at h
  obtain ⟨_, -, h⟩ := (except_bind_eq_ok _ _ _).1 h
  split at h
  · cases h
  · obtain ⟨_, -, h⟩ := (except_bind_eq_ok _ _ _).1 h
    split at h
    · cases h
    · exact ⟨_, _, _, _, ((pure_eq_ok _ _).1 h).symm⟩

theorem heartbeat_replicaNumber {r r' : Replica α} {now : Int} {replica : ReplicaId}
    {newTime : Int} (h : r.heartbeat now replica newTime = .ok r') :
    r'.rstate.replicaNumber = r.rstate.replicaNumber := by
  obtain ⟨_, _, _, _, rfl⟩ := heartbeat_eq_ok h
  rfl

/-- What `handlePrepareOK` can do: ignore a reply of another view, or pass its lease to
`Heartbeat`; then, for a replica not yet marked in `Replies`, mark it and count it, and with the
`F`-th reply commit the next entry and send `Commit`s. -/
theorem handlePrepareOK_eq_ok {r r' : Replica α} {now : Int} {reply : PrepareReply}
    {sent : List (Msg α)} {b : Bool} (h : r.handlePrepareOK now reply = .ok (r', sent, b)) :
    (r' = r ∧ sent = []) ∨ ∃ r₁, r.heartbeat now reply.replicaNumber reply.lease = .ok r₁ ∧
      ((r' = r₁ ∧ sent = []) ∨ (¬ replied r₁.mstate.replies reply.replicaNumber ∧
        let r₂ : Replica α := { r₁ with
          mstate.replies := markReplied r₁.mstate.replies reply.replicaNumber
          mstate.a := r₁.mstate.a + 1 }
        ((r' = r₂ ∧ sent = []) ∨
          (r₂.doCommit (r₁.rstate.commitNumber + 1) = .ok r' ∧ sent = r'.sendCommitMsgs)))) := by
  have quiet {r₁ : Replica α} {b₁ : Bool}
      (hx : (pure (r₁, [], b₁) : Except Fault _) = .ok (r', sent, b)) : r' = r₁ ∧ sent = [] := by
    obtain ⟨rfl, ⟨⟩⟩ := Prod.mk.inj ((pure_eq_ok _ _).1 hx)
    exact ⟨rfl, rfl⟩
  rw [handlePrepareOK] at h
  by_cases h₁ : reply.view ≠ r.rstate.view
  · rw [if_pos h₁] at h; exact .inl (quiet h)
  rw [if_neg h₁] at h
  obtain ⟨r₁, h₂, h₃⟩ := (except_bind_eq_ok _ _ _).1 h
  refine .inr ⟨r₁, h₂, ?_⟩
  by_cases h₄ : reply.opNumber ≠ r₁.rstate.opNumber
  · rw [if_pos h₄] at h₃; exact .inl (quiet h₃)
  rw [if_neg h₄] at h₃
  by_cases h₅ : replied r₁.mstate.replies reply.replicaNumber
  · rw [if_pos h₅] at h₃; exact .inl (quiet h₃)
  rw [if_neg h₅] at h₃
  dsimp only at h₃
  split_ifs at h₃
  · exact .inr ⟨h₅, .inl (quiet h₃)⟩
  · obtain ⟨r₂, h₆, h₇⟩ := (except_bind_eq_ok _ _ _).1 h₃
    obtain ⟨rfl, ⟨⟩⟩ := Prod.mk.inj ((pure_eq_ok _ _).1 h₇)
    exact .inr ⟨h₅, .inr ⟨h₆, rfl⟩⟩

theorem reply_wellAddressed {m : Msg α} (hm : m.WellAddressed) {b : Body α}
    (hb : ∀ n ∈ b.replicaNumber?, n = m.dst) :
    ∀ m' ∈ [(⟨m.dst, m.src, b⟩ : Msg α)], m'.WellAddressed :=
  List.forall_mem_singleton.2 ⟨hm.1.symm, hb⟩

theorem sendCommitMsgs_wellAddressed (r : Replica α) : ∀ m ∈ r.sendCommitMsgs, m.WellAddressed :=
  broadcast_wellAddressed fun _ h => nomatch h

theorem handlePrepareOK_addressed {r r' : Replica α} {now : Int} {reply : PrepareReply}
    {sent : List (Msg α)} {b : Bool} (h : r.handlePrepareOK now reply = .ok (r', sent, b)) :
    r'.rstate.replicaNumber = r.rstate.replicaNumber ∧ ∀ m ∈ sent, m.WellAddressed := by
  rcases handlePrepareOK_eq_ok h with ⟨rfl, rfl⟩ |
    ⟨r₁, h₁, ⟨rfl, rfl⟩ | ⟨-, ⟨rfl, rfl⟩ | ⟨h₂, rfl⟩⟩⟩
  · exact ⟨rfl, List.forall_mem_nil _⟩
  · exact ⟨heartbeat_replicaNumber h₁, List.forall_mem_nil _⟩
  · exact ⟨(heartbeat_replicaNumber h₁ :), List.forall_mem_nil _⟩
  · exact ⟨(doCommit_replicaNumber h₂).trans (heartbeat_replicaNumber h₁ :),
      sendCommitMsgs_wellAddressed _⟩

/-- What `StartViewChange` does: it keeps the log, the op number, the replica number and the
`DoViewChange` slots and marks, and each message it sends goes from the replica to another one,
either a `StartViewChange` for its new view or, only when it is not the master of that view, the
`DoViewChange` to that master, carrying its log and op number. -/
theorem startViewChange_spec (r : Replica α) (args : StartViewChangeArgs) :
    (r.startViewChange args).1.phatlog = r.phatlog ∧
      (r.startViewChange args).1.rstate.opNumber = r.rstate.opNumber ∧
      (r.startViewChange args).1.rstate.replicaNumber = r.rstate.replicaNumber ∧
      (r.startViewChange args).1.vcstate.doViewChangeMsgs = r.vcstate.doViewChangeMsgs ∧
      (r.startViewChange args).1.vcstate.doViewReplies = r.vcstate.doViewReplies ∧
      ∀ m ∈ (r.startViewChange args).2, m.src = r.rstate.replicaNumber ∧ m.src ≠ m.dst ∧
        (m.body = .startViewChange ⟨(r.startViewChange args).1.rstate.view, r.rstate.replicaNumber⟩ ∨
          m.dst = masterOf (r.startViewChange args).1.rstate.view ∧ ∃ nv, m.body = .doViewChange
            { view := (r.startViewChange args).1.rstate.view
              replicaNumber := r.rstate.replicaNumber
              log := r.phatlog
              normalView := nv
              opNumber := r.rstate.opNumber
              commitNumber := r.rstate.commitNumber }) := by
  rw [startViewChange]
  by_cases h₁ : r.rstate.view > args.view
  · rw [if_pos h₁]; exact ⟨rfl, rfl, rfl, rfl, rfl, List.forall_mem_nil _⟩
  by_cases h₂ : replied r.vcstate.startViewReplies args.replicaNumber
  · rw [if_neg h₁, if_pos h₂]; exact ⟨rfl, rfl, rfl, rfl, rfl, List.forall_mem_nil _⟩
  rw [if_neg h₁, if_neg h₂]
  have toMaster {r₁ : Replica α} (hm : (!r₁.isMaster) = true) :
      r₁.rstate.replicaNumber ≠ masterOf r₁.rstate.view :=
    fun he => (isMaster_iff r₁).not.1 (by simpa using hm) he.symm
  by_cases h₃ : r.rstate.view < args.view <;>
    simp only [h₃, if_true, if_false, List.nil_append, List.forall_mem_append,
      List.mem_ite_nil_right, List.mem_singleton, and_imp, forall_eq_apply_imp_iff, true_and]
  on_goal 1 => refine ⟨forall_mem_broadcast.2 fun _ hd =>
    ⟨rfl, Ne.symm (of_decide_eq_true (List.mem_filter.1 hd).2), .inl rfl⟩, ?_⟩
  all_goals
    rintro _ - hm rfl
    exact ⟨rfl, toMaster hm, .inr ⟨rfl, _, rfl⟩⟩

/-- `StartViewChange` keeps the replica number; it rebroadcasts from it, and sends its
`DoViewChange` to the master of the view only when that is another replica. -/
theorem startViewChange_addressed (r : Replica α) (args : StartViewChangeArgs) :
    (r.startViewChange args).1.rstate.replicaNumber = r.rstate.replicaNumber ∧
      ∀ m ∈ (r.startViewChange args).2, m.WellAddressed := by
  obtain ⟨-, -, hn, -, -, hs⟩ := startViewChange_spec r args
  refine ⟨hn, fun m hm => ⟨(hs m hm).2.1, fun n hn => ?_⟩⟩
  obtain ⟨hsrc, -, hb | ⟨-, _, hb⟩⟩ := hs m hm <;> rw [hb] at hn <;>
    exact (Option.some_inj.1 hn).symm.trans hsrc.symm

theorem doViewChange_replicaNumber {r r' : Replica α} {now : Int} {args : DoViewChangeArgs α}
    (h : r.doViewChange now args = .ok r') :
    r'.rstate.replicaNumber = r.rstate.replicaNumber := by
  obtain ⟨-, rfl⟩ | ⟨-, -, rfl⟩ | ⟨-, -, _, h₁, rfl⟩ := doViewChange_eq_ok h
  · rfl
  · rfl
  · obtain ⟨-, rfl⟩ := becomeMaster_eq_ok.1 h₁
    rfl

/-- A call of a `StartView` goroutine goes from the replica to a peer. -/
theorem sendStartView_addressed {r r' : Replica α} {k : Nat} {dst : ReplicaId} {m : Msg α}
    (h : r.sendStartView k dst = some (r', m)) :
    r'.rstate.replicaNumber = r.rstate.replicaNumber ∧ m.WellAddressed := by
  obtain ⟨c, -, hd, rfl, rfl⟩ := sendStartView_eq_some h
  exact ⟨rfl, broadcast_wellAddressed (b := .startView (c.args r.phatlog)) (fun _ h => nomatch h)
    _ (List.mem_map_of_mem _ hd)⟩

theorem replicaTimeout_addressed (r : Replica α) (now : Int) :
    (r.replicaTimeout now).1.rstate.replicaNumber = r.rstate.replicaNumber ∧
      ∀ m ∈ (r.replicaTimeout now).2, m.WellAddressed :=
  ⟨rfl, broadcast_wellAddressed fun _ hn => (Option.some_inj.1 hn).symm⟩

theorem runVR_addressed {r r' : Replica α} {c : α} {sent} (h : r.runVR c = .ok (r', sent)) :
    r'.rstate.replicaNumber = r.rstate.replicaNumber ∧ ∀ m ∈ sent, m.WellAddressed := by
  simp only [runVR, except_bind_eq_ok, pure_eq_ok, Prod.mk.injEq] at h
  obtain ⟨_, -, _, -, r₁, h₁, rfl, rfl⟩ := h
  obtain ⟨_, -, rfl⟩ := addLog_eq_ok h₁
  exact ⟨rfl, broadcast_wellAddressed fun _ h => nomatch h⟩

/-- What delivering `m` can do: run the handler its body names, and send the reply that a
`Prepare` or a `Commit` returns back to the sender. -/
theorem receive_eq_ok {r r' : Replica α} {now : Int} {m : Msg α} {sent g}
    (h : r.receive now m = .ok (r', sent, g)) :
    (∃ args res, m.body = .prepare args ∧ r.prepare now args = .ok (r', res) ∧
        (sent = [] ∨ ∃ reply, res = .ok reply ∧ sent = [⟨m.dst, m.src, .prepareReply reply⟩])) ∨
      (∃ reply b, m.body = .prepareReply reply ∧ r.handlePrepareOK now reply = .ok (r', sent, b)) ∨
      (∃ args res, m.body = .commit args ∧ r.commit now args = .ok (r', res) ∧
        (sent = [] ∨ ∃ reply, res = .ok reply ∧ sent = [⟨m.dst, m.src, .heartbeatReply reply⟩])) ∨
      (∃ reply, m.body = .heartbeatReply reply ∧
        r.heartbeat now reply.replicaNumber reply.lease = .ok r' ∧ sent = []) ∨
      (∃ args, m.body = .startViewChange args ∧
        r' = (r.startViewChange args).1 ∧ sent = (r.startViewChange args).2) ∨
      (∃ args, m.body = .doViewChange args ∧ r.doViewChange now args = .ok r' ∧ sent = []) ∨
      (∃ args, m.body = .startView args ∧ r' = r.startView now args ∧ sent = []) := by
  unfold receive at h
  split at h <;> rename_i hb
  · obtain ⟨⟨r₁, res⟩, h₁, h₂⟩ := (except_bind_eq_ok _ _ _).1 h
    dsimp only at h₂
    split at h₂ <;> obtain ⟨rfl, ⟨⟩⟩ := Prod.mk.inj ((pure_eq_ok _ _).1 h₂)
    · exact .inl ⟨_, _, hb, h₁, .inr ⟨_, rfl, rfl⟩⟩
    · exact .inl ⟨_, _, hb, h₁, .inl rfl⟩
  · obtain ⟨⟨r₁, sent₁, b⟩, h₁, h₂⟩ := (except_bind_eq_ok _ _ _).1 h
    obtain ⟨rfl, ⟨⟩⟩ := Prod.mk.inj ((pure_eq_ok _ _).1 h₂)
    exact .inr (.inl ⟨_, _, hb, h₁⟩)
  · obtain ⟨⟨r₁, res⟩, h₁, h₂⟩ := (except_bind_eq_ok _ _ _).1 h
    dsimp only at h₂
    split at h₂ <;> obtain ⟨rfl, ⟨⟩⟩ := Prod.mk.inj ((pure_eq_ok _ _).1 h₂)
    · exact .inr (.inr (.inl ⟨_, _, hb, h₁, .inr ⟨_, rfl, rfl⟩⟩))
    · exact .inr (.inr (.inl ⟨_, _, hb, h₁, .inl rfl⟩))
  · obtain ⟨r₁, h₁, h₂⟩ := (except_bind_eq_ok _ _ _).1 h
    obtain ⟨rfl, ⟨⟩⟩ := Prod.mk.inj ((pure_eq_ok _ _).1 h₂)
    exact .inr (.inr (.inr (.inl ⟨_, hb, h₁, rfl⟩)))
  · obtain ⟨rfl, ⟨⟩⟩ := Prod.mk.inj ((pure_eq_ok _ _).1 h)
    exact .inr (.inr (.inr (.inr (.inl ⟨_, hb, rfl, rfl⟩))))
  · obtain ⟨r₁, h₁, h₂⟩ := (except_bind_eq_ok _ _ _).1 h
    obtain ⟨rfl, ⟨⟩⟩ := Prod.mk.inj ((pure_eq_ok _ _).1 h₂)
    exact .inr (.inr (.inr (.inr (.inr (.inl ⟨_, hb, h₁, rfl⟩)))))
  · obtain ⟨rfl, ⟨⟩⟩ := Prod.mk.inj ((pure_eq_ok _ _).1 h)
    exact .inr (.inr (.inr (.inr (.inr (.inr ⟨_, hb, rfl, rfl⟩)))))

/-- Every handler keeps the replica number, and what it sends on a well-addressed message
delivered to it is well addressed. -/
theorem receive_addressed {r r' : Replica α} {now : Int} {m : Msg α} {sent g}
    (hr : r.rstate.replicaNumber = m.dst) (hm : m.WellAddressed)
    (h : r.receive now m = .ok (r', sent, g)) :
    r'.rstate.replicaNumber = r.rstate.replicaNumber ∧ ∀ m' ∈ sent, m'.WellAddressed := by
  rcases receive_eq_ok h with ⟨_, _, -, h₁, rfl | ⟨_, rfl, rfl⟩⟩ | ⟨_, _, -, h₁⟩ |
    ⟨_, _, -, h₁, rfl | ⟨_, rfl, rfl⟩⟩ | ⟨_, -, h₁, rfl⟩ | ⟨_, -, rfl, rfl⟩ | ⟨_, -, h₁, rfl⟩ |
    ⟨_, -, rfl, rfl⟩
  · exact ⟨(prepare_addressed h₁).1, List.forall_mem_nil _⟩
  · exact ⟨(prepare_addressed h₁).1, reply_wellAddressed hm fun _ h =>
      (Option.some_inj.1 h).symm.trans (((prepare_addressed h₁).2 _ rfl).trans hr)⟩
  · exact handlePrepareOK_addressed h₁
  · exact ⟨(commit_addressed h₁).1, List.forall_mem_nil _⟩
  · exact ⟨(commit_addressed h₁).1, reply_wellAddressed hm fun _ h =>
      (Option.some_inj.1 h).symm.trans (((commit_addressed h₁).2 _ rfl).trans hr)⟩
  · exact ⟨heartbeat_replicaNumber h₁, List.forall_mem_nil _⟩
  · exact startViewChange_addressed r _
  · exact ⟨doViewChange_replicaNumber h₁, List.forall_mem_nil _⟩
  · exact ⟨rfl, List.forall_mem_nil _⟩

end Replica

/-- What holds of `ReplicaInit`'s replica, and of it after `BecomeMaster`, holds of
`RunAsReplica`'s. -/
theorem runAsReplica_induction (P : Replica α → Prop) (i : ReplicaId) (now : Int)
    (hi : P (replicaInit i now))
    (hb : ∀ r', (replicaInit i now : Replica α).becomeMaster now = .ok r' → P r') :
    P (runAsReplica i now) := by
  unfold runAsReplica
  dsimp only
  split_ifs
  · split
    · exact hb _ ‹_›
    · exact hi
  · exact hi

namespace World

/-- Replica `i` has replica number `i`, and every message in flight is well addressed. -/
structure Addressed (w : World α) : Prop where
  replicaNumber : ∀ i, (w.replicas i).rstate.replicaNumber = i
  msgs : ∀ m ∈ w.msgs, m.WellAddressed

theorem init_addressed (skew : ReplicaId → Int) (h) : (init skew h : World α).Addressed :=
  ⟨fun i => runAsReplica_induction (·.rstate.replicaNumber = i) i (skew i) rfl fun _ h => by
    obtain ⟨-, rfl⟩ := Replica.becomeMaster_eq_ok.1 h
    rfl, List.forall_mem_nil _⟩

theorem Addressed.exec {w w' : World α} {a : Action α} (hw : w.Addressed)
    (h : w.exec a = some w') : w'.Addressed :=
  have ⟨h₁, h₂⟩ := exec_preserves (fun i r => r.rstate.replicaNumber = i) Msg.WellAddressed
    ⟨hw.1, hw.2⟩ h
    (fun m hm _ _ _ h₁ =>
      have ⟨hn, hs⟩ := Replica.receive_addressed (hw.1 _) (hw.2 m hm) h₁
      ⟨hn.trans (hw.1 _), hs⟩)
    (fun i => ⟨hw.1 i, (Replica.replicaTimeout_addressed _ _).2⟩)
    (fun i => ⟨hw.1 i, Replica.sendCommitMsgs_wellAddressed _⟩)
    (fun i _ _ _ h₁ =>
      have ⟨hn, hs⟩ := Replica.runVR_addressed h₁
      ⟨hn.trans (hw.1 i), hs⟩)
    (fun i _ _ _ _ h₁ =>
      have ⟨hn, hs⟩ := Replica.sendStartView_addressed h₁
      ⟨hn.trans (hw.1 i), hs⟩)
  ⟨h₁, h₂⟩

theorem reachable_addressed {w : World α} (h : Reachable w) : w.Addressed := by
  induction h with
  | init skew h => exact init_addressed skew h
  | step a _ hw ih => exact ih.exec hw

/-- In every reachable world, replica `i` has replica number `i`, and every message in flight
goes to another replica than its sender and carries its sender's replica number, if any: never
the number of the replica it is delivered to. -/
theorem reachable_wellAddressed {w : World α} (h : Reachable w) :
    (∀ i, (w.replicas i).rstate.replicaNumber = i) ∧
      ∀ m ∈ w.msgs, m.WellAddressed ∧
        ∀ n ∈ m.body.replicaNumber?, n ≠ (w.replicas m.dst).rstate.replicaNumber := by
  obtain ⟨hr, hw⟩ := reachable_addressed h
  refine ⟨hr, fun m hm => ⟨hw m hm, fun n hn => ?_⟩⟩
  rw [(hw m hm).2 n hn, hr]
  exact (hw m hm).1

/-- Replica 1's reply to the master's first `Prepare`, which carries its replica number, is in
flight with the other `Prepare`. -/
theorem reachable_wellAddressed_prepared :
    ∃ w : World Nat, (World.init noSkew noSkew_le).run [.runVR 0 7, .deliver 0] = some w ∧
      Reachable w ∧ w.msgs.length = 3 ∧
      (∀ i, (w.replicas i).rstate.replicaNumber = i) ∧
      ∀ m ∈ w.msgs, m.WellAddressed ∧
        ∀ n ∈ m.body.replicaNumber?, n ≠ (w.replicas m.dst).rstate.replicaNumber :=
  have hw := @Reachable.run Nat _ _ [.runVR 0 7, .deliver 0] (.init noSkew noSkew_le) rfl
  ⟨_, rfl, hw, rfl, reachable_wellAddressed hw⟩

end World

end GoPhat
