import GoPhat.VR.Quorum
import GoPhat.VR.Install

/-!
# Who completes a view change

`DoViewChange` never looks at the view its message carries: it marks the sender, fills the
sender's slot of `DoViewChangeMsgs`, and with the `F`-th message calls `calcMasterView` and then
`BecomeMaster`, whose `assert(IsMaster())` ends the process when it fails. It never fails.
`StartViewChange` sends its `DoViewChange` to `View % (NREPLICAS+1)`, the master of the view the
message carries; a slot holds Go's zero value until its replica is marked in `DoViewReplies`,
and `DoViews` counts the marks. With `F = 1` the completing message is the first one counted, so
every other slot is still zero, `calcMasterView` installs the view of that message, and the
replica is its master.
-/

namespace GoPhat

variable {α : Type}

/-- A `DoViewChange` goes to the replica `IsMaster` names for the view it carries. -/
def Msg.ToViewMaster (m : Msg α) : Prop :=
  ∀ args, m.body = .doViewChange args → masterOf args.view = m.dst

theorem broadcast_toViewMaster {me : ReplicaId} {b : Body α}
    (hb : ∀ args, b ≠ .doViewChange args) : ∀ m ∈ broadcast me b, m.ToViewMaster :=
  forall_mem_broadcast.2 fun _ _ args h => absurd h (hb args)

/-- A slot of `DoViewChangeMsgs` holds Go's zero value until its replica is marked. -/
def SlotsClear (bits : Nat) (slots : ReplicaId → DoViewChangeArgs α) : Prop :=
  ∀ j, replied bits j = false → slots j = {}

theorem SlotsClear.mark {bits : Nat} {slots : ReplicaId → DoViewChangeArgs α}
    (h : SlotsClear bits slots) (n : ReplicaId) (args : DoViewChangeArgs α) :
    SlotsClear (markReplied bits n) (Function.update slots n args) := by
  intro j hj
  rw [replied_markReplied, Bool.or_eq_false_iff, decide_eq_false_iff_not] at hj
  rw [Function.update_noteq hj.2]
  exact h j hj.1

theorem SlotsClear.eq_zero {count bits : Nat} {me : ReplicaId}
    {slots : ReplicaId → DoViewChangeArgs α} (h : SlotsClear bits slots) (hc : Tally count bits me)
    (h₀ : count = 0) (j : ReplicaId) : slots j = {} := by
  refine h j (Bool.eq_false_iff.2 fun hj => ?_)
  have : repliers bits = ∅ := Finset.card_eq_zero.1 (hc.1 ▸ h₀)
  exact Finset.not_mem_empty j (this ▸ Finset.mem_filter.2 ⟨Finset.mem_univ _, hj⟩)

namespace Replica

/-- With every slot but `n`'s at Go's zero value, `calcMasterView` installs the view of slot
`n`. -/
theorem calcMasterView_view_of_single (r : Replica α) (n : ReplicaId)
    (h : ∀ j, j ≠ n → r.vcstate.doViewChangeMsgs j = {}) :
    r.calcMasterView.rstate.view = (r.vcstate.doViewChangeMsgs n).view := by
  refine le_antisymm ((calcMasterView_view_le_iff _ _).2 fun j => ?_)
    ((calcMasterView_view_le_iff _ _).1 le_rfl n)
  rcases eq_or_ne j n with rfl | hj
  · exact le_rfl
  · rw [h j hj]
    exact Nat.zero_le _

theorem doCommit_vcstate {r r' : Replica α} {cn : Nat} (h : r.doCommit cn = .ok r') :
    r'.vcstate = r.vcstate := by
  obtain ⟨_, _, _, rfl⟩ := doCommit_frame h
  rfl

theorem prepare_vcstate {r r' : Replica α} {now : Int} {args : PrepareArgs α} {res}
    (h : r.prepare now args = .ok (r', res)) : r'.vcstate = r.vcstate := by
  obtain rfl | rfl | ⟨r₁, -, -, -, h₁, h₂⟩ := prepare_eq_ok h
  · rfl
  · rfl
  · obtain ⟨_, -, rfl⟩ := addLog_eq_ok h₁
    exact (doCommit_vcstate h₂ :)

theorem commit_vcstate {r r' : Replica α} {now : Int} {args : CommitArgs} {res}
    (h : r.commit now args = .ok (r', res)) : r'.vcstate = r.vcstate := by
  obtain rfl | rfl | ⟨-, h₁⟩ := commit_eq_ok h
  · rfl
  · rfl
  · exact (doCommit_vcstate h₁ :)

theorem heartbeat_vcstate {r r' : Replica α} {now : Int} {replica : ReplicaId} {newTime : Int}
    (h : r.heartbeat now replica newTime = .ok r') : r'.vcstate = r.vcstate := by
  obtain ⟨_, _, _, _, rfl⟩ := heartbeat_eq_ok h
  rfl

theorem handlePrepareOK_vcstate {r r' : Replica α} {now : Int} {reply : PrepareReply}
    {sent : List (Msg α)} {b : Bool} (h : r.handlePrepareOK now reply = .ok (r', sent, b)) :
    r'.vcstate = r.vcstate ∧ ∀ m ∈ sent, m.ToViewMaster := by
  rcases handlePrepareOK_eq_ok h with ⟨rfl, rfl⟩ |
    ⟨r₁, h₁, ⟨rfl, rfl⟩ | ⟨-, ⟨rfl, rfl⟩ | ⟨h₂, rfl⟩⟩⟩
  · exact ⟨rfl, List.forall_mem_nil _⟩
  · exact ⟨heartbeat_vcstate h₁, List.forall_mem_nil _⟩
  · exact ⟨(heartbeat_vcstate h₁ :), List.forall_mem_nil _⟩
  · exact ⟨(doCommit_vcstate h₂).trans (heartbeat_vcstate h₁ :),
      broadcast_toViewMaster fun _ h => nomatch h⟩

theorem runVR_vcstate {r r' : Replica α} {c : α} {sent} (h : r.runVR c = .ok (r', sent)) :
    r'.vcstate = r.vcstate ∧ ∀ m ∈ sent, m.ToViewMaster := by
  simp only [runVR, except_bind_eq_ok, pure_eq_ok, Prod.mk.injEq] at h
  obtain ⟨_, -, _, -, r₁, h₁, rfl, rfl⟩ := h
  obtain ⟨_, -, rfl⟩ := addLog_eq_ok h₁
  exact ⟨rfl, broadcast_toViewMaster fun _ h => nomatch h⟩

/-- What a handler does to `DoViewReplies` and `DoViewChangeMsgs`: nothing, clear both
(`StartView`), or mark the sender of a `DoViewChange` and fill its slot; and every
`DoViewChange` it sends goes to the master of the view it carries. -/
theorem receive_doViewSlots {r r' : Replica α} {now : Int} {m : Msg α} {sent g}
    (h : r.receive now m = .ok (r', sent, g)) :
    ((r'.vcstate.doViewReplies = r.vcstate.doViewReplies ∧
        r'.vcstate.doViewChangeMsgs = r.vcstate.doViewChangeMsgs) ∨
      r'.vcstate = {} ∨
      ∃ args : DoViewChangeArgs α,
        r'.vcstate.doViewReplies = markReplied r.vcstate.doViewReplies args.replicaNumber ∧
        r'.vcstate.doViewChangeMsgs =
          Function.update r.vcstate.doViewChangeMsgs args.replicaNumber args) ∧
    ∀ m' ∈ sent, m'.ToViewMaster := by
  have reply {b : Body α} (hb : ∀ args, b ≠ .doViewChange args) :
      ∀ m' ∈ [(⟨m.dst, m.src, b⟩ : Msg α)], m'.ToViewMaster :=
    List.forall_mem_singleton.2 fun args h => absurd h (hb args)
  have same {r' : Replica α} (e : r'.vcstate = r.vcstate) :
      (r'.vcstate.doViewReplies = r.vcstate.doViewReplies ∧
        r'.vcstate.doViewChangeMsgs = r.vcstate.doViewChangeMsgs) := ⟨e ▸ rfl, e ▸ rfl⟩
  rcases receive_eq_ok h with ⟨_, _, -, h₁, rfl | ⟨_, -, rfl⟩⟩ | ⟨_, _, -, h₁⟩ |
    ⟨_, _, -, h₁, rfl | ⟨_, -, rfl⟩⟩ | ⟨_, -, h₁, rfl⟩ | ⟨args, -, rfl, rfl⟩ |
    ⟨args, -, h₁, rfl⟩ | ⟨_, -, rfl, rfl⟩
  · exact ⟨.inl (same (prepare_vcstate h₁)), List.forall_mem_nil _⟩
  · exact ⟨.inl (same (prepare_vcstate h₁)), reply fun _ h => nomatch h⟩
  · exact ⟨.inl (same (handlePrepareOK_vcstate h₁).1), (handlePrepareOK_vcstate h₁).2⟩
  · exact ⟨.inl (same (commit_vcstate h₁)), List.forall_mem_nil _⟩
  · exact ⟨.inl (same (commit_vcstate h₁)), reply fun _ h => nomatch h⟩
  · exact ⟨.inl (same (heartbeat_vcstate h₁)), List.forall_mem_nil _⟩
  · obtain ⟨-, -, -, hv, hb, hs⟩ := startViewChange_spec r args
    refine ⟨.inl ⟨hb, hv⟩, fun m' hm a ha => ?_⟩
    obtain ⟨-, -, he | ⟨hd, _, he⟩⟩ := hs m' hm <;> rw [he] at ha
    · cases ha
    · cases ha
      exact hd.symm
  · refine ⟨?_, List.forall_mem_nil _⟩
    obtain ⟨-, rfl⟩ | ⟨-, -, rfl⟩ | ⟨-, -, _, h₂, rfl⟩ := doViewChange_eq_ok h₁
    · exact .inl ⟨rfl, rfl⟩
    · exact .inr (.inr ⟨args, rfl, rfl⟩)
    · obtain ⟨-, rfl⟩ := becomeMaster_eq_ok.1 h₂
      exact .inr (.inr ⟨args, rfl, rfl⟩)
  · exact ⟨.inr (.inl rfl), List.forall_mem_nil _⟩

/-- Every handler keeps the slots clear until marked. -/
theorem receive_slotsClear {r r' : Replica α} {now : Int} {m : Msg α} {sent g}
    (hr : SlotsClear r.vcstate.doViewReplies r.vcstate.doViewChangeMsgs)
    (h : r.receive now m = .ok (r', sent, g)) :
    SlotsClear r'.vcstate.doViewReplies r'.vcstate.doViewChangeMsgs := by
  rcases (receive_doViewSlots h).1 with ⟨h₁, h₂⟩ | e | ⟨args, h₁, h₂⟩
  · exact h₁ ▸ h₂ ▸ hr
  · rw [e]; exact fun _ _ => rfl
  · exact h₁ ▸ h₂ ▸ hr.mark _ _

/-- `DoViewChange` at a replica whose `DoViews` tally is right, whose slots are clear until
marked, and which is the master of the view the message carries, ends without a fault; when the
message completes a view change, and so starts a `StartView` goroutine, the replica installs
the message's view and is its master. -/
theorem doViewChange_ok (r : Replica α) (now : Int) (args : DoViewChangeArgs α)
    (hc : Tally r.vcstate.doViews r.vcstate.doViewReplies r.rstate.replicaNumber)
    (hs : SlotsClear r.vcstate.doViewReplies r.vcstate.doViewChangeMsgs)
    (hm : masterOf args.view = r.rstate.replicaNumber) :
    ∃ r', r.doViewChange now args = .ok r' ∧
      (r'.startViewCalls ≠ r.startViewCalls → r'.isMaster ∧ r'.rstate.view = args.view) := by
  rw [doViewChange]
  by_cases h₁ : replied r.vcstate.doViewReplies args.replicaNumber
  · rw [if_pos h₁]; exact ⟨r, rfl, fun h => absurd rfl h⟩
  rw [if_neg h₁]
  by_cases h₂ : r.vcstate.doViews + 1 ≠ F
  · rw [if_pos h₂]; exact ⟨_, rfl, fun h => absurd rfl h⟩
  rw [if_neg h₂]
  set r₁ : Replica α := { r with
    vcstate.doViewReplies := markReplied r.vcstate.doViewReplies args.replicaNumber
    vcstate.doViews := r.vcstate.doViews + 1
    vcstate.doViewChangeMsgs :=
      Function.update r.vcstate.doViewChangeMsgs args.replicaNumber args }
  have hz := hs.eq_zero hc (by simp only [F] at h₂; omega)
  have hv : r₁.calcMasterView.rstate.view = args.view :=
    (calcMasterView_view_of_single r₁ args.replicaNumber fun j hj =>
      (Function.update_noteq hj _ _).trans (hz j)).trans
      (congrArg DoViewChangeArgs.view (Function.update_same _ _ _))
  have hM : ({ r₁.calcMasterView with rstate.status := .normal } : Replica α).isMaster :=
    (isMaster_iff _).2 (hv.symm ▸ hm)
  rw [becomeMaster_eq_ok.2 ⟨hM, rfl⟩]
  refine ⟨_, rfl, fun _ => ⟨?_, hv⟩⟩
  rw [isMaster_iff] at hM ⊢
  exact hM

end Replica

namespace World

/-- What `DoViewChange`'s completion rests on: every replica's slots stay clear until marked,
and every `DoViewChange` in flight goes to the master of the view it carries. -/
structure Completes (w : World α) : Prop where
  slots : ∀ i, SlotsClear (w.replicas i).vcstate.doViewReplies
    (w.replicas i).vcstate.doViewChangeMsgs
  msgs : ∀ m ∈ w.msgs, m.ToViewMaster

theorem init_completes (skew : ReplicaId → Int)
    (h : ∀ i, -maxClockDrift ≤ skew i ∧ skew i ≤ maxClockDrift) :
    (World.init skew h : World α).Completes := by
  refine ⟨fun i => runAsReplica_induction
    (fun r => SlotsClear r.vcstate.doViewReplies r.vcstate.doViewChangeMsgs) i (skew i)
    (fun _ _ => rfl) fun _ h => ?_, fun _ h => absurd h (List.not_mem_nil _)⟩
  obtain ⟨-, rfl⟩ := Replica.becomeMaster_eq_ok.1 h
  exact fun _ _ => rfl

theorem Completes.exec {w w' : World α} {a : Action α} (hw : w.Completes)
    (h : w.exec a = some w') : w'.Completes :=
  have ⟨h₁, h₂⟩ := exec_preserves
    (fun _ r => SlotsClear r.vcstate.doViewReplies r.vcstate.doViewChangeMsgs) Msg.ToViewMaster
    ⟨hw.1, hw.2⟩ h
    (fun _ _ _ _ _ h₁ =>
      ⟨Replica.receive_slotsClear (hw.1 _) h₁, (Replica.receive_doViewSlots h₁).2⟩)
    (fun i => ⟨hw.1 i, broadcast_toViewMaster fun _ h => nomatch h⟩)
    (fun i => ⟨hw.1 i, broadcast_toViewMaster fun _ h => nomatch h⟩)
    (fun i _ _ _ h₁ =>
      have ⟨e, hs⟩ := Replica.runVR_vcstate h₁
      ⟨by dsimp only; rw [e]; exact hw.1 i, hs⟩)
    (fun i _ _ _ _ h₁ => by
      obtain ⟨_, -, -, rfl, rfl⟩ := Replica.sendStartView_eq_some h₁
      exact ⟨hw.1 i, fun _ h => nomatch h⟩)
  ⟨h₁, h₂⟩

theorem reachable_completes {w : World α} (h : Reachable w) : w.Completes := by
  induction h with
  | init skew h => exact init_completes skew h
  | step a _ hw ih => exact ih.exec hw

/-- In every reachable world, delivering a `DoViewChange` in flight ends without a fault:
`BecomeMaster`'s `assert(IsMaster())` holds whenever the message completes a view change, which
starts a `StartView` goroutine, and the replica then installs the view the message carries. -/
theorem reachable_doViewChange_ok {w : World α} (h : Reachable w) {m : Msg α} (hm : m ∈ w.msgs)
    {args : DoViewChangeArgs α} (hb : m.body = .doViewChange args) (now : Int) :
    ∃ r', (w.replicas m.dst).doViewChange now args = .ok r' ∧
      (r'.startViewCalls ≠ (w.replicas m.dst).startViewCalls →
        r'.isMaster ∧ r'.rstate.view = args.view) :=
  Replica.doViewChange_ok _ now args (reachable_counted_replicas h m.dst).3
    ((reachable_completes h).1 m.dst)
    (((reachable_completes h).2 m hm args hb).trans ((reachable_addressed h).1 m.dst).symm)

/-- After the first six actions of `viewOneElectionRun`, replica 2's `DoViewChange` to replica 1
is in flight, at index `8`. -/
theorem reachable_doViewChange_ok_viewOne :
    ∃ w m args, (World.init noSkew noSkew_le : World Nat).run (viewOneElectionRun.take 6) =
        some w ∧ m ∈ w.msgs ∧ m.body = .doViewChange args ∧
      ∃ r', (w.replicas m.dst).doViewChange (w.clock m.dst) args = .ok r' ∧
        (r'.startViewCalls ≠ (w.replicas m.dst).startViewCalls →
          r'.isMaster ∧ r'.rstate.view = args.view) := by
  refine ⟨_, _, _, rfl, List.getElem?_mem (n := 8) rfl, rfl, ?_⟩
  exact reachable_doViewChange_ok
    (@Reachable.run Nat _ _ (viewOneElectionRun.take 6) (.init noSkew noSkew_le) rfl)
    (List.getElem?_mem (n := 8) rfl) rfl _

end World

end GoPhat
