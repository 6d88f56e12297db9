import GoPhat.VR.LogMatch
import GoPhat.VR.Completion

/-!
# At most one command

`RunVR` asserts `OpNumber == CommitNumber` before it appends ("right now we enforce that the
last operation has been committed before starting a new one"), and no commit number ever leaves
`0`. A master therefore appends only at op number `0`, so every `Prepare` carries op number `1`;
a backup takes only the next op number; `calcMasterView` and `StartView` install op numbers some
replica reported. No op number passes `1`: the group appends at most one command to any log, and
a replica that holds one fails every later `RunVR`.
-/

namespace GoPhat

variable {α : Type}

/-- The op number a message carries, `0` for those that carry none. -/
def Body.opNumber : Body α → Nat
  | .prepare args => args.opNumber
  | .prepareReply reply => reply.opNumber
  | .doViewChange args => args.opNumber
  | .startView args => args.opNumber
  | _ => 0

theorem foldl_scanSlot_maxOp_le (me : ReplicaId) (msgs : ReplicaId → DoViewChangeArgs α)
    {b : Nat} (hb : ∀ i, (msgs i).opNumber ≤ b) (l : List ReplicaId) {s : MasterViewScan}
    (hs : s.maxOp ≤ b) : (l.foldl (scanSlot me msgs) s).maxOp ≤ b := by
  induction l generalizing s with
  | nil => exact hs
  | cons i l ih =>
    apply ih
    rcases scanSlot_candidate me msgs s i with ⟨-, h, -⟩ | ⟨-, h⟩ <;> rw [h]
    exacts [hs, hb i]

namespace Replica

/-- The new master's op number is one some slot reported, or `0`. -/
theorem calcMasterView_opNumber_le (r : Replica α) {b : Nat}
    (h : ∀ j, (r.vcstate.doViewChangeMsgs j).opNumber ≤ b) :
    r.calcMasterView.rstate.opNumber ≤ b :=
  foldl_scanSlot_maxOp_le _ _ h _ (Nat.zero_le _)

theorem sendCommitMsgs_opNumber (r : Replica α) : ∀ m ∈ r.sendCommitMsgs, m.body.opNumber ≤ 1 :=
  forall_mem_broadcast.2 fun _ _ => Nat.zero_le _

/-- A replica's op number, and the op number of each of its `DoViewChange` slots and of each of
its `StartView` goroutines, is at most `1`. -/
structure OneOp (r : Replica α) : Prop where
  opNumber : r.rstate.opNumber ≤ 1
  slots : ∀ j, (r.vcstate.doViewChangeMsgs j).opNumber ≤ 1
  calls : ∀ c ∈ r.startViewCalls, c.opNumber ≤ 1

theorem OneOp.doCommit {r r' : Replica α} {cn : Nat} (h : r.doCommit cn = .ok r')
    (hr : r.OneOp) : r'.OneOp := by
  obtain ⟨_, _, _, rfl⟩ := doCommit_frame h
  exact ⟨hr.1, hr.2, hr.3⟩

/-- `Prepare` takes only the next op number, which the message carries. -/
theorem prepare_oneOp {r r' : Replica α} {now : Int} {args : PrepareArgs α} {res}
    (hr : r.OneOp) (ha : args.opNumber ≤ 1) (h : r.prepare now args = .ok (r', res)) :
    r'.OneOp := by
  obtain rfl | rfl | ⟨r₁, -, -, ho, h₁, h₂⟩ := prepare_eq_ok h
  · exact hr
  · exact ⟨hr.1, hr.2, hr.3⟩
  · obtain ⟨_, -, rfl⟩ := addLog_eq_ok h₁
    exact OneOp.doCommit h₂ ⟨ho ▸ ha, hr.2, hr.3⟩

theorem commit_oneOp {r r' : Replica α} {now : Int} {args : CommitArgs} {res}
    (hr : r.OneOp) (h : r.commit now args = .ok (r', res)) : r'.OneOp := by
  obtain rfl | rfl | ⟨-, h₁⟩ := commit_eq_ok h
  · exact hr
  · exact ⟨hr.1, hr.2, hr.3⟩
  · exact OneOp.doCommit h₁ ⟨hr.1, hr.2, hr.3⟩

theorem handlePrepareOK_oneOp {r r' : Replica α} {now : Int} {reply : PrepareReply}
    {sent : List (Msg α)} {b : Bool} (hr : r.OneOp)
    (h : r.handlePrepareOK now reply = .ok (r', sent, b)) :
    r'.OneOp ∧ ∀ m ∈ sent, m.body.opNumber ≤ 1 := by
  rcases handlePrepareOK_eq_ok h with ⟨rfl, rfl⟩ |
    ⟨r₁, h₁, ⟨rfl, rfl⟩ | ⟨-, ⟨rfl, rfl⟩ | ⟨h₂, rfl⟩⟩⟩
  · exact ⟨hr, List.forall_mem_nil _⟩
  all_goals obtain ⟨_, _, _, _, rfl⟩ := heartbeat_eq_ok h₁
  · exact ⟨⟨hr.1, hr.2, hr.3⟩, List.forall_mem_nil _⟩
  · exact ⟨⟨hr.1, hr.2, hr.3⟩, List.forall_mem_nil _⟩
  · exact ⟨OneOp.doCommit h₂ ⟨hr.1, hr.2, hr.3⟩, sendCommitMsgs_opNumber _⟩

/-- `DoViewChange` fills a slot with the op number the message carries, and a new master
installs one its slots reported, which its `StartView` goroutine holds. -/
theorem doViewChange_oneOp {r r' : Replica α} {now : Int} {args : DoViewChangeArgs α}
    (hr : r.OneOp) (ha : args.opNumber ≤ 1) (h : r.doViewChange now args = .ok r') :
    r'.OneOp := by
  have slots : ∀ j,
      (Function.update r.vcstate.doViewChangeMsgs args.replicaNumber args j).opNumber ≤ 1 := by
    intro j
    rcases eq_or_ne j args.replicaNumber with rfl | hj
    · rw [Function.update_same]; exact ha
    · rw [Function.update_noteq hj]; exact hr.2 j
  obtain ⟨-, rfl⟩ | ⟨-, -, rfl⟩ | ⟨-, -, _, h₁, rfl⟩ := doViewChange_eq_ok h
  · exact hr
  · exact ⟨hr.1, slots, hr.3⟩
  · obtain ⟨-, rfl⟩ := becomeMaster_eq_ok.1 h₁
    refine ⟨calcMasterView_opNumber_le _ slots, slots, fun c hc => ?_⟩
    rcases List.mem_append.1 hc with hc | hc
    · obtain ⟨c₀, h₀, -, ho, -⟩ := mem_calcMasterView hc
      exact ho ▸ hr.3 c₀ h₀
    · rw [List.mem_singleton.1 hc]
      exact calcMasterView_opNumber_le _ slots

/-- Every handler keeps the bound, given a message within it, and sends only messages within
it. -/
theorem receive_oneOp {r r' : Replica α} {now : Int} {m : Msg α} {sent g}
    (hr : r.OneOp) (hm : m.body.opNumber ≤ 1) (h : r.receive now m = .ok (r', sent, g)) :
    r'.OneOp ∧ ∀ m' ∈ sent, m'.body.opNumber ≤ 1 := by
  rcases receive_eq_ok h with ⟨args, _, hb, h₁, rfl | ⟨_, rfl, rfl⟩⟩ | ⟨_, _, -, h₁⟩ |
    ⟨_, _, -, h₁, rfl | ⟨_, -, rfl⟩⟩ | ⟨_, -, h₁, rfl⟩ | ⟨args, -, rfl, rfl⟩ |
    ⟨args, hb, h₁, rfl⟩ | ⟨args, hb, rfl, rfl⟩ <;> try rw [hb] at hm
  · exact ⟨prepare_oneOp hr hm h₁, List.forall_mem_nil _⟩
  · refine ⟨prepare_oneOp hr hm h₁, List.forall_mem_singleton.2 ?_⟩
    rw [prepare_reply h₁]
    exact (prepare_oneOp hr hm h₁).1
  · exact handlePrepareOK_oneOp hr h₁
  · exact ⟨commit_oneOp hr h₁, List.forall_mem_nil _⟩
  · exact ⟨commit_oneOp hr h₁, List.forall_mem_singleton.2 (Nat.zero_le _)⟩
  · obtain ⟨_, _, _, _, rfl⟩ := heartbeat_eq_ok h₁
    exact ⟨⟨hr.1, hr.2, hr.3⟩, List.forall_mem_nil _⟩
  · obtain ⟨-, ho, -, hv, -, hs⟩ := startViewChange_spec r args
    refine ⟨⟨ho ▸ hr.1, hv ▸ hr.2, (startViewChange_frame r args).2.2.2.2 ▸ hr.3⟩,
      fun m' hm' => ?_⟩
    obtain ⟨-, -, he | ⟨-, _, he⟩⟩ := hs m' hm' <;> rw [he]
    · exact Nat.zero_le _
    · exact hr.1
  · exact ⟨doViewChange_oneOp hr hm h₁, List.forall_mem_nil _⟩
  · refine ⟨⟨hm, fun _ => Nat.zero_le _, fun _ hc => ?_⟩, List.forall_mem_nil _⟩
    obtain ⟨c₀, h₀, -, ho, -⟩ := @mem_setPhatlog _ r args.log _ hc
    exact ho ▸ hr.3 c₀ h₀

/-- `RunVR` appends only at op number `0`, where no commit number has left `0`. -/
theorem runVR_oneOp {r r' : Replica α} {c : α} {sent} (hr : r.OneOp)
    (hc : r.rstate.commitNumber = 0) (h : r.runVR c = .ok (r', sent)) :
    r'.OneOp ∧ ∀ m ∈ sent, m.body.opNumber ≤ 1 := by
  simp only [runVR, except_bind_eq_ok, pure_eq_ok, Prod.mk.injEq, assert_eq_ok] at h
  obtain ⟨_, -, _, ho, r₁, h₁, rfl, rfl⟩ := h
  obtain ⟨_, -, rfl⟩ := addLog_eq_ok h₁
  have h₀ : r.rstate.opNumber = 0 := by simpa [hc] using ho
  exact ⟨⟨by simp [h₀], hr.2, hr.3⟩,
    forall_mem_broadcast.2 fun _ _ => by simp [Body.opNumber, h₀]⟩

/-- A call of a `StartView` goroutine sends the op number the goroutine holds. -/
theorem sendStartView_oneOp {r r' : Replica α} {k : Nat} {dst : ReplicaId} {m : Msg α}
    (hr : r.OneOp) (h : r.sendStartView k dst = some (r', m)) :
    r'.OneOp ∧ m.body.opNumber ≤ 1 := by
  obtain ⟨c, hc, -, rfl, rfl⟩ := sendStartView_eq_some h
  refine ⟨⟨hr.1, hr.2, fun c' hc' => ?_⟩, hr.3 c hc⟩
  rcases mem_set_tried hc' with hc' | rfl
  exacts [hr.3 c' hc', hr.3 c hc]

end Replica

namespace World

/-- Every replica and every message in flight keeps its op numbers at most `1`. -/
structure OneOp (w : World α) : Prop where
  replicas : ∀ i, (w.replicas i).OneOp
  msgs : ∀ m ∈ w.msgs, m.body.opNumber ≤ 1

theorem OneOp.exec {w w' : World α} {a : Action α} (hu : w.Uncommitted) (hw : w.OneOp)
    (h : w.exec a = some w') : w'.OneOp :=
  have ⟨h₁, h₂⟩ := exec_preserves (fun _ r => r.OneOp) (·.body.opNumber ≤ 1) ⟨hw.1, hw.2⟩ h
    (fun m hm _ _ _ h₁ => Replica.receive_oneOp (hw.1 _) (hw.2 m hm) h₁)
    (fun i => ⟨⟨(hw.1 i).1, (hw.1 i).2, (hw.1 i).3⟩,
      forall_mem_broadcast.2 fun _ _ => Nat.zero_le _⟩)
    (fun i => ⟨⟨(hw.1 i).1, (hw.1 i).2, (hw.1 i).3⟩, Replica.sendCommitMsgs_opNumber _⟩)
    (fun i _ _ _ h₁ => Replica.runVR_oneOp (hw.1 i) (hu.1 i).1 h₁)
    (fun i _ _ _ _ h₁ => Replica.sendStartView_oneOp (hw.1 i) h₁)
  ⟨h₁, h₂⟩

end World

end GoPhat
