import GoPhat.VR.Addressing

/-!
# The log and the op number

`Prepare` and `RunVR` raise `OpNumber` and add the command at the new op number, so a replica's
log holds entries exactly at `1 .. MaxIndex`, with `MaxIndex` at least `OpNumber`. A view change
carries the pair along: `StartViewChange` sends the replica's log and op number in its
`DoViewChange`, `DoViewChange` stores them in a slot, `calcMasterView` installs the log of slot
`maxIdx` with the op number `maxOp` it read from that slot, or `0`, and `StartView` installs
what the new master's goroutine sends.

That goroutine reads the log through its pointer when it encodes a call, while the op number it
sends is the one of the moment the view change completed. A `RunVR` in between makes a follower
install a log with an entry past its op number (`reachable_logCovers_race`), so the two do not
stay equal. What every run keeps is the bound: every log a replica, a slot, a goroutine or a
message holds has entries exactly at `1 .. MaxIndex`, and `MaxIndex` is at least the op number
that goes with it (`World.reachable_logCovers`).
-/

namespace GoPhat

variable {α : Type}

/-- A log that covers op number `n`: nil, or one holding entries exactly at `1 .. MaxIndex`,
with `MaxIndex` at least `n`. -/
def LogCovers (log : Option (Log α)) (n : Nat) : Prop :=
  ∀ l, log = some l → (∀ k, (l.commits k).isSome ↔ 1 ≤ k ∧ k ≤ l.maxIndex) ∧ n ≤ l.maxIndex

theorem logCovers_none (n : Nat) : LogCovers (none : Option (Log α)) n :=
  fun _ h => nomatch h

theorem logCovers_emptyLog : LogCovers (some (Log.emptyLog : Log α)) 0 := by
  rintro _ ⟨⟩
  exact ⟨fun k => by simp [Log.emptyLog]; omega, le_rfl⟩

theorem LogCovers.mono {log : Option (Log α)} {n k : Nat} (h : LogCovers log n) (hk : k ≤ n) :
    LogCovers log k :=
  fun l hl => ⟨(h l hl).1, hk.trans (h l hl).2⟩

/-- Adding the command for op number `n + 1` to a log that covers `n` covers `n + 1`, and every
op number the log covered before. -/
theorem LogCovers.add {l : Log α} {n k : Nat} (h : LogCovers (some l) n) (c : α)
    (hk : k ≤ n + 1 ∨ k ≤ l.maxIndex) : LogCovers (some (l.add (n + 1) c)) k := by
  rintro _ ⟨⟩
  obtain ⟨hl, hn⟩ := h l rfl
  refine ⟨fun j => ?_, ?_⟩
  · by_cases hj : j = n + 1
    · simp only [Log.add, hj, if_true, Option.isSome_some, Log.max, true_iff]
      split <;> omega
    · simp only [Log.add, hj, if_false, hl, Log.max]
      split <;> omega
  · simp only [Log.maxIndex_add, Log.max]
    split <;> omega

/-- The log and op number a `DoViewChange` or a `StartView` carries: the log covers the op
number. -/
def Body.LogCovers : Body α → Prop
  | .doViewChange args => GoPhat.LogCovers args.log args.opNumber
  | .startView args => GoPhat.LogCovers args.log args.opNumber
  | _ => True

section Scan

variable (me : ReplicaId) (msgs : ReplicaId → DoViewChangeArgs α)

/-- A slot leaves the candidate of `calcMasterView` where it is (the replica's own slot, or one
with an older normal view or a shorter log), or makes it the candidate with its op number. -/
theorem scanSlot_candidate (s : MasterViewScan) (i : ReplicaId) :
    ((scanSlot me msgs s i).maxIdx = s.maxIdx ∧ (scanSlot me msgs s i).maxOp = s.maxOp ∧
        (i = me ∨ ¬((msgs i).normalView > s.maxNormalView ∨
          ((msgs i).normalView = s.maxNormalView ∧ (msgs i).opNumber > s.maxOp)))) ∨
      ((scanSlot me msgs s i).maxIdx = i ∧ (scanSlot me msgs s i).maxOp = (msgs i).opNumber) := by
  obtain ⟨s₁, ⟨e₁, e₂, e₃⟩, hs₁⟩ : ∃ s₁ : MasterViewScan,
      (s₁.maxIdx = s.maxIdx ∧ s₁.maxOp = s.maxOp ∧ s₁.maxNormalView = s.maxNormalView) ∧
      (if (msgs i).view > s.maxView then { s with maxView := (msgs i).view } else s) = s₁ :=
    ⟨_, by split <;> exact ⟨rfl, rfl, rfl⟩, rfl⟩
  unfold scanSlot
  dsimp only
  rw [hs₁, ← e₁, ← e₂, ← e₃]
  split_ifs <;> first
    | exact .inr ⟨rfl, rfl⟩
    | exact .inl ⟨rfl, rfl, .inr ‹_›⟩
    | exact .inl ⟨rfl, rfl, .inl (not_not.1 ‹_›)⟩

/-- The candidate's log covers the candidate's op number at every slot of the scan, once every
slot's log covers its own op number. -/
theorem foldl_scanSlot_logCovers (hslots : ∀ j, LogCovers (msgs j).log (msgs j).opNumber)
    (l : List ReplicaId) (s : MasterViewScan) (hs : LogCovers (msgs s.maxIdx).log s.maxOp) :
    LogCovers (msgs (l.foldl (scanSlot me msgs) s).maxIdx).log
      (l.foldl (scanSlot me msgs) s).maxOp := by
  induction l generalizing s with
  | nil => exact hs
  | cons i l ih =>
    apply ih
    rcases scanSlot_candidate me msgs s i with ⟨h₁, h₂, -⟩ | ⟨h₁, h₂⟩ <;> rw [h₁, h₂]
    exacts [hs, hslots i]

end Scan

namespace Replica

/-- The log invariant of a replica: its log covers its op number, the log of each of its
`DoViewChangeMsgs` slots covers the op number beside it, and the log each of its `StartView`
goroutines reads covers the op number the goroutine holds. -/
structure LogsCover (r : Replica α) : Prop where
  log : LogCovers r.phatlog r.rstate.opNumber
  slots : ∀ j, LogCovers (r.vcstate.doViewChangeMsgs j).log
    (r.vcstate.doViewChangeMsgs j).opNumber
  calls : ∀ c ∈ r.startViewCalls, LogCovers (c.log.read r.phatlog) c.opNumber

/-- The new master's log covers its op number. -/
theorem calcMasterView_logCovers {r : Replica α}
    (h : ∀ j, LogCovers (r.vcstate.doViewChangeMsgs j).log
      (r.vcstate.doViewChangeMsgs j).opNumber) :
    LogCovers r.calcMasterView.phatlog r.calcMasterView.rstate.opNumber := by
  simp only [calcMasterView, setPhatlog_phatlog]
  exact foldl_scanSlot_logCovers _ _ h _ _ ((h 0).mono (Nat.zero_le _))

theorem doCommit_logsCover {r r' : Replica α} {cn : Nat} (h : r.doCommit cn = .ok r')
    (hr : r.LogsCover) : r'.LogsCover := by
  obtain ⟨_, _, _, rfl⟩ := doCommit_frame h
  exact ⟨hr.1, hr.2, hr.3⟩

/-- `addLog` at op number `n + 1`, on a log that covers `n`: the goroutines that still point at
the log read the new entry. -/
theorem addLog_logsCover {r r' : Replica α} {c : α} {n : Nat} (h : r.addLog c = .ok r')
    (hl : LogCovers r.phatlog n) (ho : r.rstate.opNumber = n + 1)
    (hv : ∀ j, LogCovers (r.vcstate.doViewChangeMsgs j).log
      (r.vcstate.doViewChangeMsgs j).opNumber)
    (hc : ∀ c ∈ r.startViewCalls, LogCovers (c.log.read r.phatlog) c.opNumber) :
    r'.LogsCover := by
  obtain ⟨l, hl', rfl⟩ := addLog_eq_ok h
  rw [hl'] at hl hc
  refine ⟨?_, hv, fun c' hc' => ?_⟩
  · show LogCovers (some (l.add r.rstate.opNumber c)) r.rstate.opNumber
    rw [ho]
    exact hl.add c (.inl le_rfl)
  · have hc' := hc c' hc'
    cases e : c'.log with
    | phatlog =>
      rw [e] at hc'
      show LogCovers (some (l.add r.rstate.opNumber c)) c'.opNumber
      rw [ho]
      exact hl.add c (.inr (hc' l rfl).2)
    | detached log =>
      rw [e] at hc'
      exact hc'

theorem prepare_logsCover {r r' : Replica α} {now : Int} {args : PrepareArgs α} {res}
    (hr : r.LogsCover) (h : r.prepare now args = .ok (r', res)) : r'.LogsCover := by
  obtain rfl | rfl | ⟨r₁, -, -, -, h₁, h₂⟩ := prepare_eq_ok h
  · exact hr
  · exact ⟨hr.1, hr.2, hr.3⟩
  · exact doCommit_logsCover h₂ (addLog_logsCover h₁ hr.1 rfl hr.2 hr.3)

theorem commit_logsCover {r r' : Replica α} {now : Int} {args : CommitArgs} {res}
    (hr : r.LogsCover) (h : r.commit now args = .ok (r', res)) : r'.LogsCover := by
  obtain rfl | rfl | ⟨-, h₁⟩ := commit_eq_ok h
  · exact hr
  · exact ⟨hr.1, hr.2, hr.3⟩
  · exact doCommit_logsCover h₁ ⟨hr.1, hr.2, hr.3⟩

theorem heartbeat_logsCover {r r' : Replica α} {now : Int} {replica : ReplicaId} {newTime : Int}
    (hr : r.LogsCover) (h : r.heartbeat now replica newTime = .ok r') : r'.LogsCover := by
  obtain ⟨_, _, _, _, rfl⟩ := heartbeat_eq_ok h
  exact ⟨hr.1, hr.2, hr.3⟩

theorem sendCommitMsgs_logCovers (r : Replica α) : ∀ m ∈ r.sendCommitMsgs, m.body.LogCovers :=
  forall_mem_broadcast.2 fun _ _ => trivial

theorem handlePrepareOK_logsCover {r r' : Replica α} {now : Int} {reply : PrepareReply}
    {sent : List (Msg α)} {b : Bool} (hr : r.LogsCover)
    (h : r.handlePrepareOK now reply = .ok (r', sent, b)) :
    r'.LogsCover ∧ ∀ m ∈ sent, m.body.LogCovers := by
  rcases handlePrepareOK_eq_ok h with ⟨rfl, rfl⟩ |
    ⟨r₁, h₁, ⟨e, rfl⟩ | ⟨-, ⟨rfl, rfl⟩ | ⟨h₂, rfl⟩⟩⟩
  · exact ⟨hr, List.forall_mem_nil _⟩
  · exact ⟨e ▸ heartbeat_logsCover hr h₁, List.forall_mem_nil _⟩
  · have := heartbeat_logsCover hr h₁
    exact ⟨⟨this.1, this.2, this.3⟩, List.forall_mem_nil _⟩
  · have := heartbeat_logsCover hr h₁
    exact ⟨doCommit_logsCover h₂ ⟨this.1, this.2, this.3⟩, sendCommitMsgs_logCovers _⟩

theorem startViewChange_logsCover (r : Replica α) (args : StartViewChangeArgs)
    (hr : r.LogsCover) : (r.startViewChange args).1.LogsCover ∧
      ∀ m ∈ (r.startViewChange args).2, m.body.LogCovers := by
  obtain ⟨hl, ho, -, hv, -, hs⟩ := startViewChange_spec r args
  have hc := (startViewChange_frame r args).2.2.2.2
  refine ⟨⟨hl ▸ ho ▸ hr.1, hv ▸ hr.2, hc ▸ hl ▸ hr.3⟩, fun m hm => ?_⟩
  obtain ⟨-, -, hb | ⟨-, _, hb⟩⟩ := hs m hm <;> rw [hb]
  · trivial
  · exact hr.1

theorem LogsCover.spawnStartView {r : Replica α} (hr : r.LogsCover) :
    r.spawnStartView.LogsCover := by
  refine ⟨hr.1, hr.2, fun c hc => ?_⟩
  rcases List.mem_append.1 hc with hc | hc
  · exact hr.3 c hc
  · rw [List.mem_singleton.1 hc]
    exact hr.1

/-- `DoViewChange` stores the message in a slot, and a new master installs a log that covers its
op number; its goroutines keep reading the logs they read. -/
theorem doViewChange_logsCover {r r' : Replica α} {now : Int} {args : DoViewChangeArgs α}
    (hr : r.LogsCover) (ha : LogCovers args.log args.opNumber)
    (h : r.doViewChange now args = .ok r') : r'.LogsCover := by
  have slots : ∀ j, LogCovers
      ((Function.update r.vcstate.doViewChangeMsgs args.replicaNumber args) j).log
      ((Function.update r.vcstate.doViewChangeMsgs args.replicaNumber args) j).opNumber := by
    intro j
    rcases eq_or_ne j args.replicaNumber with rfl | hj
    · rw [Function.update_same]; exact ha
    · rw [Function.update_noteq hj]; exact hr.2 j
  obtain ⟨-, rfl⟩ | ⟨-, -, rfl⟩ | ⟨-, -, _, h₁, rfl⟩ := doViewChange_eq_ok h
  · exact hr
  · exact ⟨hr.1, slots, hr.3⟩
  · obtain ⟨-, rfl⟩ := becomeMaster_eq_ok.1 h₁
    refine LogsCover.spawnStartView ⟨calcMasterView_logCovers slots, slots, fun c hc => ?_⟩
    obtain ⟨c₀, h₀, -, ho, -, hread⟩ := mem_calcMasterView hc
    rw [hread, ho]
    exact hr.3 c₀ h₀

theorem startView_logsCover {r : Replica α} {now : Int} {args : StartViewArgs α}
    (hr : r.LogsCover) (ha : LogCovers args.log args.opNumber) :
    (r.startView now args).LogsCover :=
  ⟨ha, fun _ => logCovers_none _, fun _ hc => by
    obtain ⟨c₀, h₀, -, ho, -, hread⟩ := @mem_setPhatlog _ r args.log _ hc
    rw [hread, ho]
    exact hr.3 c₀ h₀⟩

theorem runVR_logsCover {r r' : Replica α} {c : α} {sent} (hr : r.LogsCover)
    (h : r.runVR c = .ok (r', sent)) : r'.LogsCover ∧ ∀ m ∈ sent, m.body.LogCovers := by
  simp only [runVR, except_bind_eq_ok, pure_eq_ok, Prod.mk.injEq] at h
  obtain ⟨_, -, _, -, r₁, h₁, rfl, rfl⟩ := h
  exact ⟨addLog_logsCover h₁ hr.1 rfl hr.2 hr.3, forall_mem_broadcast.2 fun _ _ => trivial⟩

/-- A call of a `StartView` goroutine sends the log its pointer reads with the op number it
holds. -/
theorem sendStartView_logsCover {r r' : Replica α} {k : Nat} {dst : ReplicaId} {m : Msg α}
    (hr : r.LogsCover) (h : r.sendStartView k dst = some (r', m)) :
    r'.LogsCover ∧ m.body.LogCovers := by
  obtain ⟨c, hc, -, rfl, rfl⟩ := sendStartView_eq_some h
  refine ⟨⟨hr.1, hr.2, fun c' hc' => ?_⟩, hr.3 c hc⟩
  rcases mem_set_tried hc' with hc' | rfl
  exacts [hr.3 c' hc', hr.3 c hc]

/-- Every handler keeps the log invariant, given a message whose log covers its op number; what
it sends carries logs that cover theirs. -/
theorem receive_logsCover {r r' : Replica α} {now : Int} {m : Msg α} {sent g}
    (hr : r.LogsCover) (hm : m.body.LogCovers) (h : r.receive now m = .ok (r', sent, g)) :
    r'.LogsCover ∧ ∀ m' ∈ sent, m'.body.LogCovers := by
  rcases receive_eq_ok h with ⟨_, _, -, h₁, rfl | ⟨_, -, rfl⟩⟩ | ⟨_, _, -, h₁⟩ |
    ⟨_, _, -, h₁, rfl | ⟨_, -, rfl⟩⟩ | ⟨_, -, h₁, rfl⟩ | ⟨_, -, rfl, rfl⟩ |
    ⟨args, hb, h₁, rfl⟩ | ⟨args, hb, rfl, rfl⟩
  · exact ⟨prepare_logsCover hr h₁, List.forall_mem_nil _⟩
  · exact ⟨prepare_logsCover hr h₁, List.forall_mem_singleton.2 trivial⟩
  · exact handlePrepareOK_logsCover hr h₁
  · exact ⟨commit_logsCover hr h₁, List.forall_mem_nil _⟩
  · exact ⟨commit_logsCover hr h₁, List.forall_mem_singleton.2 trivial⟩
  · exact ⟨heartbeat_logsCover hr h₁, List.forall_mem_nil _⟩
  · exact startViewChange_logsCover r _ hr
  · rw [hb] at hm
    exact ⟨doViewChange_logsCover hr hm h₁, List.forall_mem_nil _⟩
  · rw [hb] at hm
    exact ⟨startView_logsCover hr hm, List.forall_mem_nil _⟩

theorem runAsReplica_logsCover (i : ReplicaId) (now : Int) :
    (runAsReplica i now : Replica α).LogsCover := by
  have init : (replicaInit i now : Replica α).LogsCover :=
    ⟨logCovers_emptyLog, fun _ => logCovers_none _, fun _ h => nomatch h⟩
  refine runAsReplica_induction _ i now init fun _ h => ?_
  obtain ⟨-, rfl⟩ := becomeMaster_eq_ok.1 h
  exact ⟨init.1, init.2, init.3⟩

end Replica

namespace World

/-- Every replica keeps the log invariant, and every `DoViewChange` and `StartView` in flight
carries a log that covers the op number beside it. -/
structure LogsCover (w : World α) : Prop where
  replicas : ∀ i, (w.replicas i).LogsCover
  msgs : ∀ m ∈ w.msgs, m.body.LogCovers

theorem LogsCover.exec {w w' : World α} {a : Action α} (hw : w.LogsCover)
    (h : w.exec a = some w') : w'.LogsCover :=
  have ⟨h₁, h₂⟩ := exec_preserves (fun _ r => r.LogsCover) (·.body.LogCovers) ⟨hw.1, hw.2⟩ h
    (fun m hm _ _ _ h₁ => Replica.receive_logsCover (hw.1 _) (hw.2 m hm) h₁)
    (fun i => ⟨⟨(hw.1 i).1, (hw.1 i).2, (hw.1 i).3⟩, forall_mem_broadcast.2 fun _ _ => trivial⟩)
    (fun i => ⟨⟨(hw.1 i).1, (hw.1 i).2, (hw.1 i).3⟩, Replica.sendCommitMsgs_logCovers _⟩)
    (fun i _ _ _ h₁ => Replica.runVR_logsCover (hw.1 i) h₁)
    (fun i _ _ _ _ h₁ => Replica.sendStartView_logsCover (hw.1 i) h₁)
  ⟨h₁, h₂⟩

theorem reachable_logsCover {w : World α} (h : Reachable w) : w.LogsCover := by
  induction h with
  | init skew h => exact ⟨fun i => Replica.runAsReplica_logsCover i _, List.forall_mem_nil _⟩
  | step a _ hw ih => exact ih.exec hw

/-- In every reachable world, each replica's log, where it has one, holds entries exactly at
`1 .. MaxIndex`, with `MaxIndex` at least the replica's op number; so does the log each of its
`StartView` goroutines reads, with the op number the goroutine holds, and the log each
`DoViewChange` and `StartView` in flight carries, with the op number it carries. -/
theorem reachable_logCovers {w : World α} (h : Reachable w) :
    (∀ i, LogCovers (w.replicas i).phatlog (w.replicas i).rstate.opNumber) ∧
      (∀ i, ∀ c ∈ (w.replicas i).startViewCalls,
        LogCovers (c.log.read (w.replicas i).phatlog) c.opNumber) ∧
      ∀ m ∈ w.msgs, m.body.LogCovers :=
  ⟨fun i => ((reachable_logsCover h).1 i).1, fun i => ((reachable_logsCover h).1 i).3,
    (reachable_logsCover h).2⟩

end World

/-- Replica 0 times out of view 0 at its deadline and sends replica 1, master of view 1, its
`DoViewChange` with its empty log at op number `0`. Replica 1 installs that log, and `RunVR(7)`
adds op `1` to it before its `StartView` goroutine calls replica 2, which takes the message. -/
def startViewRaceRun : List (Action Nat) :=
  [.tick 900, .masterNeedsRenewal 0, .tick 900, .replicaTimeout 0, .deliver 2, .deliver 4,
    .deliver 6, .runVR 1 7, .sendStartView 1 0 2, .deliver 9]

/-- After `startViewRaceRun` replica 2 holds the log with op `1` in it beside `OpNumber = 0`:
its log covers its op number, and goes past it. -/
theorem reachable_logCovers_race :
    ∃ w, (World.init noSkew noSkew_le : World Nat).timedRun startViewRaceRun = some w ∧
      TimedReachable w ∧ (w.replicas 2).rstate.opNumber = 0 ∧
      (w.replicas 2).phatlog.map Log.maxIndex = some 1 ∧
      (∀ i, LogCovers (w.replicas i).phatlog (w.replicas i).rstate.opNumber) ∧
      (∀ i, ∀ c ∈ (w.replicas i).startViewCalls,
        LogCovers (c.log.read (w.replicas i).phatlog) c.opNumber) ∧
      ∀ m ∈ w.msgs, m.body.LogCovers :=
  have hw := @TimedReachable.timedRun _ _ _ startViewRaceRun (.init noSkew noSkew_le) rfl
  ⟨_, rfl, hw, rfl, rfl, World.reachable_logCovers hw.reachable⟩

end GoPhat
