import GoPhat.VR.Addressing
import Mathlib.Data.Fintype.Card
import Mathlib.Data.Nat.Bitwise

/-!
# Counting replies

`handlePrepareOK`, `StartViewChange` and `DoViewChange` count the replicas they hear from
against `F`. A bit vector marks who has been counted (`Replies`, `StartViewReplies`,
`DoViewReplies`), and a counter (`A`, `StartViews`, `DoViews`) is raised with each new mark. A
replica already marked is ignored. `MasterState.Reset` clears `Replies` and `A` together, and
`resetVcstate` the other two pairs. So each counter is the number of replicas marked in its bit
vector. No message a replica receives carries its own replica number (`reachable_addressed`),
so no replica is ever marked in its own vectors: a count that reaches `F` counts `F` other
replicas, and no count passes `NREPLICAS` (`reachable_counted`).
-/

namespace GoPhat

variable {α : Type}

/-- The replicas marked in a reply bit vector. -/
def repliers (bits : Nat) : Finset ReplicaId := Finset.univ.filter fun n => replied bits n

theorem replied_eq_testBit (bits : Nat) (n : ReplicaId) : replied bits n = bits.testBit n.val := by
  rw [replied, Nat.one_shiftLeft, Nat.two_pow_and]
  cases bits.testBit n.val <;> simp

theorem replied_markReplied (bits : Nat) (n k : ReplicaId) :
    replied (markReplied bits n) k = (replied bits k || decide (k = n)) := by
  simp only [replied_eq_testBit, markReplied, Nat.testBit_or, Nat.one_shiftLeft,
    Nat.testBit_two_pow, Fin.ext_iff, eq_comm]

@[simp] theorem repliers_zero : repliers 0 = ∅ := by
  ext n
  simp [repliers, replied_eq_testBit, Nat.zero_testBit]

theorem repliers_markReplied (bits : Nat) (n : ReplicaId) :
    repliers (markReplied bits n) = insert n (repliers bits) := by
  ext k
  simp [repliers, replied_markReplied, or_comm]

/-- A counter and the bit vector of the replicas it has counted, at replica `me`: the counter is
the number of replicas marked, and `me` is not one of them. -/
structure Tally (count bits : Nat) (me : ReplicaId) : Prop where
  count : count = (repliers bits).card
  notSelf : replied bits me = false

theorem Tally.zero (me : ReplicaId) : Tally 0 0 me :=
  ⟨by simp, by simp [replied_eq_testBit, Nat.zero_testBit]⟩

theorem Tally.mark {count bits : Nat} {me n : ReplicaId} (h : Tally count bits me)
    (hn : replied bits n = false) (hne : n ≠ me) : Tally (count + 1) (markReplied bits n) me := by
  refine ⟨?_, by rw [replied_markReplied, h.2]; simpa using hne.symm⟩
  rw [repliers_markReplied, Finset.card_insert_of_not_mem (by simp [repliers, hn]), h.1]

theorem Tally.le {count bits : Nat} {me : ReplicaId} (h : Tally count bits me) :
    count ≤ nReplicas := by
  have hsub : repliers bits ⊆ Finset.univ.erase me := fun n hn =>
    Finset.mem_erase.2 ⟨fun he => by simp [repliers, he, h.2] at hn, Finset.mem_univ _⟩
  calc count = (repliers bits).card := h.1
    _ ≤ (Finset.univ.erase me).card := Finset.card_le_card hsub
    _ = nReplicas := by simp [Finset.card_erase_of_mem]

namespace Replica

/-- The three tallies of a replica, at its own replica number. -/
structure Counted (r : Replica α) : Prop where
  replies : Tally r.mstate.a r.mstate.replies r.rstate.replicaNumber
  startViews : Tally r.vcstate.startViews r.vcstate.startViewReplies r.rstate.replicaNumber
  doViews : Tally r.vcstate.doViews r.vcstate.doViewReplies r.rstate.replicaNumber

theorem doCommit_counted {r r' : Replica α} {cn : Nat} (h : r.doCommit cn = .ok r')
    (hr : r.Counted) : r'.Counted := by
  obtain ⟨_, _, _, rfl⟩ := doCommit_frame h
  exact ⟨hr.1, hr.2, hr.3⟩

theorem prepare_counted {r r' : Replica α} {now : Int} {args : PrepareArgs α} {res}
    (hr : r.Counted) (h : r.prepare now args = .ok (r', res)) : r'.Counted := by
  obtain rfl | rfl | ⟨r₁, -, -, -, h₁, h₂⟩ := prepare_eq_ok h
  · exact hr
  · exact ⟨hr.1, hr.2, hr.3⟩
  · obtain ⟨_, -, rfl⟩ := addLog_eq_ok h₁
    exact doCommit_counted h₂ ⟨hr.1, hr.2, hr.3⟩

theorem commit_counted {r r' : Replica α} {now : Int} {args : CommitArgs} {res}
    (hr : r.Counted) (h : r.commit now args = .ok (r', res)) : r'.Counted := by
  obtain rfl | rfl | ⟨-, h₁⟩ := commit_eq_ok h
  · exact hr
  · exact ⟨hr.1, hr.2, hr.3⟩
  · exact doCommit_counted h₁ ⟨hr.1, hr.2, hr.3⟩

theorem heartbeat_counted {r r' : Replica α} {now : Int} {replica : ReplicaId} {newTime : Int}
    (hr : r.Counted) (h : r.heartbeat now replica newTime = .ok r') : r'.Counted := by
  obtain ⟨_, _, _, _, rfl⟩ := heartbeat_eq_ok h
  exact ⟨hr.1, hr.2, hr.3⟩

/-- `handlePrepareOK` counts the replier only if it has not counted it yet. -/
theorem handlePrepareOK_counted {r r' : Replica α} {now : Int} {reply : PrepareReply}
    {sent : List (Msg α)} {b : Bool} (hr : r.Counted)
    (hne : reply.replicaNumber ≠ r.rstate.replicaNumber)
    (h : r.handlePrepareOK now reply = .ok (r', sent, b)) : r'.Counted := by
  rcases handlePrepareOK_eq_ok h with ⟨rfl, -⟩ | ⟨r₁, h₁, ⟨rfl, -⟩ | ⟨hn, h₂⟩⟩
  · exact hr
  · exact heartbeat_counted hr h₁
  have h₃ := heartbeat_counted hr h₁
  have h₄ : Counted { r₁ with
      mstate.replies := markReplied r₁.mstate.replies reply.replicaNumber
      mstate.a := r₁.mstate.a + 1 } :=
    ⟨h₃.1.mark (Bool.eq_false_iff.2 hn) (heartbeat_replicaNumber h₁ ▸ hne), h₃.2, h₃.3⟩
  rcases h₂ with ⟨rfl, -⟩ | ⟨h₂, -⟩
  exacts [h₄, doCommit_counted h₂ h₄]

/-- `StartViewChange` counts the sender only if it has not counted it yet. -/
theorem startViewChange_counted (r : Replica α) {args : StartViewChangeArgs} (hr : r.Counted)
    (hne : args.replicaNumber ≠ r.rstate.replicaNumber) : (r.startViewChange args).1.Counted := by
  rw [startViewChange]
  by_cases h₁ : r.rstate.view > args.view
  · rw [if_pos h₁]; exact hr
  by_cases h₂ : replied r.vcstate.startViewReplies args.replicaNumber
  · rw [if_neg h₁, if_pos h₂]; exact hr
  rw [if_neg h₁, if_neg h₂]
  have hm := hr.2.mark (Bool.eq_false_iff.2 h₂) hne
  by_cases h₃ : r.rstate.view < args.view <;> simp only [h₃, if_true, if_false] <;>
    exact ⟨hr.1, hm, hr.3⟩

/-- `DoViewChange` counts the sender only if it has not counted it yet, and a new master starts
with no `PrepareOK` counted. -/
theorem doViewChange_counted {r r' : Replica α} {now : Int} {args : DoViewChangeArgs α}
    (hr : r.Counted) (hne : args.replicaNumber ≠ r.rstate.replicaNumber)
    (h : r.doViewChange now args = .ok r') : r'.Counted := by
  obtain ⟨-, rfl⟩ | ⟨h₁, -, rfl⟩ | ⟨h₁, -, _, h₂, rfl⟩ := doViewChange_eq_ok h
  · exact hr
  · exact ⟨hr.1, hr.2, hr.3.mark (Bool.eq_false_iff.2 h₁) hne⟩
  · obtain ⟨-, rfl⟩ := becomeMaster_eq_ok.1 h₂
    exact ⟨.zero _, hr.2, hr.3.mark (Bool.eq_false_iff.2 h₁) hne⟩

theorem runVR_counted {r r' : Replica α} {c : α} {sent} (hr : r.Counted)
    (h : r.runVR c = .ok (r', sent)) : r'.Counted := by
  simp only [runVR, except_bind_eq_ok, pure_eq_ok, Prod.mk.injEq] at h
  obtain ⟨_, -, _, -, r₁, h₁, rfl, -⟩ := h
  obtain ⟨_, -, rfl⟩ := addLog_eq_ok h₁
  exact ⟨.zero _, hr.2, hr.3⟩

/-- Every handler keeps the tallies, given a message that does not carry the receiver's own
replica number. -/
theorem receive_counted {r r' : Replica α} {now : Int} {m : Msg α} {sent g}
    (hr : r.Counted) (hne : ∀ n ∈ m.body.replicaNumber?, n ≠ r.rstate.replicaNumber)
    (h : r.receive now m = .ok (r', sent, g)) : r'.Counted := by
  rcases receive_eq_ok h with ⟨_, _, -, h₁, -⟩ | ⟨_, _, hb, h₁⟩ | ⟨_, _, -, h₁, -⟩ |
    ⟨_, -, h₁, -⟩ | ⟨_, hb, rfl, -⟩ | ⟨_, hb, h₁, -⟩ | ⟨_, -, rfl, -⟩
  · exact prepare_counted hr h₁
  · rw [hb] at hne
    exact handlePrepareOK_counted hr (hne _ rfl) h₁
  · exact commit_counted hr h₁
  · exact heartbeat_counted hr h₁
  · rw [hb] at hne
    exact startViewChange_counted r hr (hne _ rfl)
  · rw [hb] at hne
    exact doViewChange_counted hr (hne _ rfl) h₁
  · exact ⟨hr.1, .zero _, .zero _⟩

theorem runAsReplica_counted (i : ReplicaId) (now : Int) :
    (runAsReplica i now : Replica α).Counted := by
  refine runAsReplica_induction _ i now ⟨.zero _, .zero _, .zero _⟩ fun _ h => ?_
  obtain ⟨-, rfl⟩ := becomeMaster_eq_ok.1 h
  exact ⟨.zero _, .zero _, .zero _⟩

end Replica

namespace World

theorem Counted.exec {w w' : World α} {a : Action α} (ha : w.Addressed)
    (hw : ∀ i, (w.replicas i).Counted) (h : w.exec a = some w') :
    ∀ i, (w'.replicas i).Counted :=
  (exec_preserves (fun _ r => r.Counted) (fun _ => True) ⟨hw, fun _ _ => trivial⟩ h
    (fun m hm _ _ _ h₁ => ⟨Replica.receive_counted (hw _)
      (fun n hn => ((ha.2 m hm).2 n hn).trans_ne ((ha.2 m hm).1.trans_eq (ha.1 m.dst).symm)) h₁,
        fun _ _ => trivial⟩)
    (fun i => ⟨⟨(hw i).1, (hw i).2, (hw i).3⟩, fun _ _ => trivial⟩)
    (fun i => ⟨⟨(hw i).1, (hw i).2, (hw i).3⟩, fun _ _ => trivial⟩)
    (fun i _ _ _ h₁ => ⟨Replica.runVR_counted (hw i) h₁, fun _ _ => trivial⟩)
    (fun i _ _ _ _ h₁ => by
      obtain ⟨_, -, -, rfl, -⟩ := Replica.sendStartView_eq_some h₁
      exact ⟨⟨(hw i).1, (hw i).2, (hw i).3⟩, trivial⟩)).1

theorem reachable_counted_replicas {w : World α} (h : Reachable w) :
    ∀ i, (w.replicas i).Counted := by
  induction h with
  | init skew h => exact fun i => Replica.runAsReplica_counted i _
  | step a hw₀ hw ih => exact Counted.exec (reachable_addressed hw₀) ih hw

/-- In every reachable world, at every replica `i`, `A`, `StartViews` and `DoViews` are the
numbers of replicas marked in `Replies`, `StartViewReplies` and `DoViewReplies`, and `i` is
marked in none of them. -/
theorem reachable_counted {w : World α} (h : Reachable w) (i : ReplicaId) :
    Tally (w.replicas i).mstate.a (w.replicas i).mstate.replies i ∧
      Tally (w.replicas i).vcstate.startViews (w.replicas i).vcstate.startViewReplies i ∧
      Tally (w.replicas i).vcstate.doViews (w.replicas i).vcstate.doViewReplies i := by
  obtain ⟨h₁, h₂, h₃⟩ := reachable_counted_replicas h i
  rw [(reachable_addressed h).1 i] at h₁ h₂ h₃
  exact ⟨h₁, h₂, h₃⟩

/-- Replica 0 times out of view 0, and replicas 1 and 2 have each counted its
`StartViewChange`. -/
theorem reachable_counted_viewOne :
    ∃ w : World Nat, (World.init noSkew noSkew_le).run
        [.tick 900, .masterNeedsRenewal 0, .tick 900, .replicaTimeout 0, .deliver 2, .deliver 3] =
          some w ∧
      Reachable w ∧ (w.replicas 1).vcstate.startViews = 1 ∧
      Tally (w.replicas 1).mstate.a (w.replicas 1).mstate.replies 1 ∧
      Tally (w.replicas 1).vcstate.startViews (w.replicas 1).vcstate.startViewReplies 1 ∧
      Tally (w.replicas 1).vcstate.doViews (w.replicas 1).vcstate.doViewReplies 1 :=
  have hw := @Reachable.run Nat _ _
    [.tick 900, .masterNeedsRenewal 0, .tick 900, .replicaTimeout 0, .deliver 2, .deliver 3]
    (.init noSkew noSkew_le) rfl
  ⟨_, rfl, hw, rfl, reachable_counted hw 1⟩

end World

end GoPhat
