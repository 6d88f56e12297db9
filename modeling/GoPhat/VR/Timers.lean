import GoPhat.VR.Addressing

/-!
# Timers within the lease

Every handler that arms a timer arms it from `time.Now()`, at most `LEASE` ahead: `Prepare`,
`Commit` and `StartView` restart the lease timer for `LEASE`, `ReplicaTimeout` restarts it
after `PrepareViewChange`, and `BecomeMaster` arms both timers for `LEASE - MAX_CLOCK_DRIFT`
and half of it. `Heartbeat`, the one handler that would arm them from the followers' grants,
never completes, since its map is nil. So in every timed run each live replica keeps its lease
timer armed, due at most `LEASE` after its clock and, as time does not pass a pending
deadline, not before it.
-/

namespace GoPhat

variable {α : Type}

namespace Replica

/-- Replica `r`'s timers at local time `c`: the lease timer is armed, and each pending deadline,
of the lease timer or of the renewal timer, lies between `c` and `LEASE` after it. -/
structure Armed (r : Replica α) (c : Int) : Prop where
  armed : r.rstate.timer.isSome
  within : ∀ t ∈ r.rstate.timer.toList ++ r.mstate.timer.toList, c ≤ t ∧ t ≤ c + lease

variable {r r' : Replica α} {c : Int}

/-- A handler that leaves the lease timer and stops or keeps the renewal timer keeps the
bound. -/
theorem Armed.of_timers (h : r.Armed c) (h₁ : r'.rstate.timer = r.rstate.timer)
    (h₂ : r'.mstate.timer = r.mstate.timer ∨ r'.mstate.timer = none) : r'.Armed c := by
  refine ⟨h₁ ▸ h.armed, fun t ht => h.within t ?_⟩
  rcases h₂ with h₂ | h₂ <;> simp_all

/-- `ExtendLease(time.Now().Add(x))` for `0 ≤ x ≤ LEASE`, the renewal timer kept. -/
theorem Armed.extendLease (h : r.Armed c) {x : Int} (hx : 0 ≤ x ∧ x ≤ lease)
    (h₁ : r'.rstate.timer = some (c + x)) (h₂ : r'.mstate.timer = r.mstate.timer) :
    r'.Armed c := by
  refine ⟨by simp [h₁], fun t ht => ?_⟩
  rw [h₁, h₂, List.mem_append] at ht
  rcases ht with ht | ht
  · obtain rfl := List.mem_singleton.1 (by simpa using ht)
    omega
  · exact h.within t (List.mem_append_right _ ht)

/-- `BecomeMaster` arms both timers within the lease. -/
theorem becomeMaster_armed (h : r.becomeMaster c = .ok r') : r'.Armed c := by
  obtain ⟨-, rfl⟩ := becomeMaster_eq_ok.1 h
  have hq : (c + (lease - maxClockDrift) - c).tdiv renewFactor = 900 := by
    rw [show c + (lease - maxClockDrift) - c = 1800 by simp only [lease, maxClockDrift]; omega]
    rfl
  refine ⟨rfl, fun t ht => ?_⟩
  simp only [ReplicaState.extendLease, MasterState.extendNeedsRenewal, MasterState.reset, hq,
    Option.toList_some, List.mem_append, List.mem_singleton] at ht
  rcases ht with rfl | rfl <;> simp only [lease, maxClockDrift] <;> omega

theorem startViewChange_timers (r : Replica α) (args : StartViewChangeArgs) :
    (r.startViewChange args).1.rstate.timer = r.rstate.timer ∧
      (r.startViewChange args).1.mstate = r.mstate := by
  rw [startViewChange]
  by_cases h₁ : r.rstate.view > args.view
  · simp [h₁]
  by_cases h₂ : replied r.vcstate.startViewReplies args.replicaNumber
  · simp [h₁, h₂]
  rw [if_neg h₁, if_neg h₂]
  by_cases h₃ : r.rstate.view < args.view <;> simp [h₃]

/-- Every handler a message reaches keeps the bound at the clock it runs at. -/
theorem receive_armed {m : Msg α} {sent g} (hh : r.mstate.heartbeats = none) (ha : r.Armed c)
    (h : r.receive c m = .ok (r', sent, g)) : r'.Armed c := by
  have hx : (0 : Int) ≤ lease ∧ lease ≤ lease := ⟨by decide, le_rfl⟩
  rcases receive_eq_ok h with ⟨args, res, -, hp, -⟩ | ⟨reply, b, -, hp⟩ |
    ⟨args, res, -, hp, -⟩ | ⟨reply, -, hp, -⟩ | ⟨args, -, rfl, -⟩ | ⟨args, -, hp, -⟩ |
    ⟨args, -, rfl, -⟩
  · rcases prepare_eq_ok hp with rfl | rfl | ⟨r₁, -, -, -, ha₁, hd⟩
    · exact ha
    · exact ha.of_timers rfl (.inl rfl)
    · obtain ⟨_, _, _, rfl⟩ := doCommit_frame hd
      obtain ⟨_, -, rfl⟩ := addLog_eq_ok ha₁
      exact ha.extendLease hx rfl rfl
  · obtain ⟨rfl, -⟩ := Prod.mk.inj_iff.1 (handlePrepareOK_nil hh hp)
    exact ha
  · rcases commit_eq_ok hp with rfl | rfl | ⟨-, hd⟩
    · exact ha
    · exact ha.of_timers rfl (.inl rfl)
    · obtain ⟨_, _, _, rfl⟩ := doCommit_frame hd
      exact ha.extendLease hx rfl rfl
  · rw [heartbeat_nil hh] at hp
    cases hp
  · obtain ⟨h₁, h₂⟩ := startViewChange_timers r args
    exact ha.of_timers h₁ (.inl (by rw [h₂]))
  · rcases doViewChange_eq_ok hp with ⟨-, rfl⟩ | ⟨-, -, rfl⟩ | ⟨-, -, _, hb, rfl⟩
    · exact ha
    · exact ha.of_timers rfl (.inl rfl)
    · have := becomeMaster_armed hb
      exact ⟨this.1, this.2⟩
  · exact ha.extendLease hx rfl rfl

theorem runVR_timers {cmd : α} {sent} (h : r.runVR cmd = .ok (r', sent)) :
    r'.rstate.timer = r.rstate.timer ∧ r'.mstate.timer = r.mstate.timer := by
  simp only [runVR, except_bind_eq_ok, pure_eq_ok, Prod.mk.injEq] at h
  obtain ⟨_, -, _, -, r₁, h₁, rfl, rfl⟩ := h
  obtain ⟨_, -, rfl⟩ := addLog_eq_ok h₁
  exact ⟨rfl, rfl⟩

end Replica

namespace World

/-- A step other than `tick` keeps every clock and ends processes only. -/
theorem exec_clock {w w' : World α} {a : Action α} (h : w.exec a = some w')
    (ha : ∀ d, a ≠ .tick d) : w'.clock = w.clock ∧ ∀ i, w'.alive i → w.alive i := by
  cases a with
  | tick d => exact absurd rfl (ha d)
  | _ =>
    simp only [World.exec] at h
    repeat' split at h
    all_goals first
      | (obtain rfl := Option.some.inj h
         exact ⟨rfl, fun i hi => by simp_all [World.halt, World.update, Function.update_apply]⟩)
      | cases h

/-- The timers of every live replica, at its own clock. -/
def Armed (w : World α) : Prop := ∀ i, w.alive i → (w.replicas i).Armed (w.clock i)

theorem init_armed (skew : ReplicaId → Int)
    (h : ∀ i, -maxClockDrift ≤ skew i ∧ skew i ≤ maxClockDrift) :
    (World.init skew h : World α).Armed :=
  fun i _ => by
    have hc : (World.init skew h : World α).clock i = skew i := by simp [World.clock, World.init]
    rw [hc]
    refine runAsReplica_induction (fun r => r.Armed (skew i)) i (skew i) ⟨rfl, fun t ht => ?_⟩
      fun _ => Replica.becomeMaster_armed
    obtain rfl : t = skew i + lease := by simpa [replicaInit] using ht
    simp only [lease]
    omega

/-- Every step a timed run may take keeps the timers of every live replica within the lease. -/
theorem Armed.exec {w w' : World α} {a : Action α} (hw : w.Armed) (hu : w.Uncommitted)
    (ht : w.timely a) (h : w.exec a = some w') : w'.Armed := by
  by_cases hd : ∃ d, a = .tick d
  · obtain ⟨d, rfl⟩ := hd
    obtain rfl := Option.some.inj h
    intro i hi
    have hi₀ : w.alive i := hi
    have hi' := List.all_eq_true.1 ht i (List.mem_finRange i)
    simp only [hi₀, Bool.not_true, Bool.false_or, List.all_eq_true, decide_eq_true_eq] at hi'
    have hc : ({ w with now := w.now + d } : World α).clock i = w.clock i + d := by
      simp only [World.clock]; omega
    refine ⟨(hw i hi).armed, fun t ht => ⟨hc ▸ hi' t ht, ?_⟩⟩
    rw [hc]
    have := ((hw i hi).within t ht).2
    omega
  obtain ⟨hc, ha⟩ := exec_clock h fun d e => hd ⟨d, e⟩
  intro j hj
  rw [hc]
  have hw' := hw j (ha j hj)
  rcases exec_cases h with ⟨hr, -⟩ | ⟨i, r, sent, hr, -, hs⟩
  · rwa [hr]
  rw [hr, Function.update_apply]
  split_ifs with hji
  · subst hji
    rcases hs with ⟨k, m, g, -, -, rfl, hrecv⟩ | ⟨-, rfl, -⟩ | ⟨-, rfl, -⟩ |
      ⟨c, -, hrun⟩ | ⟨k, dst, m, -, hsend, -⟩
    · exact Replica.receive_armed (hu.replicas m.dst).heartbeats hw' hrecv
    · exact hw'.extendLease ⟨by decide, le_rfl⟩ rfl rfl
    · exact hw'.of_timers rfl (.inr rfl)
    · obtain ⟨h₁, h₂⟩ := Replica.runVR_timers hrun
      exact hw'.of_timers h₁ (.inl h₂)
    · obtain ⟨_, -, -, rfl, -⟩ := Replica.sendStartView_eq_some hsend
      exact hw'.of_timers rfl (.inl rfl)
  · exact hw'

theorem timedReachable_armed {w : World α} (h : TimedReachable w) : w.Armed := by
  induction h with
  | init skew h => exact init_armed skew h
  | step a hr ht hw ih => exact ih.exec (reachable_uncommitted hr.reachable) ht hw

/-- In every timed run, every live replica has its lease timer armed, and each of its pending
deadlines, of the lease timer and of the renewal timer, is at least its clock and at most
`LEASE` after it: a replica that hears nothing more starts a view change within `LEASE`. -/
theorem timedReachable_timers_within {w : World α} (h : TimedReachable w) {i : ReplicaId}
    (ha : w.alive i) : (w.replicas i).rstate.timer.isSome ∧
      ∀ t ∈ w.deadlines i, w.clock i ≤ t ∧ t ≤ w.clock i + lease :=
  ⟨(timedReachable_armed h i ha).armed, (timedReachable_armed h i ha).within⟩

/-- Replica 1 has taken the master's first `Prepare`, which restarted its lease timer; the
master has both timers armed. -/
theorem timedReachable_timers_within_prepared :
    ∃ w : World Nat, (World.init noSkew noSkew_le).timedRun [.runVR 0 7, .deliver 0] = some w ∧
      TimedReachable w ∧ w.alive 0 ∧ (w.deadlines 0).length = 2 ∧
      (w.replicas 0).rstate.timer.isSome ∧
      ∀ t ∈ w.deadlines 0, w.clock 0 ≤ t ∧ t ≤ w.clock 0 + lease :=
  have hw := @TimedReachable.timedRun _ _ _ [.runVR 0 7, .deliver 0] (.init noSkew noSkew_le) rfl
  ⟨_, rfl, hw, rfl, rfl, timedReachable_timers_within hw rfl⟩

end World

end GoPhat
