import GoPhat.VR.ViewChange

/-!
# The replica group

The `NREPLICAS+1` replicas and the messages in flight. A step is one handler run to
completion on one replica: a message taken from the soup (which never loses an element, so
messages may be delayed, reordered, duplicated or never delivered), a timer firing, a call of
`RunVR`, one call made by a `StartView` goroutine, a crash, or time passing. A fault ends the
replica's process. Real time `now` is shared; each replica reads it through a clock offset of
at most `MAX_CLOCK_DRIFT`.

`Reachable` lets timers fire at any moment; `TimedReachable` adds the deadlines: a timer
fires only once its deadline has passed, and time may not pass a pending deadline of a live
replica. Every timed run is a run.
-/

namespace GoPhat

variable {α : Type}

/-- `ReplicaInit` at local time `now`, when its listener starts. -/
def replicaInit (i : ReplicaId) (now : Int) : Replica α where
  rstate :=
    { view := 0, opNumber := 0, commitNumber := 0, replicaNumber := i, status := .normal
      timer := some (now + lease) }
  mstate := { a := 0, replies := 0, timer := none, heartbeats := none }
  vcstate := {}
  phatlog := some Log.emptyLog
  history := []
  masterLease := none

/-- `RunAsReplica`. `BecomeMaster`'s assert holds here, since it is called only when
`IsMaster()`. -/
def runAsReplica (i : ReplicaId) (now : Int) : Replica α :=
  let r := replicaInit i now
  if r.isMaster then
    match r.becomeMaster now with
    | .ok r' => r'
    | .error _ => r
  else r

/-- `RunAsReplica` starts every replica with the empty log at op number `0`. -/
theorem runAsReplica_log (i : ReplicaId) (now : Int) :
    (runAsReplica i now : Replica α).phatlog = some Log.emptyLog ∧
      (runAsReplica i now : Replica α).rstate.opNumber = 0 ∧
      (runAsReplica i now : Replica α).rstate.commitNumber = 0 := by
  unfold runAsReplica
  dsimp only
  split_ifs
  split
  · obtain ⟨-, rfl⟩ := Replica.becomeMaster_eq_ok.1 ‹_›
    exact ⟨rfl, rfl, rfl⟩
  all_goals exact ⟨rfl, rfl, rfl⟩

/-- What the destination of a message does with it: its new state, what it sends, and the
lease it grants with a `Prepare` or `Commit` reply (the view it grants in, and the deadline). -/
def Replica.receive (r : Replica α) (now : Int) (m : Msg α) :
    Except Fault (Replica α × List (Msg α) × Option (Nat × Int)) :=
  match m.body with
  | .prepare args => do
    let (r, res) ← r.prepare now args
    match res with
    | .ok reply =>
      pure (r, [⟨m.dst, m.src, .prepareReply reply⟩], some (reply.view, reply.lease))
    | .error _ => pure (r, [], none)
  | .prepareReply reply => do
    let (r, sent, _) ← r.handlePrepareOK now reply
    pure (r, sent, none)
  | .commit args => do
    let (r, res) ← r.commit now args
    match res with
    | .ok reply =>
      pure (r, [⟨m.dst, m.src, .heartbeatReply reply⟩], some (args.view, reply.lease))
    | .error _ => pure (r, [], none)
  | .heartbeatReply reply => do
    let r ← r.heartbeat now reply.replicaNumber reply.lease
    pure (r, [], none)
  | .startViewChange args => pure ((r.startViewChange args).1, (r.startViewChange args).2, none)
  | .doViewChange args => do
    let r ← r.doViewChange now args
    pure (r, [], none)
  | .startView args => pure (r.startView now args, [], none)

/-- Clocks that all read real time. -/
def noSkew : ReplicaId → Int := fun _ => 0

theorem noSkew_le : ∀ i, -maxClockDrift ≤ noSkew i ∧ noSkew i ≤ maxClockDrift := by decide

/-- The replicas, the messages in flight and the clocks. `grants` is a ghost record of every
lease a replica returned: who granted it, in which view, and until when. -/
structure World (α : Type) where
  replicas : ReplicaId → Replica α
  alive : ReplicaId → Bool
  msgs : List (Msg α)
  now : Nat
  skew : ReplicaId → Int
  skew_le : ∀ i, -maxClockDrift ≤ skew i ∧ skew i ≤ maxClockDrift
  grants : List (ReplicaId × Nat × Int)

namespace World

/-- All replicas start at real time `0`. -/
def init (skew : ReplicaId → Int)
    (h : ∀ i, -maxClockDrift ≤ skew i ∧ skew i ≤ maxClockDrift) : World α where
  replicas i := runAsReplica i (skew i)
  alive _ := true
  msgs := []
  now := 0
  skew := skew
  skew_le := h
  grants := []

/-- Replica `i`'s reading of `time.Now()`. -/
def clock (w : World α) (i : ReplicaId) : Int := w.now + w.skew i

/-- Replica `i` finished a handler in state `r`, having sent `sent`. -/
def update (w : World α) (i : ReplicaId) (r : Replica α) (sent : List (Msg α)) : World α :=
  { w with replicas := Function.update w.replicas i r, msgs := w.msgs ++ sent }

/-- Replica `i`'s process has ended. -/
def halt (w : World α) (i : ReplicaId) : World α :=
  { w with alive := Function.update w.alive i false }

end World

/-- What can happen next. -/
inductive Action (α : Type)
  | deliver (k : Nat)
  | replicaTimeout (i : ReplicaId)
  | masterNeedsRenewal (i : ReplicaId)
  | runVR (i : ReplicaId) (command : α)
  | sendStartView (i : ReplicaId) (k : Nat) (dst : ReplicaId)
  | tick (d : Nat)
  | crash (i : ReplicaId)

namespace World

/-- One step; `none` when the action is not enabled. -/
def exec (w : World α) : Action α → Option (World α)
  | .deliver k =>
    match w.msgs[k]? with
    | none => none
    | some m =>
      if w.alive m.dst then
        match (w.replicas m.dst).receive (w.clock m.dst) m with
        | .ok (r, sent, grant) =>
          some { w.update m.dst r sent with grants := w.grants ++ grant.toList.map (m.dst, ·) }
        | .error _ => some (w.halt m.dst)
      else none
  | .replicaTimeout i =>
    if w.alive i ∧ (w.replicas i).rstate.timer.isSome then
      let r := w.replicas i
      let (r, sent) := { r with rstate.timer := none }.replicaTimeout (w.clock i)
      some (w.update i r sent)
    else none
  | .masterNeedsRenewal i =>
    if w.alive i ∧ (w.replicas i).mstate.timer.isSome then
      let r := { w.replicas i with mstate.timer := none }
      some (w.update i r r.masterNeedsRenewal)
    else none
  | .runVR i command =>
    if w.alive i then
      match (w.replicas i).runVR command with
      | .ok (r, sent) => some (w.update i r sent)
      | .error _ => some (w.halt i)
    else none
  | .sendStartView i k dst =>
    if w.alive i then
      match (w.replicas i).sendStartView k dst with
      | some (r, m) => some (w.update i r [m])
      | none => none
    else none
  | .tick d => some { w with now := w.now + d }
  | .crash i => if w.alive i then some (w.halt i) else none

/-- The deadlines of replica `i`'s two timers, in its own clock. -/
def deadlines (w : World α) (i : ReplicaId) : List Int :=
  (w.replicas i).rstate.timer.toList ++ (w.replicas i).mstate.timer.toList

/-- The timing constraint on an action: a timer fires once its deadline has passed, and time
does not pass a live replica's pending deadline. -/
def timely (w : World α) : Action α → Bool
  | .tick d => (List.finRange (nReplicas + 1)).all fun i =>
      !w.alive i || (w.deadlines i).all (w.clock i + d ≤ ·)
  | .replicaTimeout i => match (w.replicas i).rstate.timer with
    | some t => decide (t ≤ w.clock i)
    | none => false
  | .masterNeedsRenewal i => match (w.replicas i).mstate.timer with
    | some t => decide (t ≤ w.clock i)
    | none => false
  | _ => true

/-- A list of actions run in order. -/
def run (w : World α) : List (Action α) → Option (World α)
  | [] => some w
  | a :: as => (w.exec a).bind (·.run as)

/-- A list of actions run in order, each within its timing constraint. -/
def timedRun (w : World α) : List (Action α) → Option (World α)
  | [] => some w
  | a :: as => if w.timely a then (w.exec a).bind (·.timedRun as) else none

end World

theorem World.update_replicas (w : World α) (i : ReplicaId) (r : Replica α) (sent : List (Msg α))
    (j : ReplicaId) : (w.update i r sent).replicas j = if j = i then r else w.replicas j := by
  simp [World.update, Function.update_apply]

/-- What one step does: it leaves the replicas and the messages as they are, or one replica `i`
runs a handler, or one call of one of its `StartView` goroutines, to state `r`, and what it
sends joins the messages. -/
theorem World.exec_cases {w w' : World α} {a : Action α} (h : w.exec a = some w') :
    (w'.replicas = w.replicas ∧ w'.msgs = w.msgs) ∨
      ∃ i r sent, w'.replicas = Function.update w.replicas i r ∧ w'.msgs = w.msgs ++ sent ∧
        ((∃ k m g, a = .deliver k ∧ w.msgs[k]? = some m ∧ m.dst = i ∧
            (w.replicas i).receive (w.clock i) m = .ok (r, sent, g)) ∨
          (a = .replicaTimeout i ∧
            r = ({ w.replicas i with rstate.timer := none }.replicaTimeout (w.clock i)).1 ∧
            sent = ({ w.replicas i with rstate.timer := none }.replicaTimeout (w.clock i)).2) ∨
          (a = .masterNeedsRenewal i ∧ r = { w.replicas i with mstate.timer := none } ∧
            sent = r.masterNeedsRenewal) ∨
          (∃ c, a = .runVR i c ∧ (w.replicas i).runVR c = .ok (r, sent)) ∨
          ∃ k dst m, a = .sendStartView i k dst ∧
            (w.replicas i).sendStartView k dst = some (r, m) ∧ sent = [m]) := by
  cases a with
  | deliver k =>
    simp only [World.exec] at h
    split at h
    · cases h
    rename_i m hk
    split_ifs at h
    split at h <;> cases h
    · exact .inr ⟨m.dst, _, _, rfl, rfl, .inl ⟨k, m, _, rfl, hk, rfl, ‹_›⟩⟩
    · exact .inl ⟨rfl, rfl⟩
  | replicaTimeout i =>
    simp only [World.exec] at h
    split_ifs at h
    cases h
    exact .inr ⟨i, _, _, rfl, rfl, .inr (.inl ⟨rfl, rfl, rfl⟩)⟩
  | masterNeedsRenewal i =>
    simp only [World.exec] at h
    split_ifs at h
    cases h
    exact .inr ⟨i, _, _, rfl, rfl, .inr (.inr (.inl ⟨rfl, rfl, rfl⟩))⟩
  | runVR i c =>
    simp only [World.exec] at h
    split_ifs at h
    split at h <;> cases h
    · exact .inr ⟨i, _, _, rfl, rfl, .inr (.inr (.inr (.inl ⟨c, rfl, ‹_›⟩)))⟩
    · exact .inl ⟨rfl, rfl⟩
  | sendStartView i k dst =>
    simp only [World.exec] at h
    split_ifs at h
    split at h <;> cases h
    exact .inr ⟨i, _, _, rfl, rfl, .inr (.inr (.inr (.inr ⟨k, dst, _, rfl, ‹_›, rfl⟩)))⟩
  | tick d => cases h; exact .inl ⟨rfl, rfl⟩
  | crash i =>
    simp only [World.exec] at h
    split_ifs at h
    cases h
    exact .inl ⟨rfl, rfl⟩

/-- A step keeps a property of every replica, and one of every message in flight, when each
handler it can run, from a world that has both, ends in a replica with the first and sends only
messages with the second. -/
theorem World.exec_preserves (P : ReplicaId → Replica α → Prop) (Q : Msg α → Prop)
    {w w' : World α} {a : Action α} (hw : (∀ i, P i (w.replicas i)) ∧ ∀ m ∈ w.msgs, Q m)
    (h : w.exec a = some w')
    (hrecv : ∀ m ∈ w.msgs, ∀ {r sent g},
      (w.replicas m.dst).receive (w.clock m.dst) m = .ok (r, sent, g) →
        P m.dst r ∧ ∀ m' ∈ sent, Q m')
    (htimeout : ∀ i,
      P i ({ w.replicas i with rstate.timer := none }.replicaTimeout (w.clock i)).1 ∧
        ∀ m ∈ ({ w.replicas i with rstate.timer := none }.replicaTimeout (w.clock i)).2, Q m)
    (hrenew : ∀ i, P i { w.replicas i with mstate.timer := none } ∧
      ∀ m ∈ ({ w.replicas i with mstate.timer := none } : Replica α).masterNeedsRenewal, Q m)
    (hrun : ∀ i c {r sent}, (w.replicas i).runVR c = .ok (r, sent) →
      P i r ∧ ∀ m ∈ sent, Q m)
    (hsend : ∀ i k dst {r m}, (w.replicas i).sendStartView k dst = some (r, m) → P i r ∧ Q m) :
    (∀ i, P i (w'.replicas i)) ∧ ∀ m ∈ w'.msgs, Q m := by
  rcases World.exec_cases h with ⟨hr, hm⟩ | ⟨i, r, sent, hr, hm, hi⟩
  · exact ⟨hr ▸ hw.1, hm ▸ hw.2⟩
  obtain ⟨hu, hs⟩ : P i r ∧ ∀ m ∈ sent, Q m := by
    rcases hi with ⟨k, m, g, -, hk, rfl, h₁⟩ | ⟨-, rfl, rfl⟩ | ⟨-, rfl, rfl⟩ | ⟨c, -, h₁⟩ |
      ⟨k, dst, m, -, h₁, rfl⟩
    · exact hrecv m (List.getElem?_mem hk) h₁
    · exact htimeout i
    · exact hrenew i
    · exact hrun i c h₁
    · exact ⟨(hsend i k dst h₁).1, List.forall_mem_singleton.2 (hsend i k dst h₁).2⟩
  refine ⟨fun j => ?_, hm ▸ List.forall_mem_append.2 ⟨hw.2, hs⟩⟩
  rw [hr, Function.update_apply]
  split_ifs with hj
  · exact hj ▸ hu
  · exact hw.1 j

/-- The worlds some run reaches. -/
inductive Reachable : World α → Prop
  | init (skew : ReplicaId → Int)
      (h : ∀ i, -maxClockDrift ≤ skew i ∧ skew i ≤ maxClockDrift) :
      Reachable (.init skew h)
  | step {w w' : World α} (a : Action α) : Reachable w → w.exec a = some w' → Reachable w'

/-- The worlds some timed run reaches. -/
inductive TimedReachable : World α → Prop
  | init (skew : ReplicaId → Int)
      (h : ∀ i, -maxClockDrift ≤ skew i ∧ skew i ≤ maxClockDrift) :
      TimedReachable (.init skew h)
  | step {w w' : World α} (a : Action α) :
      TimedReachable w → w.timely a → w.exec a = some w' → TimedReachable w'

theorem TimedReachable.reachable {w : World α} (h : TimedReachable w) : Reachable w := by
  induction h with
  | init skew h => exact .init skew h
  | step a _ _ hw ih => exact .step a ih hw

theorem Reachable.run {w w' : World α} {as : List (Action α)} (h : Reachable w)
    (hr : w.run as = some w') : Reachable w' := by
  induction as generalizing w with
  | nil => cases hr; exact h
  | cons a as ih =>
    obtain ⟨v, hv, hr⟩ := Option.bind_eq_some.mp hr
    exact ih (h.step a hv) hr

theorem TimedReachable.timedRun {w w' : World α} {as : List (Action α)} (h : TimedReachable w)
    (hr : w.timedRun as = some w') : TimedReachable w' := by
  induction as generalizing w with
  | nil => cases hr; exact h
  | cons a as ih =>
    simp only [World.timedRun] at hr
    split at hr
    · obtain ⟨v, hv, hr⟩ := Option.bind_eq_some.mp hr
      exact ih (h.step a ‹_› hv) hr
    · cases hr

end GoPhat
