import GoPhat.VR.Defs

/-!
# Gathering replies

`sendAndRecvTo` starts one `sendOne` per peer and a goroutine that takes every call's result off
`callChan`. A failed call is sent again until `MAX_TRIES` attempts have failed; the goroutine
then drops it without counting it, as the `i++` there is commented out. A reply is passed to
`handler` until `handler` first returns true, which signals `doneChan`, and is counted. The loop
ends once `N = len(replicas)` replies are counted, and then signals `doneChan` if the handler
never returned true. The caller returns at the first signal.

The loop is a run over the calls in the order they arrive. Whatever that order, it ends exactly
when every peer has answered within `MAX_TRIES` attempts: a peer that fails them all keeps it
waiting on `callChan` for ever, and the caller too unless the handler has returned true.
-/

namespace GoPhat

/-- `MAX_TRIES`. -/
def maxTries : Nat := 2

/-- `ReplicaCall`; `reply` is `none` where `Error` is set. -/
structure ReplicaCall (ρ : Type) where
  reply : Option ρ
  repNum : ReplicaId
  tries : Nat

/-- The calls made to peer `p` when its attempt `k` returns `outcome k`: attempts `1, 2, ..`
in order, each failure followed by the next while fewer than `MAX_TRIES` have failed, until one
succeeds. -/
def peerCalls {ρ : Type} (outcome : Nat → Option ρ) (p : ReplicaId) : List (ReplicaCall ρ) :=
  go (List.range' 1 maxTries)
where
  go : List Nat → List (ReplicaCall ρ)
    | [] => []
    | k :: ks => match outcome k with
      | some reply => [⟨some reply, p, k⟩]
      | none => ⟨none, p, k⟩ :: go ks

/-- Some attempt of the first `MAX_TRIES` succeeds. -/
def answers {ρ : Type} (outcome : Nat → Option ρ) : Bool :=
  (List.range' 1 maxTries).any fun k => (outcome k).isSome

/-- The calls that arrive on `callChan` when replica `me` sends to `replicas`, in the order of
the list; it skips itself. -/
def sentCalls {ρ : Type} (me : ReplicaId) (replicas : List ReplicaId)
    (outcome : ReplicaId → Nat → Option ρ) : List (ReplicaCall ρ) :=
  (replicas.filter (· ≠ me)).flatMap fun p => peerCalls (outcome p) p

/-- The gathering goroutine's variables: what the handler has changed so far (the replica it
closes over), `i`, `callHandler`, and ghost records of the `doneChan` signals, the resends and
the replies passed to the handler. -/
structure Gather (σ ρ : Type) where
  handlerState : σ
  i : Nat := 0
  callHandler : Bool := true
  doneSignals : Nat := 0
  resent : List (ReplicaId × Nat) := []
  handled : List ρ := []

section Loop

variable {σ ρ : Type} (handler : σ → ρ → σ × Bool)

/-- The loop body for one call taken off `callChan`. -/
def gatherStep (s : Gather σ ρ) (call : ReplicaCall ρ) : Gather σ ρ :=
  match call.reply with
  | none =>
    if call.tries ≥ maxTries then s
    else { s with resent := s.resent ++ [(call.repNum, call.tries)] }
  | some reply =>
    let s := if s.callHandler then
        let (st, done) := handler s.handlerState reply
        let s := { s with handlerState := st, handled := s.handled ++ [reply] }
        if done then { s with doneSignals := s.doneSignals + 1, callHandler := false } else s
      else s
    { s with i := s.i + 1 }

/-- `for i := 0; i < N;` over the calls in the order they arrive: the state in which the loop
ends, or, when the calls run out first, in which it waits on `callChan`. -/
def gatherLoop (n : Nat) : Gather σ ρ → List (ReplicaCall ρ) → Gather σ ρ
  | s, [] => s
  | s, call :: calls => if s.i < n then gatherLoop n (gatherStep handler s call) calls else s

/-- The gathering goroutine with `N = n`: its state, and whether the loop has ended, after
which `doneChan` is signalled if the handler never returned true. -/
def gather (n : Nat) (st : σ) (calls : List (ReplicaCall ρ)) : Gather σ ρ × Bool :=
  let s := gatherLoop handler n { handlerState := st } calls
  if s.i < n then (s, false)
  else ({ s with doneSignals := s.doneSignals + if s.callHandler then 1 else 0 }, true)

/-- The handler called on successive replies until it first returns true: its final state,
the replies it was called on, and whether it returned true. -/
def handlerRun (st : σ) : List ρ → σ × List ρ × Bool
  | [] => (st, [], false)
  | reply :: replies =>
    let (st, done) := handler st reply
    if done then (st, [reply], true)
    else
      let (st, handled, done) := handlerRun st replies
      (st, reply :: handled, done)

/-- The replies among `calls`. -/
def replies (calls : List (ReplicaCall ρ)) : List ρ := calls.filterMap (·.reply)

@[simp] theorem replies_nil : replies ([] : List (ReplicaCall ρ)) = [] := rfl

@[simp] theorem replies_cons (call : ReplicaCall ρ) (calls : List (ReplicaCall ρ)) :
    replies (call :: calls) = call.reply.toList ++ replies calls := by
  cases h : call.reply <;> simp [replies, h]

@[simp] theorem replies_append (calls calls' : List (ReplicaCall ρ)) :
    replies (calls ++ calls') = replies calls ++ replies calls' := by
  simp [replies]

theorem gatherStep_i (s : Gather σ ρ) (call : ReplicaCall ρ) :
    (gatherStep handler s call).i = s.i + call.reply.toList.length := by
  unfold gatherStep
  cases call.reply with
  | none => by_cases h : call.tries ≥ maxTries <;> simp [h]
  | some r => simp only [Option.toList_some, List.length_singleton]; split_ifs <;> rfl

theorem gatherLoop_i (n : Nat) (calls : List (ReplicaCall ρ)) {s : Gather σ ρ} (h : s.i ≤ n) :
    (gatherLoop handler n s calls).i = min n (s.i + (replies calls).length) := by
  induction calls generalizing s with
  | nil => simp only [gatherLoop, replies_nil, List.length_nil]; omega
  | cons call calls ih =>
    by_cases hi : s.i < n
    · have := gatherStep_i handler s call
      have : call.reply.toList.length ≤ 1 := by cases call.reply <;> simp
      rw [gatherLoop, if_pos hi, ih (by omega)]
      simp only [replies_cons, List.length_append]
      omega
    · rw [gatherLoop, if_neg hi]
      omega

/-- The loop ends exactly when `N` replies arrive. -/
theorem gather_exited (n : Nat) (st : σ) (calls : List (ReplicaCall ρ)) :
    (gather handler n st calls).2 = decide (n ≤ (replies calls).length) := by
  have := gatherLoop_i handler n calls (s := { handlerState := st }) (Nat.zero_le n)
  dsimp only at this
  simp only [gather]
  split_ifs <;> simp <;> omega

/-- `doneChan` is signalled once when the handler stops being called, and not before. -/
def Gather.signalled (s : Gather σ ρ) : Prop :=
  s.doneSignals + (if s.callHandler then 1 else 0) = 1

theorem gatherStep_signalled {s : Gather σ ρ} (h : s.signalled) (call : ReplicaCall ρ) :
    (gatherStep handler s call).signalled := by
  unfold gatherStep
  cases call.reply with
  | none => split_ifs <;> exact h
  | some r =>
    by_cases hc : s.callHandler
    · by_cases hd : (handler s.handlerState r).2 <;> simp_all [Gather.signalled]
    · simp_all [Gather.signalled]

theorem gatherLoop_signalled (n : Nat) (calls : List (ReplicaCall ρ)) {s : Gather σ ρ}
    (h : s.signalled) : (gatherLoop handler n s calls).signalled := by
  induction calls generalizing s with
  | nil => exact h
  | cons call calls ih =>
    rw [gatherLoop]
    split_ifs
    exacts [ih (gatherStep_signalled handler h call), h]

/-- Once the loop has ended, `doneChan` has been signalled exactly once. -/
theorem gather_doneSignals (n : Nat) (st : σ) (calls : List (ReplicaCall ρ))
    (h : (gather handler n st calls).2 = true) : (gather handler n st calls).1.doneSignals = 1 := by
  have hs := gatherLoop_signalled handler n calls (s := { handlerState := st }) (by rfl)
  unfold Gather.signalled at hs
  simp only [gather] at h ⊢
  generalize gatherLoop handler n { handlerState := st } calls = s at hs h ⊢
  by_cases hi : s.i < n
  · simp [hi] at h
  · rw [if_neg hi]
    cases hc : s.callHandler <;> simp_all

theorem gatherStep_some {s : Gather σ ρ} {call : ReplicaCall ρ} {r : ρ} (hr : call.reply = some r)
    (hc : s.callHandler = true) :
    gatherStep handler s call =
      if (handler s.handlerState r).2 then
        { s with
          handlerState := (handler s.handlerState r).1
          handled := s.handled ++ [r]
          i := s.i + 1
          doneSignals := s.doneSignals + 1
          callHandler := false }
      else
        { s with
          handlerState := (handler s.handlerState r).1
          handled := s.handled ++ [r]
          i := s.i + 1 } := by
  unfold gatherStep
  rw [hr]
  split_ifs <;> simp_all

theorem gatherLoop_frozen (n : Nat) (calls : List (ReplicaCall ρ)) {s : Gather σ ρ}
    (h : s.callHandler = false) :
    let s' := gatherLoop handler n s calls
    s'.handlerState = s.handlerState ∧ s'.handled = s.handled ∧ s'.callHandler = false := by
  induction calls generalizing s with
  | nil => exact ⟨rfl, rfl, h⟩
  | cons call calls ih =>
    have hs : let s' := gatherStep handler s call
        s'.handlerState = s.handlerState ∧ s'.handled = s.handled ∧ s'.callHandler = false := by
      unfold gatherStep
      cases call.reply with
      | none => split_ifs <;> exact ⟨rfl, rfl, h⟩
      | some r => simp [h]
    rw [gatherLoop]
    split_ifs
    · obtain ⟨h₁, h₂, h₃⟩ := ih hs.2.2
      exact ⟨h₁.trans hs.1, h₂.trans hs.2.1, h₃⟩
    · exact ⟨rfl, rfl, h⟩

/-- While the handler is being called, the loop calls it on the replies it counts, in order,
until it first returns true. -/
theorem gatherLoop_handlerRun (n : Nat) (calls : List (ReplicaCall ρ)) {s : Gather σ ρ}
    (hc : s.callHandler = true) (hn : s.i ≤ n) :
    let s' := gatherLoop handler n s calls
    let run := handlerRun handler s.handlerState ((replies calls).take (n - s.i))
    s'.handlerState = run.1 ∧ s'.handled = s.handled ++ run.2.1 ∧ s'.callHandler = !run.2.2 := by
  induction calls generalizing s with
  | nil => simp [gatherLoop, handlerRun, hc]
  | cons call calls ih =>
    by_cases hi : s.i < n
    · rw [gatherLoop, if_pos hi]
      cases hr : call.reply with
      | none =>
        simp only [replies_cons, hr, Option.toList_none, List.nil_append]
        unfold gatherStep
        rw [hr]
        split_ifs <;> exact ih hc hn
      | some r =>
        obtain ⟨k, hk⟩ : ∃ k, n - s.i = k + 1 := ⟨n - s.i - 1, by omega⟩
        simp only [replies_cons, hr, Option.toList_some, List.singleton_append, hk,
          List.take_succ_cons, handlerRun]
        rw [gatherStep_some handler hr hc]
        cases hd : (handler s.handlerState r).2
        · have := ih (s := { s with
            handlerState := (handler s.handlerState r).1
            handled := s.handled ++ [r]
            i := s.i + 1 }) hc (by dsimp only; omega)
          simp only [show n - (s.i + 1) = k by omega] at this
          simpa using this
        · have := gatherLoop_frozen handler n calls (s := { s with
            handlerState := (handler s.handlerState r).1
            handled := s.handled ++ [r]
            i := s.i + 1
            doneSignals := s.doneSignals + 1
            callHandler := false }) rfl
          simpa using this
    · rw [gatherLoop, if_neg hi, show n - s.i = 0 by omega]
      simp [handlerRun, hc]

/-- A handler that returns true at its first reply, as `handlePrepareOK` does with `F = 1`;
replica 1 fails once and then answers after replica 2. -/
theorem gatherLoop_handlerRun_firstReply :
    let quorum : Nat → Unit → Nat × Bool := fun n _ => (n + 1, true)
    let calls : List (ReplicaCall Unit) := [⟨none, 1, 1⟩, ⟨some (), 2, 1⟩, ⟨some (), 1, 2⟩]
    let s : Gather Nat Unit := { handlerState := 0 }
    s.callHandler = true ∧ s.i ≤ 2 ∧
      let s' := gatherLoop quorum 2 s calls
      let run := handlerRun quorum s.handlerState ((replies calls).take (2 - s.i))
      s'.handlerState = run.1 ∧ s'.handled = s.handled ++ run.2.1 ∧ s'.callHandler = !run.2.2 :=
  ⟨rfl, by decide, gatherLoop_handlerRun (fun n _ => (n + 1, true)) 2
    [⟨none, 1, 1⟩, ⟨some (), 2, 1⟩, ⟨some (), 1, 2⟩] rfl (by decide)⟩

end Loop

section Peers

variable {ρ : Type}

theorem length_replies_peerCalls_go (outcome : Nat → Option ρ) (p : ReplicaId) (ks : List Nat) :
    (replies (peerCalls.go outcome p ks)).length =
      if ks.any (fun k => (outcome k).isSome) then 1 else 0 := by
  induction ks with
  | nil => rfl
  | cons k ks ih =>
    cases h : outcome k <;> simp [peerCalls.go, h, ih]

/-- A peer's calls bring one reply if it answers within `MAX_TRIES` attempts, and none else. -/
theorem length_replies_peerCalls (outcome : Nat → Option ρ) (p : ReplicaId) :
    (replies (peerCalls outcome p)).length = if answers outcome then 1 else 0 :=
  length_replies_peerCalls_go outcome p _

theorem length_replies_sentCalls (me : ReplicaId) (replicas : List ReplicaId)
    (outcome : ReplicaId → Nat → Option ρ) :
    (replies (sentCalls me replicas outcome)).length =
      replicas.countP (fun p => p ≠ me && answers (outcome p)) := by
  induction replicas with
  | nil => rfl
  | cons p ps ih =>
    by_cases hp : p = me
    · simp_all [sentCalls, List.filter_cons]
    · simp_all [sentCalls, List.filter_cons, length_replies_peerCalls, List.countP_cons]
      split_ifs <;> omega

/-- Whatever order the calls arrive in, the loop of `sendAndRecvTo(replicas)` at replica `me`
ends exactly when every replica in the list is another one and answers within `MAX_TRIES`
attempts; it then has signalled `doneChan` exactly once. -/
theorem gather_exits_iff {σ : Type} (handler : σ → ρ → σ × Bool) (me : ReplicaId)
    (replicas : List ReplicaId) (outcome : ReplicaId → Nat → Option ρ) (st : σ)
    {calls : List (ReplicaCall ρ)} (h : calls.Perm (sentCalls me replicas outcome)) :
    ((gather handler replicas.length st calls).2 = true ↔
      ∀ p ∈ replicas, p ≠ me ∧ answers (outcome p) = true) ∧
    ((gather handler replicas.length st calls).2 = true →
      (gather handler replicas.length st calls).1.doneSignals = 1) := by
  refine ⟨?_, gather_doneSignals handler _ st calls⟩
  have hl : (replies calls).length = (replies (sentCalls me replicas outcome)).length :=
    (h.filterMap _).length_eq
  have hle := List.countP_le_length (fun p => p ≠ me && answers (outcome p)) (l := replicas)
  rw [gather_exited, hl, length_replies_sentCalls, decide_eq_true_iff]
  refine ⟨fun h' => ?_, fun h' => (List.countP_eq_length.2 (by simpa using h')).ge⟩
  simpa using List.countP_eq_length.1 (Nat.le_antisymm hle h')

/-- Replica 0 sends to replicas 1 and 2, and replica 1 fails both attempts. -/
theorem gather_exits_iff_peerFails :
    let outcome : ReplicaId → Nat → Option Unit := fun p _ => if p = 1 then none else some ()
    let ignore : Unit → Unit → Unit × Bool := fun s _ => (s, false)
    (sentCalls 0 [1, 2] outcome).Perm (sentCalls 0 [1, 2] outcome) ∧
      ((gather ignore [1, 2].length () (sentCalls 0 [1, 2] outcome)).2 = true ↔
        ∀ p ∈ [1, 2], p ≠ 0 ∧ answers (outcome p) = true) ∧
      ((gather ignore [1, 2].length () (sentCalls 0 [1, 2] outcome)).2 = true →
        (gather ignore [1, 2].length () (sentCalls 0 [1, 2] outcome)).1.doneSignals = 1) :=
  ⟨.refl _, gather_exits_iff (fun s _ => (s, false)) 0 [1, 2]
    (fun p _ => if p = 1 then none else some ()) () (.refl _)⟩

end Peers

/-- Replica 0 sends to replicas 1 and 2. Both attempts to replica 1 fail, replica 2 answers at
once, and the handler never returns true: the loop waits for ever, and `doneChan` is never
signalled. -/
theorem sendAndRecvTo_waits_forever :
    let outcome : ReplicaId → Nat → Option Unit := fun p _ => if p = 1 then none else some ()
    let g := gather (fun (s : Unit) (_ : Unit) => (s, false)) 2 () (sentCalls 0 [1, 2] outcome)
    (sentCalls 0 [1, 2] outcome).map (fun c => (c.reply, c.repNum, c.tries)) =
        [(none, 1, 1), (none, 1, 2), (some (), 2, 1)] ∧
      g.2 = false ∧ g.1.i = 1 ∧ g.1.doneSignals = 0 :=
  ⟨rfl, rfl, rfl, rfl⟩

end GoPhat
