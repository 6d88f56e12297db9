import GoPhat.VR.Group

/-!
# Catching up on commits

`doCommit(cn)` ignores a commit number it has reached, starts a recovery for one past the end
of its log, and otherwise commits `CommitNumber+1 .. cn` in order: its loop calls `doCommit(i)`
for each index below `cn`, and each of those calls finds exactly one entry left to commit; then
it commits `cn` itself. Every commit passes `Phatlog.GetCommand` of its index to `CommitFunc`,
so with a nil `Phatlog` the first one panics.
-/

namespace GoPhat

namespace Replica

variable {α : Type}

/-- The replica once `CommitNumber+1 .. cn` of log `l` have gone to `CommitFunc`. -/
def committedTo (r : Replica α) (l : Log α) (cn : Nat) : Replica α :=
  { r with
    history := r.history ++
      (List.range' (r.rstate.commitNumber + 1) (cn - r.rstate.commitNumber)).map l.getCommand
    rstate.commitNumber := cn }

@[simp] theorem committedTo_commitNumber (r : Replica α) (l : Log α) (cn : Nat) :
    (r.committedTo l cn).rstate.commitNumber = cn := rfl

@[simp] theorem committedTo_opNumber (r : Replica α) (l : Log α) (cn : Nat) :
    (r.committedTo l cn).rstate.opNumber = r.rstate.opNumber := rfl

@[simp] theorem committedTo_phatlog (r : Replica α) (l : Log α) (cn : Nat) :
    (r.committedTo l cn).phatlog = r.phatlog := rfl

theorem committedTo_self (r : Replica α) (l : Log α) :
    r.committedTo l r.rstate.commitNumber = r := by
  simp [committedTo]

theorem committedTo_committedTo (r : Replica α) (l : Log α) {m n : Nat}
    (h₁ : r.rstate.commitNumber ≤ m) (h₂ : m ≤ n) :
    (r.committedTo l m).committedTo l n = r.committedTo l n := by
  have hr : List.range' (r.rstate.commitNumber + 1) (m - r.rstate.commitNumber) ++
      List.range' (m + 1) (n - m) = List.range' (r.rstate.commitNumber + 1) (n - r.rstate.commitNumber) := by
    rw [show m + 1 = r.rstate.commitNumber + 1 + 1 * (m - r.rstate.commitNumber) by omega,
      List.range'_append]
    congr 1
    omega
  simp only [committedTo, List.append_assoc, ← List.map_append, hr]

theorem commitNext_eq {r : Replica α} {l : Log α} (hl : r.phatlog = some l) :
    r.commitNext = .ok (r.committedTo l (r.rstate.commitNumber + 1)) := by
  simp [commitNext, committedTo, hl]

theorem doCommitAux_next (fuel : Nat) {r : Replica α} {l : Log α} (hl : r.phatlog = some l)
    (h : r.rstate.commitNumber < r.rstate.opNumber) :
    doCommitAux (fuel + 1) r (r.rstate.commitNumber + 1) =
      .ok (r.committedTo l (r.rstate.commitNumber + 1)) := by
  rw [doCommitAux, if_neg (by omega), if_neg (by omega), if_neg (by omega)]
  exact commitNext_eq hl

/-- `doCommit`'s loop over the `m` indices after the commit number commits them in order. -/
theorem foldlM_doCommitAux (fuel m : Nat) {l : Log α} {r : Replica α} (hl : r.phatlog = some l)
    (hm : r.rstate.commitNumber + m ≤ r.rstate.opNumber) :
    (List.range' (r.rstate.commitNumber + 1) m).foldlM (fun r i => doCommitAux (fuel + 1) r i) r =
      .ok (r.committedTo l (r.rstate.commitNumber + m)) := by
  induction m generalizing r with
  | zero => simp [committedTo_self]
  | succ m ih =>
    have hr := ih (r := r.committedTo l (r.rstate.commitNumber + 1)) hl (by simp; omega)
    simp only [committedTo_commitNumber] at hr
    rw [List.range'_succ, List.foldlM_cons, doCommitAux_next fuel hl (by omega), except_ok_bind, hr,
      committedTo_committedTo _ _ (by omega) (by omega)]
    congr 2
    omega

/-- With a log, `doCommit(cn)` for `CommitNumber < cn ≤ OpNumber` commits
`CommitNumber+1 .. cn`. -/
theorem doCommit_eq_committedTo {r : Replica α} {l : Log α} {cn : Nat} (hl : r.phatlog = some l)
    (h₁ : r.rstate.commitNumber < cn) (h₂ : cn ≤ r.rstate.opNumber) :
    r.doCommit cn = .ok (r.committedTo l cn) := by
  obtain ⟨fuel, rfl⟩ : ∃ fuel, cn = fuel + 1 := ⟨cn - 1, by omega⟩
  rw [doCommit, doCommitAux, if_neg (by omega), if_neg (by omega)]
  by_cases h₃ : fuel + 1 > r.rstate.commitNumber + 1
  · obtain ⟨fuel', rfl⟩ : ∃ fuel', fuel = fuel' + 1 := ⟨fuel - 1, by omega⟩
    rw [if_pos h₃, foldlM_doCommitAux fuel' _ hl (by omega), except_ok_bind]
    dsimp only
    rw [commitNext_eq (by simpa using hl), committedTo_commitNumber,
      committedTo_committedTo _ _ (by omega) (by omega)]
    congr 2
    omega
  · rw [if_neg h₃, pure_bind]
    dsimp only
    rw [commitNext_eq hl]
    congr 2
    omega

/-- `doCommit(cn)` for a replica whose commit number is at most its op number: with a log, and
`CommitNumber < cn ≤ OpNumber`, it passes `GetCommand(CommitNumber+1) .. GetCommand(cn)` to
`CommitFunc` in order and ends at commit number `cn`, status unchanged; for `cn ≤ CommitNumber`
it changes nothing; for `cn > OpNumber` it starts a recovery and commits nothing. -/
theorem doCommit_spec (r : Replica α) (cn : Nat)
    (h : r.rstate.commitNumber ≤ r.rstate.opNumber) :
    (r.rstate.commitNumber < cn → cn ≤ r.rstate.opNumber → ∀ l, r.phatlog = some l →
      r.doCommit cn = .ok { r with
        history := r.history ++ (List.range' (r.rstate.commitNumber + 1)
          (cn - r.rstate.commitNumber)).map l.getCommand
        rstate.commitNumber := cn }) ∧
    (cn ≤ r.rstate.commitNumber → r.doCommit cn = .ok r) ∧
    (r.rstate.opNumber < cn → r.doCommit cn = .ok r.prepareRecovery) := by
  refine ⟨fun h₁ h₂ l hl => doCommit_eq_committedTo hl h₁ h₂, fun h₁ => ?_, fun h₁ => ?_⟩
  · cases cn with
    | zero => rfl
    | succ cn => rw [doCommit, doCommitAux, if_pos h₁]; rfl
  · obtain ⟨fuel, rfl⟩ : ∃ fuel, cn = fuel + 1 := ⟨cn - 1, by omega⟩
    rw [doCommit, doCommitAux, if_neg (by omega), if_pos h₁]
    rfl

/-- A step that keeps the status or starts a recovery. -/
def KeepsStatus (r r' : Replica α) : Prop :=
  r'.rstate.status = r.rstate.status ∨ r'.rstate.status = .recovery

theorem KeepsStatus.trans {r₁ r₂ r₃ : Replica α} (h₁ : KeepsStatus r₁ r₂) (h₂ : KeepsStatus r₂ r₃) :
    KeepsStatus r₁ r₃ := by
  unfold KeepsStatus at *
  rcases h₂ with h₂ | h₂ <;> rw [h₂] <;> tauto

theorem foldlM_keepsStatus {f : Replica α → Nat → Except Fault (Replica α)}
    (hf : ∀ r i r', f r i = .ok r' → KeepsStatus r r') (l : List Nat) {r r' : Replica α}
    (h : l.foldlM f r = .ok r') : KeepsStatus r r' := by
  induction l generalizing r with
  | nil => exact .inl (by rw [← (pure_eq_ok _ _).1 h])
  | cons i l ih =>
    obtain ⟨r₁, h₁, h₂⟩ := (except_bind_eq_ok _ _ _).1 h
    exact (hf _ _ _ h₁).trans (ih h₂)

theorem commitNext_status {r r' : Replica α} (h : r.commitNext = .ok r') :
    r'.rstate.status = r.rstate.status := by
  unfold commitNext at h
  split at h
  · cases h
  · rw [← (pure_eq_ok _ _).1 h]

/-- `doCommit` keeps the status, or starts a recovery for a commit number past the log. -/
theorem doCommitAux_keepsStatus {fuel cn : Nat} {r r' : Replica α}
    (h : doCommitAux fuel r cn = .ok r') : KeepsStatus r r' := by
  induction fuel generalizing r r' cn with
  | zero => exact .inl (by rw [← (pure_eq_ok _ _).1 h])
  | succ fuel ih =>
    rw [doCommitAux] at h
    by_cases h₁ : cn ≤ r.rstate.commitNumber
    · rw [if_pos h₁] at h; exact .inl (by rw [← (pure_eq_ok _ _).1 h])
    rw [if_neg h₁] at h
    by_cases h₂ : cn > r.rstate.opNumber
    · rw [if_pos h₂] at h; exact .inr (by rw [← (pure_eq_ok _ _).1 h]; rfl)
    rw [if_neg h₂] at h
    by_cases h₃ : cn > r.rstate.commitNumber + 1
    · rw [if_pos h₃] at h
      obtain ⟨r₁, h₄, h₅⟩ := (except_bind_eq_ok _ _ _).1 h
      exact (foldlM_keepsStatus (fun _ _ _ => ih) _ h₄).trans (.inl (commitNext_status h₅))
    · rw [if_neg h₃, pure_bind] at h
      exact .inl (commitNext_status h)

theorem doCommit_keepsStatus {r r' : Replica α} {cn : Nat} (h : r.doCommit cn = .ok r') :
    KeepsStatus r r' :=
  doCommitAux_keepsStatus h

end Replica

/-- A replica at commit number `0` holding `7` and `8` at indices `1` and `2` commits both, in
order, on `doCommit(2)`. -/
theorem doCommit_spec_catchUp :
    let r : Replica Nat := { replicaInit 0 0 with
      rstate.opNumber := 2, phatlog := some ((Log.emptyLog.add 1 7).add 2 8) }
    r.rstate.commitNumber ≤ r.rstate.opNumber ∧
      r.doCommit 2 = .ok { r with history := [some 7, some 8], rstate.commitNumber := 2 } :=
  ⟨by decide, (Replica.doCommit_spec _ 2 (by decide)).1 (by decide) (by decide)
    ((Log.emptyLog.add 1 7).add 2 8) rfl⟩

/-- With a nil `Phatlog`, `doCommit(1)` at commit number `0` and op number `1` panics in
`GetCommand`. -/
theorem doCommit_nil_log :
    let r : Replica Nat := { replicaInit 0 0 with rstate.opNumber := 1, phatlog := none }
    r.rstate.commitNumber < 1 ∧ 1 ≤ r.rstate.opNumber ∧ r.doCommit 1 = .error .nilDereference :=
  ⟨by decide, by decide, rfl⟩

end GoPhat
