import GoPhat.VR.Defs
import Mathlib.Data.List.Range
import Mathlib.Tactic.Ring

/-!
# Finding the master from the client

`PhatClient.connectToMaster` asks the server it is connected to for the master with
`Server.GetMaster`; when that call fails it moves on with `connectToServer((Id + i + 1) %
NumServers)`, where `i` counts the attempts, and then dials the master it was told of.

The servers are parameters: whether `rpc.Dial` reaches server `j`, and what `GetMaster` on
server `j` returns, for the length of one call of `connectToMaster`.

Since the step grows with `i` and is added to the server just reached, the `i`-th attempt asks
server `Id + i(i+1)/2`, not `Id + i` (`askedServers_eq`): with every server up and none
answering, three servers are asked `0, 1, 0`, and the third is never asked.
-/

namespace GoPhat

/-- The fields of `PhatClient` that `connectToMaster` reads and writes: `NumServers`,
`MasterId`, and `Id`, the server `RpcClient` is connected to. -/
structure PhatClient where
  numServers : Nat
  masterId : Nat
  id : Nat
  deriving DecidableEq, Repr

namespace PhatClient

/-- `connectToServer(index)`: connected to server `index` if `rpc.Dial` reaches it, and
unchanged otherwise. -/
def connectToServer (dial : Nat → Bool) (c : PhatClient) (index : Nat) : PhatClient :=
  if dial index then { c with id := index } else c

/-- The `for` loop of `connectToMaster` over the attempts `is`: the client, and the servers
`GetMaster` was called on, in order. -/
def connectLoop (dial : Nat → Bool) (getMaster : Nat → Option Nat) :
    PhatClient → List Nat → PhatClient × List Nat
  | c, [] => (c, [])
  | c, i :: is =>
    match getMaster c.id with
    | some m => ({ c with masterId := m }, [c.id])
    | none =>
      let r := connectLoop dial getMaster (connectToServer dial c ((c.id + (i + 1)) % c.numServers)) is
      (r.1, c.id :: r.2)

/-- `connectToMaster`: after the loop, the client dials the master it was told of unless it
is connected to it; `ServerLocations[MasterId]` panics past the last server, and a failed dial
is returned as an error. -/
def connectToMaster (dial : Nat → Bool) (getMaster : Nat → Option Nat) (c : PhatClient) :
    Except Fault (PhatClient × Bool) :=
  let c := (connectLoop dial getMaster c (List.range c.numServers)).1
  if c.masterId ≠ c.id then
    if c.masterId < c.numServers then
      pure (if dial c.masterId then ({ c with id := c.masterId }, true) else (c, false))
    else throw .indexOutOfRange
  else pure (c, true)

/-- The servers `connectToMaster` asks for the master, in order. -/
def askedServers (dial : Nat → Bool) (getMaster : Nat → Option Nat) (c : PhatClient) :
    List Nat :=
  (connectLoop dial getMaster c (List.range c.numServers)).2

theorem triangle_succ (j : Nat) : (j + 1) * (j + 1 + 1) / 2 = j * (j + 1) / 2 + (j + 1) := by
  rw [show (j + 1) * (j + 1 + 1) = j * (j + 1) + (j + 1) * 2 by ring, Nat.add_mul_div_right _ _ two_pos]

/-- With every server up and none answering, the loop over the attempts `k .. k+n-1` asks, at
its `j`-th step, the server `j(j+1)/2 + jk` past the first. -/
theorem connectLoop_unanswered {dial : Nat → Bool} {getMaster : Nat → Option Nat}
    (hd : ∀ j, dial j = true) (hg : ∀ j, getMaster j = none) {c : PhatClient}
    (hc : c.id < c.numServers) (k n : Nat) :
    (connectLoop dial getMaster c (List.range' k n)).2 =
      (List.range n).map fun j => (c.id + (j * k + j * (j + 1) / 2)) % c.numServers := by
  induction n generalizing c k with
  | zero => rfl
  | succ n ih =>
    have hc' : (c.id + (k + 1)) % c.numServers < c.numServers := Nat.mod_lt _ (by omega)
    rw [List.range'_succ, connectLoop, hg, List.range_succ_eq_map, List.map_cons, List.map_map]
    simp only [connectToServer, hd, if_true]
    rw [ih (c := { c with id := (c.id + (k + 1)) % c.numServers }) hc' (k + 1)]
    refine congrArg₂ _ (by simpa using (Nat.mod_eq_of_lt hc).symm) (List.map_congr_left fun j _ => ?_)
    simp only [Function.comp, Nat.succ_eq_add_one, Nat.mod_add_mod, triangle_succ]
    congr 1
    ring

/-- With every server up and none answering `GetMaster`, the `i`-th attempt of
`connectToMaster` asks server `Id + i(i+1)/2`, modulo the number of servers. -/
theorem askedServers_eq {dial : Nat → Bool} {getMaster : Nat → Option Nat}
    (hd : ∀ j, dial j = true) (hg : ∀ j, getMaster j = none) {c : PhatClient}
    (hc : c.id < c.numServers) :
    askedServers dial getMaster c =
      (List.range c.numServers).map fun i => (c.id + i * (i + 1) / 2) % c.numServers := by
  rw [askedServers, List.range_eq_range', connectLoop_unanswered hd hg hc, ← List.range_eq_range']
  simp

/-- Three servers, all up and none answering, from server `0`: the client asks servers `0`,
`1` and `0` again, and never server `2`. -/
theorem askedServers_three :
    (∀ j, (fun _ => true : Nat → Bool) j = true) ∧
      (∀ j, (fun _ => none : Nat → Option Nat) j = none) ∧
      (⟨3, 0, 0⟩ : PhatClient).id < (⟨3, 0, 0⟩ : PhatClient).numServers ∧
      askedServers (fun _ => true) (fun _ => none) ⟨3, 0, 0⟩ = [0, 1, 0] :=
  ⟨fun _ => rfl, fun _ => rfl, by decide,
    (askedServers_eq (fun _ => rfl) (fun _ => rfl) (c := ⟨3, 0, 0⟩) (by decide)).trans (by decide)⟩

end PhatClient

end GoPhat
