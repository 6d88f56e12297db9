import Mathlib.Logic.Basic

/-!
# The replicated log

`phatlog.Log` keeps the commands by log index in a map, together with the highest index
seen. A `*Log` may be nil; the replica code reaches the map through that pointer, so the
model keeps the pointer as an `Option` and the dereference as a possible fault.
-/

namespace GoPhat

/-- `phatlog.Log`: `Commits` maps a log index to its command, `MaxIndex` is the highest
index added so far. -/
structure Log (α : Type) where
  commits : Nat → Option α
  maxIndex : Nat

namespace Log

variable {α : Type}

/-- `phatlog.Max`. -/
def max (a b : Nat) : Nat := if a < b then b else a

/-- `EmptyLog`. -/
def emptyLog : Log α := ⟨fun _ => none, 0⟩

/-- `Log.Add`: overwrite the entry at `index` and raise `MaxIndex`. -/
def add (l : Log α) (index : Nat) (command : α) : Log α where
  commits i := if i = index then some command else l.commits i
  maxIndex := Log.max l.maxIndex index

/-- `Log.GetCommand`: the entry at `index`, nil when the map has none. -/
def getCommand (l : Log α) (index : Nat) : Option α := l.commits index

@[simp] theorem getCommand_emptyLog (index : Nat) : (emptyLog : Log α).getCommand index = none :=
  rfl

@[simp] theorem maxIndex_emptyLog : (emptyLog : Log α).maxIndex = 0 := rfl

theorem getCommand_add (l : Log α) (index i : Nat) (command : α) :
    (l.add index command).getCommand i = if i = index then some command else l.getCommand i :=
  rfl

@[simp] theorem getCommand_add_self (l : Log α) (index : Nat) (command : α) :
    (l.add index command).getCommand index = some command := by
  simp [getCommand_add]

@[simp] theorem maxIndex_add (l : Log α) (index : Nat) (command : α) :
    (l.add index command).maxIndex = Log.max l.maxIndex index := rfl

end Log

end GoPhat
