import GoPhat.Phatdb
import Mathlib.Data.List.Nodup

/-!
# The tree database as a store of paths

What the functions of `phatdb.go` do to the database as its clients see it: the data `getNode`
reads at the end of each path, `FileNode.view`. Over that view the tree is a store of paths,
`Store`: `createNode` adds the missing prefixes of its path with empty data and then writes
its value, unless the node there has a `Version` other than `0`; `setNode` writes at one path;
`deleteNode` removes every path under its own. Each function refines the matching operation
of `Store` from every tree, at every path, and so does every sequence of them (`run_refines`).

`_setNode` adds one to a node's `uint64` `Version`, and `createNode` writes through it, so over
any run that does not delete a node the version counts its successful creates and sets,
modulo `2^64` (`run_version`).

A Go map holds one child per name. The entry lists here do so while their names are
distinct, which every write keeps (`TreeReachable.keysNodup`): on the trees the writes reach,
the association list represents the map.
-/

namespace GoPhat

namespace FileNode

/-- The node at the end of a path: the walk without `createMissing`, as an option. -/
def find (t : FileNode) : List String → Option FileNode
  | [] => some t
  | part :: parts => (t.children.lookup part).bind (·.find parts)

/-- The database as `getNode` reads it: the data at the end of each path. -/
def view (t : FileNode) (p : List String) : Option DataNode := (t.find p).map data

@[simp] theorem find_nil (t : FileNode) : t.find [] = some t := rfl

theorem find_cons (t : FileNode) (part : String) (parts : List String) :
    t.find (part :: parts) = (t.children.lookup part).bind (·.find parts) := rfl

@[simp] theorem view_nil (t : FileNode) : t.view [] = some t.data := rfl

theorem find_append (t : FileNode) (p r : List String) :
    t.find (p ++ r) = (t.find p).bind (·.find r) := by
  induction p generalizing t with
  | nil => rfl
  | cons part p ih =>
    simp only [List.cons_append, find_cons]
    cases t.children.lookup part <;> simp [ih]

theorem view_cons (t : FileNode) (b : String) (q : List String) :
    t.view (b :: q) = (t.children.lookup b).bind (·.view q) := by
  simp only [view, find_cons]
  cases t.children.lookup b <;> rfl

theorem view_fresh (q : List String) : fresh.view q = if q = [] then some {} else none := by
  cases q <;> rfl

end FileNode

theorem traverseToNode_false_snd (t : FileNode) (p : List String) :
    (traverseToNode t p false).2 = (t.find p).elim (.error .errNotExist) .ok := by
  induction p generalizing t with
  | nil => rfl
  | cons part p ih =>
    obtain ⟨cs, d⟩ := t
    cases h : cs.lookup part with
    | none => simp [traverseToNode, FileNode.find_cons, h]
    | some c => simp [traverseToNode, FileNode.find_cons, h, ih]

theorem lookup_setChild_ne {cs : List (String × FileNode)} {name b : String} (c : FileNode)
    (h : b ≠ name) : (setChild cs name c).lookup b = cs.lookup b := by
  induction cs with
  | nil => exact lookup_cons_ne (Ne.symm h)
  | cons e cs ih =>
    by_cases he : e.1 = name
    · rw [setChild, if_pos he, lookup_cons_ne (Ne.symm h), lookup_cons_ne (he ▸ Ne.symm h)]
    · rw [setChild, if_neg he]
      by_cases hb : e.1 = b
      · obtain ⟨k, v⟩ := e
        subst hb
        simp
      · rw [lookup_cons_ne hb, lookup_cons_ne hb, ih]

theorem find_setChild (cs : List (String × FileNode)) (d : DataNode) (name b : String)
    (c : FileNode) (q : List String) :
    (FileNode.mk (setChild cs name c) d).find (b :: q) =
      if b = name then c.find q else (FileNode.mk cs d).find (b :: q) := by
  by_cases h : b = name
  · subst h
    simp [FileNode.find_cons]
  · simp [FileNode.find_cons, h, lookup_setChild_ne c h]

theorem view_setChild (cs : List (String × FileNode)) (d : DataNode) (name b : String)
    (c : FileNode) (q : List String) :
    (FileNode.mk (setChild cs name c) d).view (b :: q) =
      if b = name then c.view q else (FileNode.mk cs d).view (b :: q) := by
  simp only [FileNode.view, find_setChild]
  split <;> rfl

/-- `_setNode`'s write to a node's data. -/
def DataNode.set (d : DataNode) (val : String) : DataNode :=
  { d with value := val, stats.version := d.stats.version + 1 }

@[simp] theorem data_setNode (n : FileNode) (val : String) : (_setNode n val).data = n.data.set val :=
  rfl

@[simp] theorem children_setNode (n : FileNode) (val : String) :
    (_setNode n val).children = n.children :=
  rfl

/-! ## The store of paths -/

namespace Store

variable (s : List String → Option DataNode) (p : List String)

/-- The prefixes of `p` missing from `s`, `p` included, added with empty data. -/
def fill (q : List String) : Option DataNode := if q <+: p ∧ s q = none then some {} else s q

/-- `d` stored at `p`. -/
def write (d : DataNode) (q : List String) : Option DataNode := if q = p then some d else s q

/-- Every path under `p`, `p` included, removed. -/
def erase (q : List String) : Option DataNode := if p <+: q then none else s q

/-- Reading `p`. -/
def get : Except OsError DataNode :=
  match s p with
  | some d => .ok d
  | none => .error .errNotExist

/-- Creating `p` with `val`: the missing prefixes appear with empty data; then `p` takes `val`
at the next version, unless it is held at a version other than `0`. -/
def create (val : String) : (List String → Option DataNode) × Except OsError DataNode :=
  let d := (s p).getD {}
  if d.stats.version ≠ 0 then (fill s p, .error .errExist)
  else (write (fill s p) p (d.set val), .ok (d.set val))

/-- Setting `p` to `val` at the next version, if `p` is held. -/
def set (val : String) : (List String → Option DataNode) × Except OsError DataNode :=
  match s p with
  | some d => (write s p (d.set val), .ok (d.set val))
  | none => (s, .error .errNotExist)

/-- Deleting `p` and everything under it, if `p` is held; the root cannot be deleted. -/
def delete : Except Fault ((List String → Option DataNode) × Except OsError StatNode) :=
  match s p with
  | some d => if p = [] then throw .indexOutOfRange else pure (erase s p, .ok d.stats)
  | none => pure (s, .error .errNotExist)

theorem fill_cons_cons (a b : String) (q : List String) :
    fill s (a :: p) (b :: q) = if b = a then fill (fun q => s (a :: q)) p q else s (b :: q) := by
  by_cases h : b = a
  · subst h
    simp [fill]
  · simp [fill, h]

end Store

section Refinement

open FileNode

theorem view_traverseToNode_true (t : FileNode) (p : List String) :
    (traverseToNode t p true).1.view = Store.fill t.view p := by
  funext q
  induction p generalizing t q with
  | nil =>
    have : ¬ (q <+: [] ∧ t.view q = none) := by
      rintro ⟨hq, hn⟩
      rw [List.prefix_nil.1 hq] at hn
      cases hn
    simp only [traverseToNode, Store.fill, if_neg this]
  | cons part p ih =>
    obtain ⟨cs, d⟩ := t
    cases q with
    | nil => simp [Store.fill, traverseToNode]; split <;> rfl
    | cons b q =>
      rw [Store.fill_cons_cons]
      cases hc : cs.lookup part with
      | some c =>
        have : (fun q => (FileNode.mk cs d).view (part :: q)) = c.view := by
          funext q
          simp [view_cons, hc]
        simp only [traverseToNode, children_mk, data_mk, hc, view_setChild, ih, this]
      | none =>
        have h₁ : (fun q => (FileNode.mk cs d).view (part :: q)) = fun _ => none := by
          funext q
          simp [view_cons, hc]
        have h₂ : Store.fill fresh.view p = Store.fill (fun _ => none) p := by
          funext q
          cases q <;> simp [Store.fill, view_fresh]
        simp only [traverseToNode, children_mk, data_mk, hc, if_true, view_setChild, ih, h₁, h₂]

theorem lookup_deleteChild_ne (n : FileNode) {name b : String} (h : b ≠ name) :
    (n.deleteChild name).children.lookup b = n.children.lookup b := by
  obtain ⟨cs, d⟩ := n
  simp only [FileNode.deleteChild, children_mk]
  induction cs with
  | nil => rfl
  | cons e cs ih =>
    by_cases he : e.1 = name
    · have hb : e.1 ≠ b := fun hb => h (hb ▸ he)
      rw [List.filter_cons_of_neg (by simpa using he), ih, lookup_cons_ne hb]
    · rw [List.filter_cons_of_pos (by simpa using he)]
      by_cases hb : e.1 = b
      · obtain ⟨k, v⟩ := e
        subst hb
        simp
      · rw [lookup_cons_ne hb, lookup_cons_ne hb, ih]

theorem traverseToNode_true_snd (t : FileNode) (p : List String) :
    (traverseToNode t p true).2 = .ok ((t.find p).getD .fresh) := by
  rw [traverseToNode_true, traverseToNode_false_snd]
  cases t.find p <;> rfl

theorem find_traverseToNode_true (t : FileNode) (p : List String) :
    (traverseToNode t p true).1.find p = some ((t.find p).getD .fresh) := by
  have h := traverseToNode_fst t p true
  rw [traverseToNode_false_snd, traverseToNode_true_snd] at h
  revert h
  cases (traverseToNode t p true).1.find p <;> simp [Option.elim]

theorem writeNode_of_find_none (f : FileNode → FileNode) {t : FileNode} {p : List String}
    (h : t.find p = none) : writeNode f t p = t := by
  induction p generalizing t with
  | nil => cases h
  | cons part p ih =>
    obtain ⟨cs, d⟩ := t
    cases hc : cs.lookup part with
    | none => simp [writeNode, hc]
    | some c =>
      have : c.find p = none := by simpa [FileNode.find_cons, hc] using h
      simp [writeNode, hc, ih this, setChild_of_lookup hc]

theorem find_writeNode_append (f : FileNode → FileNode) (t : FileNode) (p r : List String) :
    (writeNode f t p).find (p ++ r) = (t.find p).bind fun n => (f n).find r := by
  induction p generalizing t with
  | nil => rfl
  | cons part p ih =>
    obtain ⟨cs, d⟩ := t
    cases hc : cs.lookup part with
    | none => simp [writeNode, FileNode.find_cons, hc]
    | some c => simp [writeNode, hc, List.cons_append, find_setChild, ih, FileNode.find_cons]

theorem view_writeNode_off_subtree (f : FileNode → FileNode) (t : FileNode) {p q : List String}
    (h : ¬ p <+: q) : (writeNode f t p).view q = t.view q := by
  induction p generalizing t q with
  | nil => exact absurd List.nil_prefix h
  | cons part p ih =>
    obtain ⟨cs, d⟩ := t
    cases hc : cs.lookup part with
    | none => simp [writeNode, hc]
    | some c =>
      cases q with
      | nil => simp [writeNode, hc]
      | cons b q =>
        simp only [writeNode, children_mk, data_mk, hc, view_setChild]
        split
        · subst b
          rw [ih c (fun hp => h (List.cons_prefix_cons.2 ⟨rfl, hp⟩))]
          simp [view_cons, hc]
        · rfl

theorem view_writeNode_setNode {t n : FileNode} {p : List String} (val : String)
    (h : t.find p = some n) :
    (writeNode (_setNode · val) t p).view = Store.write t.view p (n.data.set val) := by
  funext q
  by_cases hq : p <+: q
  · obtain ⟨r, rfl⟩ := hq
    rw [FileNode.view, find_writeNode_append, h, Store.write, FileNode.view, FileNode.find_append, h]
    cases r with
    | nil => simp
    | cons b r => simp [FileNode.find_cons]
  · rw [view_writeNode_off_subtree _ _ hq, Store.write, if_neg (by rintro rfl; exact hq (List.prefix_refl q))]

theorem view_writeNode_deleteChild {t n : FileNode} {p : List String} (name : String)
    (h : t.find p = some n) :
    (writeNode (·.deleteChild name) t p).view = Store.erase t.view (p ++ [name]) := by
  funext q
  by_cases hq : p <+: q
  · obtain ⟨r, rfl⟩ := hq
    rw [FileNode.view, find_writeNode_append, h, Store.erase, FileNode.view, FileNode.find_append, h]
    cases r with
    | nil =>
      have : ¬ p ++ [name] <+: p := fun hp => absurd hp.length_le (by simp)
      simp [FileNode.deleteChild, this]
    | cons b r =>
      by_cases hb : b = name
      · subst hb
        simp [FileNode.find_cons, lookup_deleteChild]
      · have : ¬ p ++ [name] <+: p ++ b :: r := by simpa using Ne.symm hb
        simp [FileNode.find_cons, lookup_deleteChild_ne n hb, this]
  · rw [view_writeNode_off_subtree _ _ hq, Store.erase,
      if_neg (fun hp => hq ((List.prefix_append p [name]).trans hp))]

/-- `getNode` reads the store at the path's components. -/
theorem getNode_refines (t : FileNode) (path : String) :
    getNode t path = Store.get t.view (getNodePath path) := by
  rw [getNode_eq, traverseToNode_false_snd, Store.get, FileNode.view]
  cases t.find (getNodePath path) <;> rfl

/-- `existsNode` reports whether the store holds the path, and never fails. -/
theorem existsNode_refines (t : FileNode) (path : String) :
    existsNode t path = ((t.view (getNodePath path)).isSome, .ok ()) := by
  rw [existsNode_eq, getNode_refines, Store.get]
  cases t.view (getNodePath path) <;> rfl

/-- `createNode` never panics, and does to the store what `Store.create` does: the missing
prefixes of the path appear with empty data, and the path takes the value at the next
version unless its version is not `0`. -/
theorem createNode_refines (t : FileNode) (path val : String) :
    (createNode t path val).map (fun r => (r.1.view, r.2)) =
      .ok (Store.create t.view (getNodePath path) val) := by
  have hd : (t.view (getNodePath path)).getD {} = ((t.find (getNodePath path)).getD .fresh).data := by
    rw [FileNode.view]
    cases t.find (getNodePath path) <;> rfl
  simp only [createNode, traverseToNode_true_snd, Store.create, hd]
  split_ifs with hv
  · simp [Except.map, pure, Except.pure, view_traverseToNode_true]
  · simp [Except.map, pure, Except.pure, view_writeNode_setNode val (find_traverseToNode_true t _),
      view_traverseToNode_true]

/-- `setNode` does to the store what `Store.set` does: the path alone takes the value at the
next version, if the store holds it. -/
theorem setNode_refines (t : FileNode) (path val : String) :
    ((setNode t path val).1.view, (setNode t path val).2) =
      Store.set t.view (getNodePath path) val := by
  simp only [setNode, traverseToNode_false_snd, Store.set, FileNode.view]
  cases h : t.find (getNodePath path) with
  | none => simp [FileNode.view]
  | some n => simp [view_writeNode_setNode val h, FileNode.view]

/-- `deleteNode` does to the store what `Store.delete` does: the path and everything under it
go, if the store holds the path; a path without a component panics. -/
theorem deleteNode_refines (t : FileNode) (path : String) :
    (deleteNode t path).map (fun r => (r.1.view, r.2)) = Store.delete t.view (getNodePath path) := by
  unfold deleteNode Store.delete
  generalize getNodePath path = p
  dsimp only
  rw [traverseToNode_false_snd]
  cases h : t.find p with
  | none => simp [FileNode.view, h]; rfl
  | some n =>
    by_cases hp : p = []
    · subst hp
      simp [FileNode.view, h]
      rfl
    obtain ⟨l, x, rfl⟩ : ∃ l x, p = l ++ [x] := ⟨_, _, (List.dropLast_concat_getLast hp).symm⟩
    obtain ⟨m, hm, -⟩ := Option.bind_eq_some.1 (FileNode.find_append t l [x] ▸ h)
    simp [FileNode.view, h, hp, traverseToNode_false_snd, hm, Except.map, pure, Except.pure,
      view_writeNode_deleteChild x hm]

end Refinement

/-! ## Runs -/

/-- A call of one of the package's operations, as the database server (not in src/) makes
them on the tree it owns. -/
inductive TreeCall
  | createNode (path val : String)
  | setNode (path val : String)
  | deleteNode (path : String)
  | getNode (path : String)
  | existsNode (path : String)

/-- What a call returns. -/
inductive TreeReply
  | data (r : Except OsError DataNode)
  | stats (r : Except OsError StatNode)
  | found (r : Bool × Except OsError Unit)

/-- One call on the tree; a panic ends the run. -/
def FileNode.call (t : FileNode) : TreeCall → Except Fault (FileNode × TreeReply)
  | .createNode path val => (createNode t path val).map fun r => (r.1, .data r.2)
  | .setNode path val => pure ((setNode t path val).1, .data (setNode t path val).2)
  | .deleteNode path => (deleteNode t path).map fun r => (r.1, .stats r.2)
  | .getNode path => pure (t, .data (getNode t path))
  | .existsNode path => pure (t, .found (existsNode t path))

/-- Calls made one after another on the tree. -/
def FileNode.run (t : FileNode) : List TreeCall → Except Fault (FileNode × List TreeReply)
  | [] => pure (t, [])
  | c :: cs => do
    let (t, r) ← t.call c
    let (t, rs) ← t.run cs
    pure (t, r :: rs)

namespace Store

/-- One call on the store. -/
def call (s : List String → Option DataNode) :
    TreeCall → Except Fault ((List String → Option DataNode) × TreeReply)
  | .createNode path val =>
    pure ((create s (getNodePath path) val).1, .data (create s (getNodePath path) val).2)
  | .setNode path val =>
    pure ((set s (getNodePath path) val).1, .data (set s (getNodePath path) val).2)
  | .deleteNode path => (delete s (getNodePath path)).map fun r => (r.1, .stats r.2)
  | .getNode path => pure (s, .data (get s (getNodePath path)))
  | .existsNode path => pure (s, .found ((s (getNodePath path)).isSome, .ok ()))

/-- Calls made one after another on the store. -/
def run (s : List String → Option DataNode) :
    List TreeCall → Except Fault ((List String → Option DataNode) × List TreeReply)
  | [] => pure (s, [])
  | c :: cs => do
    let (s, r) ← call s c
    let (s, rs) ← run s cs
    pure (s, r :: rs)

end Store

theorem call_refines (t : FileNode) (c : TreeCall) :
    (t.call c).map (fun r => (r.1.view, r.2)) = Store.call t.view c := by
  cases c with
  | createNode path val =>
    have h := createNode_refines t path val
    simp only [FileNode.call, Store.call]
    cases hc : createNode t path val with
    | error e => rw [hc] at h; cases h
    | ok r => rw [hc] at h; rw [← Except.ok.inj h]; rfl
  | setNode path val => simp [FileNode.call, Store.call, ← setNode_refines]; rfl
  | deleteNode path =>
    simp only [FileNode.call, Store.call, ← deleteNode_refines]
    cases deleteNode t path <;> rfl
  | getNode path => simp [FileNode.call, Store.call, getNode_refines]; rfl
  | existsNode path => simp [FileNode.call, Store.call, existsNode_refines]; rfl

/-- The tree database implements the store of paths: from every tree, every sequence of
calls gives the replies the store gives, leaves the store the tree's view, and panics where
the store panics. -/
theorem run_refines (t : FileNode) (cs : List TreeCall) :
    (t.run cs).map (fun r => (r.1.view, r.2)) = Store.run t.view cs := by
  induction cs generalizing t with
  | nil => rfl
  | cons c cs ih =>
    rw [FileNode.run, Store.run, ← call_refines t c]
    cases t.call c with
    | error e => rfl
    | ok r =>
      obtain ⟨t', r⟩ := r
      change ((t'.run cs) >>= fun (t, rs) => pure (t, r :: rs)).map _ =
        Store.run t'.view cs >>= fun (s, rs) => pure (s, r :: rs)
      rw [← ih t']
      cases t'.run cs <;> rfl

/-! ## Versions -/

namespace Store

variable {s : List String → Option DataNode} {p q : List String}

/-- The `Version` of the node at `p`; `0` where there is none, as for a node just made. -/
def version (s : List String → Option DataNode) (p : List String) : UInt64 :=
  ((s p).map (·.stats.version)).getD 0

theorem version_eq : version s p = ((s p).getD {}).stats.version := by
  unfold version
  cases s p <;> rfl

@[simp] theorem version_fill : version (fill s q) p = version s p := by
  unfold version fill
  split_ifs with h
  · rw [h.2]; rfl
  · rfl

theorem version_write (d : DataNode) :
    version (write s q d) p = if p = q then d.stats.version else version s p := by
  unfold version write
  split_ifs <;> rfl

theorem version_erase (h : ¬ q <+: p) : version (erase s q) p = version s p := by
  unfold version erase
  rw [if_neg h]

end Store

/-- Whether call `c`, answered `r`, wrote the node at `p`: a `createNode` or `setNode` of `p`
that returned the node. -/
def TreeCall.writes (p : List String) : TreeCall → TreeReply → Bool
  | .createNode path _, .data (.ok _) => getNodePath path == p
  | .setNode path _, .data (.ok _) => getNodePath path == p
  | _, _ => false

/-- Whether call `c` deletes the node at `p` or one above it. -/
def TreeCall.deletesAbove (p : List String) : TreeCall → Bool
  | .deleteNode path => decide (getNodePath path <+: p)
  | _ => false

namespace Store

theorem version_write_set {s' : List String → Option DataNode} {d : DataNode} (val : String)
    (hd : (s q).getD {} = d) (hs : version s' p = version s p) :
    version (write s' q (d.set val)) p =
      if (q == p) = true then version s p + 1 else version s p := by
  rw [version_write]
  by_cases hp : p = q
  · subst hp; simp [version_eq, ← hd, DataNode.set]
  · simp [hp, Ne.symm hp, hs]

/-- A call adds one to the version at `p` when it writes `p` and leaves it otherwise, unless it
deletes `p` or a node above it. -/
theorem call_version {s s' : List String → Option DataNode} {c : TreeCall} {r : TreeReply}
    (h : call s c = .ok (s', r)) (hd : c.deletesAbove p = false) :
    version s' p = if c.writes p r then version s p + 1 else version s p := by
  cases c with
  | createNode path val =>
    obtain ⟨rfl, rfl⟩ := Prod.mk.inj ((pure_eq_ok _ _).1 h).symm
    simp only [create, ne_eq]
    by_cases hv : ((s (getNodePath path)).getD {}).stats.version = 0
    · simp only [hv, not_true_eq_false, if_false, TreeCall.writes]
      exact version_write_set val rfl version_fill
    · simp [hv, TreeCall.writes]
  | setNode path val =>
    obtain ⟨rfl, rfl⟩ := Prod.mk.inj ((pure_eq_ok _ _).1 h).symm
    rcases Option.eq_none_or_eq_some (s (getNodePath path)) with hq | ⟨d, hq⟩
    · simp [set, hq, TreeCall.writes]
    · simp only [set, hq, TreeCall.writes]
      exact version_write_set val (by rw [hq]; rfl) rfl
  | deleteNode path =>
    have hq : ¬ getNodePath path <+: p := by simpa [TreeCall.deletesAbove] using hd
    simp only [call, delete] at h
    cases hs : s (getNodePath path) with
    | none =>
      rw [hs] at h
      obtain ⟨rfl, rfl⟩ := Prod.mk.inj (Except.ok.inj h).symm
      rfl
    | some d =>
      rw [hs] at h
      split_ifs at h
      · cases h
      · obtain ⟨rfl, rfl⟩ := Prod.mk.inj (Except.ok.inj h).symm
        exact version_erase hq
  | getNode path =>
    obtain ⟨rfl, rfl⟩ := Prod.mk.inj ((pure_eq_ok _ _).1 h).symm
    simp [TreeCall.writes]
  | existsNode path =>
    obtain ⟨rfl, rfl⟩ := Prod.mk.inj ((pure_eq_ok _ _).1 h).symm
    simp [TreeCall.writes]

end Store

/-- A node's `Version` counts, modulo `2^64`, the calls of a run that created or set it: every
run of the tree's functions that deletes neither the node nor one above it ends with the
version it began with plus the number of its `createNode`s and `setNode`s that returned the
node. A node the run creates begins at `0`. -/
theorem run_version {t t' : FileNode} {cs : List TreeCall} {rs : List TreeReply}
    {p : List String} (h : t.run cs = .ok (t', rs)) (hd : ∀ c ∈ cs, c.deletesAbove p = false) :
    (Store.version t'.view p).toNat =
      ((Store.version t.view p).toNat + (cs.zip rs).countP fun cr => cr.1.writes p cr.2) %
        UInt64.size := by
  induction cs generalizing t rs with
  | nil =>
    obtain ⟨rfl, rfl⟩ := Prod.mk.inj ((pure_eq_ok _ _).1 h).symm
    simp [Nat.mod_eq_of_lt (UInt64.toNat_lt_size _)]
  | cons c cs ih =>
    obtain ⟨⟨t₁, r⟩, hc, h⟩ := (except_bind_eq_ok _ _ _).1 h
    obtain ⟨⟨t₂, rs'⟩, hr, h⟩ := (except_bind_eq_ok _ _ _).1 h
    obtain ⟨rfl, rfl⟩ := Prod.mk.inj ((pure_eq_ok _ _).1 h).symm
    have hs := call_refines t c
    rw [hc] at hs
    rw [ih hr fun c' hc' => hd c' (List.mem_cons_of_mem _ hc'),
      Store.call_version hs.symm (hd c (List.mem_cons_self _ _)), List.zip_cons_cons,
      List.countP_cons]
    split
    · simp [UInt64.toNat, UInt64.add_def, BitVec.toNat_add, UInt64.size]
      omega
    · simp

/-- From an empty root: `/a` is created, set, and has a child created under it. -/
theorem run_version_fresh :
    ∃ t' rs, FileNode.fresh.run [.createNode "/a" "x", .setNode "/a" "y",
        .createNode "/a/b" "z", .getNode "/a"] = .ok (t', rs) ∧
      (∀ c ∈ [TreeCall.createNode "/a" "x", .setNode "/a" "y", .createNode "/a/b" "z",
        .getNode "/a"], c.deletesAbove ["a"] = false) ∧
      (Store.version t'.view ["a"]).toNat =
        ((Store.version FileNode.fresh.view ["a"]).toNat +
          ([TreeCall.createNode "/a" "x", .setNode "/a" "y", .createNode "/a/b" "z",
            .getNode "/a"].zip rs).countP fun cr => cr.1.writes ["a"] cr.2) % UInt64.size :=
  ⟨_, _, rfl, by decide, run_version rfl (by decide)⟩

/-! ## Distinct names -/

/-- Every node's children have distinct names, as the keys of a Go map do. -/
def FileNode.KeysNodup (t : FileNode) : Prop :=
  ∀ p n, t.find p = some n → (n.children.map (·.1)).Nodup

theorem map_fst_setChild (cs : List (String × FileNode)) (name : String) (c : FileNode) :
    (setChild cs name c).map (·.1) =
      if name ∈ cs.map (·.1) then cs.map (·.1) else cs.map (·.1) ++ [name] := by
  induction cs with
  | nil => rfl
  | cons e cs ih =>
    by_cases he : e.1 = name
    · simp [setChild, he]
    · simp only [setChild, if_neg he, List.map_cons, ih, List.mem_cons, Ne.symm he, false_or]
      split <;> rfl

theorem keysNodup_mk (cs : List (String × FileNode)) (d : DataNode) :
    (FileNode.mk cs d).KeysNodup ↔
      (cs.map (·.1)).Nodup ∧ ∀ a c, cs.lookup a = some c → c.KeysNodup := by
  constructor
  · intro h
    refine ⟨h [] _ rfl, fun a c hc p n hn => h (a :: p) n ?_⟩
    simp [FileNode.find_cons, hc, hn]
  · rintro ⟨h₁, h₂⟩ p n hn
    cases p with
    | nil => cases hn; exact h₁
    | cons a p =>
      obtain ⟨c, hc, hn⟩ := Option.bind_eq_some.1 hn
      exact h₂ a c hc p n hn

theorem keysNodup_fresh : FileNode.fresh.KeysNodup :=
  (keysNodup_mk [] {}).2 ⟨List.nodup_nil, fun _ _ h => by cases h⟩

theorem keysNodup_setChild {cs : List (String × FileNode)} {d : DataNode} {name : String}
    {c : FileNode} (h : (FileNode.mk cs d).KeysNodup) (hc : c.KeysNodup) :
    (FileNode.mk (setChild cs name c) d).KeysNodup := by
  rw [keysNodup_mk] at h ⊢
  refine ⟨?_, fun a c' hl => ?_⟩
  · rw [map_fst_setChild]
    split
    · exact h.1
    · rw [← List.concat_eq_append]
      exact h.1.concat ‹_›
  · by_cases ha : a = name
    · subst ha
      rw [lookup_setChild_self] at hl
      exact Option.some.inj hl ▸ hc
    · exact h.2 a c' (lookup_setChild_ne c ha ▸ hl)

theorem keysNodup_traverseToNode_true {t : FileNode} (h : t.KeysNodup) (p : List String) :
    (traverseToNode t p true).1.KeysNodup := by
  induction p generalizing t with
  | nil => exact h
  | cons part p ih =>
    obtain ⟨cs, d⟩ := t
    cases hc : cs.lookup part with
    | none => simpa [traverseToNode, hc] using keysNodup_setChild h (ih keysNodup_fresh)
    | some c =>
      simpa [traverseToNode, hc] using
        keysNodup_setChild h (ih (((keysNodup_mk cs d).1 h).2 part c hc))

theorem keysNodup_writeNode {f : FileNode → FileNode} (hf : ∀ n, n.KeysNodup → (f n).KeysNodup)
    {t : FileNode} (h : t.KeysNodup) (p : List String) : (writeNode f t p).KeysNodup := by
  induction p generalizing t with
  | nil => exact hf t h
  | cons part p ih =>
    obtain ⟨cs, d⟩ := t
    cases hc : cs.lookup part with
    | none => simpa [writeNode, hc] using h
    | some c =>
      simpa [writeNode, hc] using keysNodup_setChild h (ih (((keysNodup_mk cs d).1 h).2 part c hc))

theorem keysNodup_setNode (n : FileNode) (val : String) (h : n.KeysNodup) :
    (_setNode n val).KeysNodup := by
  obtain ⟨cs, d⟩ := n
  exact (keysNodup_mk _ _).2 ((keysNodup_mk cs d).1 h)

theorem keysNodup_deleteChild (n : FileNode) (name : String) (h : n.KeysNodup) :
    (n.deleteChild name).KeysNodup := by
  obtain ⟨cs, d⟩ := n
  have h := (keysNodup_mk cs d).1 h
  refine (keysNodup_mk _ _).2 ⟨h.1.sublist ((List.filter_sublist cs).map _), fun a c hl => ?_⟩
  by_cases ha : a = name
  · subst ha
    exact absurd ((lookup_deleteChild (.mk cs d) a).symm.trans hl) (by simp)
  · exact h.2 a c (lookup_deleteChild_ne (.mk cs d) ha ▸ hl)

/-- From a root whose children have distinct names, every tree the writes reach has them. -/
theorem TreeReachable.keysNodup {root t : FileNode} (hr : root.KeysNodup)
    (h : TreeReachable root t) : t.KeysNodup := by
  induction h with
  | init => exact hr
  | create path val _ hc ih =>
    simp only [createNode, traverseToNode_true_snd] at hc
    split_ifs at hc <;> obtain ⟨rfl, -⟩ := Prod.mk.inj ((pure_eq_ok _ _).1 hc)
    · exact keysNodup_traverseToNode_true ih _
    · exact keysNodup_writeNode (keysNodup_setNode · val) (keysNodup_traverseToNode_true ih _) _
  | set path val _ ih =>
    simp only [setNode, traverseToNode_false_fst]
    split
    · exact ih
    · exact keysNodup_writeNode (keysNodup_setNode · val) ih _
  | delete path _ hd ih =>
    simp only [deleteNode, traverseToNode_false_fst] at hd
    split at hd
    · obtain ⟨rfl, -⟩ := Prod.mk.inj ((pure_eq_ok _ _).1 hd)
      exact ih
    · split at hd
      · cases hd
      · split at hd
        · obtain ⟨rfl, -⟩ := Prod.mk.inj ((pure_eq_ok _ _).1 hd)
          exact ih
        · obtain ⟨rfl, -⟩ := Prod.mk.inj ((pure_eq_ok _ _).1 hd)
          exact keysNodup_writeNode (keysNodup_deleteChild · _) ih _

end GoPhat
