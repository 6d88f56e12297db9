import GoPhat.VR.Defs

/-!
# The tree database

`phatdb.go`: a tree of nodes reached by the components of a slash-separated path. A `FileNode`
keeps its children in a Go map and its value with a version in a `DataNode`.
`GetNodePath` cuts a path at every `/` and drops the empty pieces, so the component lists it
returns are those of nonempty names without `/`, each read back from its joined path
(`getNodePath_joinPath`).
`traverseToNode` walks the path; with `createMissing` it creates every missing node on the way,
with an empty value and `Version` `0`. The functions write through the pointers the walk
returns, so here they return the new tree.

`createNode` refuses a node whose `Version` is not `0`, while `getNode`, `setNode` and
`deleteNode` accept any node the walk finds: a node `createNode` created on the way to another
is found by all three and still accepted by `createNode`. `deleteNode` slices `parts` before it
checks it has a component, so a path without one panics.
-/

namespace GoPhat

/-- `StatNode`, with the one counter the package writes. -/
structure StatNode where
  version : UInt64 := 0
  deriving DecidableEq, Repr

/-- `DataNode`. -/
structure DataNode where
  value : String := ""
  stats : StatNode := {}
  deriving DecidableEq, Repr

/-- `FileNode`. `Children` is a Go map, kept as a list of entries; the first entry for a name
is the child the map holds. -/
inductive FileNode
  | mk (children : List (String × FileNode)) (data : DataNode)

namespace FileNode

def children : FileNode → List (String × FileNode)
  | mk cs _ => cs

def data : FileNode → DataNode
  | mk _ d => d

/-- The node `traverseToNode` creates for a missing name: `&FileNode{}` with its `Children`
made and a zero `Data` and `Stats`. -/
def fresh : FileNode := mk [] {}

@[simp] theorem children_mk (cs : List (String × FileNode)) (d : DataNode) :
    (mk cs d).children = cs := rfl

@[simp] theorem data_mk (cs : List (String × FileNode)) (d : DataNode) : (mk cs d).data = d :=
  rfl

@[simp] theorem children_fresh : fresh.children = [] := rfl

@[simp] theorem data_fresh : fresh.data = {} := rfl

/-- `delete(Children, name)`. -/
def deleteChild (n : FileNode) (name : String) : FileNode :=
  mk (n.children.filter (·.1 ≠ name)) n.data

end FileNode

/-- The errors of package `os` that phatdb returns. -/
inductive OsError
  | errExist
  | errNotExist
  deriving DecidableEq, Repr

/-- `SplitOnSlash`. -/
def splitOnSlash (r : Char) : Bool := r == '/'

/-- `strings.FieldsFunc(s, f)`: the maximal runs of characters `f` rejects. -/
def fieldsFunc (s : String) (f : Char → Bool) : List String :=
  ((s.data.splitOnP f).filter (!·.isEmpty)).map String.mk

/-- `GetNodePath`. -/
def getNodePath (path : String) : List String := fieldsFunc path splitOnSlash

example : getNodePath "/a//b/" = ["a", "b"] := by decide

theorem mem_splitOnP {α : Type} {p : α → Bool} {l x : List α} (hx : x ∈ l.splitOnP p)
    {a : α} (ha : a ∈ x) : p a = false := by
  induction l generalizing x with
  | nil => simp_all
  | cons b l ih =>
    rw [List.splitOnP_cons] at hx
    split at hx <;> rename_i hb
    · rcases List.mem_cons.1 hx with rfl | hx
      · cases ha
      · exact ih hx ha
    · obtain ⟨y, ys, hy⟩ := List.exists_cons_of_ne_nil (List.splitOnP_ne_nil p l)
      rw [hy] at hx ih
      rcases List.mem_cons.1 hx with rfl | hx
      · rcases List.mem_cons.1 ha with rfl | ha
        · simpa using hb
        · exact ih (List.mem_cons_self _ _) ha
      · exact ih (List.mem_cons_of_mem _ hx) ha

/-- Every name `GetNodePath` returns is nonempty and has no `/`. -/
theorem getNodePath_wellFormed (path : String) :
    ∀ name ∈ getNodePath path, name ≠ "" ∧ '/' ∉ name.data := by
  simp only [getNodePath, fieldsFunc, List.mem_map, List.mem_filter]
  rintro _ ⟨x, ⟨hx, hne⟩, rfl⟩
  refine ⟨fun h => ?_, fun h => ?_⟩
  · rw [show x = [] from congrArg String.data h] at hne
    cases hne
  simpa [splitOnSlash] using mem_splitOnP hx h

/-- The path a client writes for the node under `names`: a leading `/`, then the names joined
by `/`. Not a function of the package. -/
def joinPath (names : List String) : String :=
  String.mk ('/' :: ['/'].intercalate (names.map String.data))

example : joinPath ["a", "b"] = "/a/b" := by decide

/-- `GetNodePath` reads back the names of a joined path exactly when each is nonempty and has no
`/`: the paths phatdb can address are the lists of such names, each written by `joinPath`. -/
theorem getNodePath_joinPath (names : List String) :
    getNodePath (joinPath names) = names ↔ ∀ name ∈ names, name ≠ "" ∧ '/' ∉ name.data := by
  refine ⟨fun h => h ▸ getNodePath_wellFormed _, fun h => ?_⟩
  have hs : splitOnSlash = (· == '/') := rfl
  simp only [getNodePath, fieldsFunc, joinPath, hs, List.splitOnP_cons, beq_self_eq_true,
    if_true, List.filter_cons, List.isEmpty_nil, Bool.not_true, Bool.false_eq_true, if_false]
  cases names with
  | nil => rfl
  | cons n ns =>
    have hsplit := List.splitOn_intercalate ((n :: ns).map String.data) '/'
      (by simpa using fun c hc => (h c hc).2) (by simp)
    have hne : ∀ c ∈ (n :: ns).map String.data, !c.isEmpty := by
      simp only [List.mem_map]
      rintro _ ⟨c, hc, rfl⟩
      simpa [List.isEmpty_iff] using fun hd => (h c hc).1 (String.ext hd)
    rw [← List.splitOn, hsplit, List.filter_eq_self.2 hne, List.map_map]
    exact List.map_id'' (fun _ => rfl) _

/-- `Children[name] = c`: the entry for `name` replaced, or added. -/
def setChild : List (String × FileNode) → String → FileNode → List (String × FileNode)
  | [], name, c => [(name, c)]
  | e :: cs, name, c => if e.1 = name then (name, c) :: cs else e :: setChild cs name c

theorem lookup_cons_ne {e : String × FileNode} {cs : List (String × FileNode)} {name : String}
    (h : e.1 ≠ name) : (e :: cs).lookup name = cs.lookup name := by
  rw [List.lookup_cons, beq_false_of_ne (Ne.symm h)]

@[simp] theorem lookup_setChild_self (cs : List (String × FileNode)) (name : String)
    (c : FileNode) : (setChild cs name c).lookup name = some c := by
  induction cs with
  | nil => simp [setChild]
  | cons e cs ih =>
    by_cases h : e.1 = name
    · simp [setChild, h]
    · rw [setChild, if_neg h, lookup_cons_ne h, ih]

theorem setChild_of_lookup {cs : List (String × FileNode)} {name : String} {c : FileNode}
    (h : cs.lookup name = some c) : setChild cs name c = cs := by
  induction cs with
  | nil => cases h
  | cons e cs ih =>
    by_cases hk : e.1 = name
    · obtain ⟨k, v⟩ := e
      subst hk
      simp only [List.lookup_cons_self, Option.some.injEq] at h
      simp [setChild, h]
    · rw [lookup_cons_ne hk] at h
      rw [setChild, if_neg hk, ih h]

/-- `traverseToNode(root, parts, createMissing)`: the tree with the nodes created on the way,
and the node reached or `os.ErrNotExist`. -/
def traverseToNode : FileNode → List String → Bool → FileNode × Except OsError FileNode
  | t, [], _ => (t, .ok t)
  | t, part :: parts, createMissing =>
    match t.children.lookup part with
    | some c =>
      let r := traverseToNode c parts createMissing
      (.mk (setChild t.children part r.1) t.data, r.2)
    | none =>
      if createMissing then
        let r := traverseToNode .fresh parts createMissing
        (.mk (setChild t.children part r.1) t.data, r.2)
      else (t, .error .errNotExist)

/-- A write through the pointer `traverseToNode` returned for `parts`: `f` applied to that
node. -/
def writeNode (f : FileNode → FileNode) : FileNode → List String → FileNode
  | t, [] => f t
  | t, part :: parts =>
    match t.children.lookup part with
    | some c => .mk (setChild t.children part (writeNode f c parts)) t.data
    | none => t

/-- `_setNode`. -/
def _setNode (n : FileNode) (val : String) : FileNode :=
  .mk n.children { n.data with value := val, stats.version := n.data.stats.version + 1 }

/-- `createNode`. The walk creates what is missing, so the error it drops is never set; had
it been, `n` would be nil. -/
def createNode (root : FileNode) (path val : String) :
    Except Fault (FileNode × Except OsError DataNode) :=
  let parts := getNodePath path
  let r := traverseToNode root parts true
  match r.2 with
  | .error _ => throw .nilDereference
  | .ok n =>
    if n.data.stats.version ≠ 0 then pure (r.1, .error .errExist)
    else pure (writeNode (_setNode · val) r.1 parts, .ok (_setNode n val).data)

/-- `deleteNode`. `parts[:len(parts)-1]` is evaluated before anything checks that `parts` has
a component; slicing out of range panics. -/
def deleteNode (root : FileNode) (path : String) :
    Except Fault (FileNode × Except OsError StatNode) :=
  let parts := getNodePath path
  let r := traverseToNode root parts false
  match r.2 with
  | .error e => pure (r.1, .error e)
  | .ok n =>
    if h : parts = [] then throw .indexOutOfRange
    else
      let r := traverseToNode r.1 parts.dropLast false
      match r.2 with
      | .error e => pure (r.1, .error e)
      | .ok _ =>
        pure (writeNode (·.deleteChild (parts.getLast h)) r.1 parts.dropLast, .ok n.data.stats)

/-- `existsNode`: whether the walk finds the node; a missing node is not an error. -/
def existsNode (root : FileNode) (path : String) : Bool × Except OsError Unit :=
  match (traverseToNode root (getNodePath path) false).2 with
  | .ok _ => (true, .ok ())
  | .error .errNotExist => (false, .ok ())
  | .error e => (false, .error e)

/-- `getChildren`: the names of the node's children. -/
def getChildren (root : FileNode) (path : String) : Except OsError (List String) := do
  let n ← (traverseToNode root (getNodePath path) false).2
  pure (n.children.map (·.1))

/-- `getNode`. -/
def getNode (root : FileNode) (path : String) : Except OsError DataNode := do
  let n ← (traverseToNode root (getNodePath path) false).2
  pure n.data

/-- `setNode`. -/
def setNode (root : FileNode) (path val : String) : FileNode × Except OsError DataNode :=
  let parts := getNodePath path
  let r := traverseToNode root parts false
  match r.2 with
  | .error e => (r.1, .error e)
  | .ok n => (writeNode (_setNode · val) r.1 parts, .ok (_setNode n val).data)

section Walk

variable (parts : List String)

@[simp] theorem traverseToNode_false_fst (t : FileNode) : (traverseToNode t parts false).1 = t := by
  induction parts generalizing t with
  | nil => rfl
  | cons part parts ih =>
    obtain ⟨cs, d⟩ := t
    cases h : cs.lookup part with
    | none => simp [traverseToNode, h]
    | some c => simp [traverseToNode, h, ih, setChild_of_lookup h]

theorem traverseToNode_false_error {t : FileNode} {e : OsError}
    (h : (traverseToNode t parts false).2 = .error e) : e = .errNotExist := by
  induction parts generalizing t with
  | nil => cases h
  | cons part parts ih =>
    obtain ⟨cs, d⟩ := t
    cases hl : cs.lookup part <;> simp [traverseToNode, hl] at h
    · exact h.symm
    · exact ih h

theorem traverseToNode_fresh : (traverseToNode .fresh parts true).2 = .ok .fresh := by
  induction parts with
  | nil => rfl
  | cons part parts ih => simpa [traverseToNode] using ih

theorem traverseToNode_true (t : FileNode) :
    (traverseToNode t parts true).2 = .ok (((traverseToNode t parts false).2.toOption).getD .fresh) := by
  induction parts generalizing t with
  | nil => rfl
  | cons part parts ih =>
    obtain ⟨cs, d⟩ := t
    cases h : cs.lookup part
    · cases parts <;> simp [traverseToNode, h, ih, traverseToNode_fresh, Except.toOption]
    · simp [traverseToNode, h, ih]

theorem traverseToNode_append (t : FileNode) (l₁ l₂ : List String) :
    (traverseToNode t (l₁ ++ l₂) false).2 =
      (traverseToNode t l₁ false).2 >>= fun n => (traverseToNode n l₂ false).2 := by
  induction l₁ generalizing t with
  | nil => rfl
  | cons part l₁ ih =>
    obtain ⟨cs, d⟩ := t
    cases h : cs.lookup part with
    | none => simp [traverseToNode, h]; rfl
    | some c => simp [traverseToNode, h, ih]

theorem traverseToNode_writeNode (f : FileNode → FileNode) (t : FileNode) :
    (traverseToNode (writeNode f t parts) parts false).2 =
      (traverseToNode t parts false).2.map f := by
  induction parts generalizing t with
  | nil => rfl
  | cons part parts ih =>
    obtain ⟨cs, d⟩ := t
    cases h : cs.lookup part with
    | none => simp [traverseToNode, writeNode, h]; rfl
    | some c => simp [traverseToNode, writeNode, h, ih]

theorem traverseToNode_append_ok {t n : FileNode} {l₁ l₂ : List String}
    (h : (traverseToNode t (l₁ ++ l₂) false).2 = .ok n) :
    ∃ p, (traverseToNode t l₁ false).2 = .ok p ∧ (traverseToNode p l₂ false).2 = .ok n :=
  (except_bind_eq_ok _ _ _).1 (traverseToNode_append t l₁ l₂ ▸ h)

end Walk

theorem lookup_deleteChild (n : FileNode) (name : String) :
    (n.deleteChild name).children.lookup name = none := by
  simpa [FileNode.deleteChild] using fun _ _ _ h => Ne.symm h

theorem getNode_eq (t : FileNode) (path : String) :
    getNode t path = (traverseToNode t (getNodePath path) false).2.map FileNode.data := by
  simp only [getNode]
  cases (traverseToNode t (getNodePath path) false).2 <;> rfl

theorem traverseToNode_fst (t : FileNode) (parts : List String) (createMissing : Bool) :
    (traverseToNode (traverseToNode t parts createMissing).1 parts false).2 =
      (traverseToNode t parts createMissing).2 := by
  induction parts generalizing t with
  | nil => rfl
  | cons part parts ih =>
    obtain ⟨cs, d⟩ := t
    cases h : cs.lookup part with
    | none => cases createMissing <;> simp [traverseToNode, h, ih]
    | some c => simp [traverseToNode, h, ih]

theorem createNode_of_error {t : FileNode} {path : String} (val : String) {e : OsError}
    (h : (traverseToNode t (getNodePath path) false).2 = .error e) :
    createNode t path val = .ok (writeNode (_setNode · val)
      (traverseToNode t (getNodePath path) true).1 (getNodePath path),
        .ok { value := val, stats := ⟨1⟩ }) := by
  simp [createNode, traverseToNode_true, h, Except.toOption, _setNode]

/-- What `createNode` returns is what `getNode` then reads. -/
theorem getNode_createNode {t t' : FileNode} {path val : String} {d : DataNode}
    (h : createNode t path val = .ok (t', .ok d)) : getNode t' path = .ok d := by
  simp only [createNode] at h
  cases hn : (traverseToNode t (getNodePath path) true).2 with
  | error e => simp [hn] at h
  | ok n =>
    by_cases hv : n.data.stats.version = 0 <;> simp [hn, hv] at h
    rw [← h.1, ← h.2, getNode_eq, traverseToNode_writeNode, traverseToNode_fst, hn]
    rfl

/-- What `setNode` returns is what `getNode` then reads. -/
theorem getNode_setNode {t t' : FileNode} {path val : String} {d : DataNode}
    (h : setNode t path val = (t', .ok d)) : getNode t' path = .ok d := by
  simp only [setNode] at h
  cases hn : (traverseToNode t (getNodePath path) false).2 with
  | error e => simp [hn] at h
  | ok n =>
    simp only [hn, traverseToNode_false_fst, Prod.mk.injEq, Except.ok.injEq] at h
    rw [← h.1, ← h.2, getNode_eq, traverseToNode_writeNode, hn]
    rfl

theorem deleteNode_of_nil {t : FileNode} {path : String} (h : getNodePath path = []) :
    deleteNode t path = .error .indexOutOfRange := by
  simp [deleteNode, h]
  rfl

theorem deleteNode_of_ne_nil (t : FileNode) {path : String} (h : getNodePath path ≠ []) :
    ∃ r, deleteNode t path = .ok r := by
  unfold deleteNode
  generalize getNodePath path = parts at h
  obtain ⟨l, x, rfl⟩ : ∃ l x, parts = l ++ [x] := ⟨_, _, (List.dropLast_concat_getLast h).symm⟩
  cases hn : (traverseToNode t (l ++ [x]) false).2 with
  | error e => simp [hn]
  | ok n =>
    obtain ⟨p, hp, -⟩ := traverseToNode_append_ok hn
    simp [hn, hp]

/-- `deleteNode` panics exactly on the paths without a component. -/
theorem deleteNode_eq_error_iff (t : FileNode) (path : String) (f : Fault) :
    deleteNode t path = .error f ↔ getNodePath path = [] ∧ f = .indexOutOfRange := by
  by_cases h : getNodePath path = []
  · simp only [deleteNode_of_nil h, Except.error.injEq, h, true_and]
    exact eq_comm
  · obtain ⟨r, hr⟩ := deleteNode_of_ne_nil t h
    simp [hr, h]

example : getNodePath "" = [] ∧ getNodePath "/" = [] ∧ getNodePath "//" = [] := by decide

/-- After `deleteNode` returns, the path is gone, whether it deleted the node or found none. -/
theorem getNode_deleteNode {t t' : FileNode} {path : String} {res : Except OsError StatNode}
    (h : deleteNode t path = .ok (t', res)) : getNode t' path = .error .errNotExist := by
  rw [getNode_eq]
  unfold deleteNode at h
  generalize getNodePath path = parts at h ⊢
  cases hn : (traverseToNode t parts false).2 with
  | error e =>
    simp only [hn, traverseToNode_false_fst, pure_eq_ok, Prod.mk.injEq] at h
    rw [← h.1, hn, traverseToNode_false_error parts hn]
    rfl
  | ok n =>
    by_cases hp : parts = []
    · subst hp
      simp [traverseToNode] at h
    obtain ⟨l, x, rfl⟩ : ∃ l x, parts = l ++ [x] :=
      ⟨_, _, (List.dropLast_concat_getLast hp).symm⟩
    obtain ⟨p, hp', -⟩ := traverseToNode_append_ok hn
    simp only [hn, hp, hp', dite_false, traverseToNode_false_fst, pure_eq_ok, Prod.mk.injEq,
      List.dropLast_concat, List.getLast_append_of_ne_nil, List.getLast_singleton] at h
    rw [← h.1, traverseToNode_append, traverseToNode_writeNode, hp']
    simp [Except.map, traverseToNode, lookup_deleteChild]

/-- `existsNode` reports the nodes `getNode` finds, and never an error. -/
theorem existsNode_eq (t : FileNode) (path : String) :
    existsNode t path = ((getNode t path).isOk, .ok ()) := by
  simp only [existsNode, getNode_eq]
  cases h : (traverseToNode t (getNodePath path) false).2 with
  | ok n => rfl
  | error e => rw [traverseToNode_false_error _ h]; rfl

/-- `setNode` fails exactly where `getNode` fails, with the same error. -/
theorem setNode_error_iff (t : FileNode) (path val : String) (e : OsError) :
    (setNode t path val).2 = .error e ↔ getNode t path = .error e := by
  simp only [setNode, getNode_eq]
  cases (traverseToNode t (getNodePath path) false).2 <;> simp [Except.map]

/-- The trees that `createNode`, `setNode` and `deleteNode` calls, none panicking, reach from
the database's initial tree `root`. -/
inductive TreeReachable (root : FileNode) : FileNode → Prop
  | init : TreeReachable root root
  | create {t t' : FileNode} (path val : String) {res : Except OsError DataNode} :
      TreeReachable root t → createNode t path val = .ok (t', res) → TreeReachable root t'
  | set {t : FileNode} (path val : String) :
      TreeReachable root t → TreeReachable root (setNode t path val).1
  | delete {t t' : FileNode} (path : String) {res : Except OsError StatNode} :
      TreeReachable root t → deleteNode t path = .ok (t', res) → TreeReachable root t'

/-- From any initial tree: delete `/a`, then create `/a/b`, which creates `/a` on the way with
`Version` `0`. Then `getNode` finds `/a`, and `createNode` of `/a` does not fail with
`os.ErrExist`. -/
theorem createNode_accepts_found_node_from (root : FileNode) :
    ∃ t, TreeReachable root t ∧ getNode t "/a" = .ok {} ∧
      ∀ t', createNode t "/a" "v" ≠ .ok (t', .error .errExist) := by
  have ha : getNodePath "/a" = ["a"] := by decide
  have hab : getNodePath "/a/b" = ["a", "b"] := by decide
  obtain ⟨⟨t₁, r₁⟩, h₁⟩ := deleteNode_of_ne_nil root (by decide : getNodePath "/a" ≠ [])
  have hg := getNode_deleteNode h₁
  obtain ⟨cs, d⟩ := t₁
  have hl : cs.lookup "a" = none := by
    rw [getNode_eq, ha] at hg
    cases h : cs.lookup "a" <;> simp [traverseToNode, h, Except.map] at hg ⊢
  have hc := createNode_of_error "x"
    (by rw [hab]; simp [traverseToNode, hl] :
      (traverseToNode (.mk cs d) (getNodePath "/a/b") false).2 = .error .errNotExist)
  refine ⟨_, .create "/a/b" "x" (.delete "/a" .init h₁) hc, ?_, fun t' => ?_⟩
  · simp [getNode_eq, ha, hab, traverseToNode, writeNode, hl, _setNode, Except.map]
  · simp [createNode, ha, hab, traverseToNode, writeNode, hl, _setNode]

/-- From the empty tree, a node `getNode` finds that `createNode` does not refuse. -/
theorem createNode_accepts_found_node :
    ∃ t, TreeReachable .fresh t ∧ getNode t "/a" = .ok {} ∧
      ∀ t', createNode t "/a" "v" ≠ .ok (t', .error .errExist) :=
  createNode_accepts_found_node_from .fresh

end GoPhat
