import GoPhat.VR.Defs
import Mathlib.Data.List.Basic

/-!
# The queue servers

`phatqueue.QueueServer` applies queue commands from its input channel one at a time and
answers each on the request's `Done` channel. A `SNAPSHOT` starts a goroutine, `encodeFunc`,
that reads the variable `mq` when it runs, encodes that queue and answers; the loop sets
`copyOnWrite` so that its next `PUSH`, `POP` or `DONE` works on a copy, and the goroutine
clears it once it has answered. `queuedisk.QueueServer` is the same loop without snapshots.

`MessageQueue` is not in src/: its methods are parameters (`MessageQueueOps`), and the queues
the loop allocates (`new(MessageQueue)`, `Copy`) live in a heap indexed by address, so that
`mq` and a goroutine's `mq_snap` are pointers as in the source.

Over every interleaving of the loop with the goroutines, each request is answered once
(`each_request_answered_once`). A snapshot is not taken when it is asked for, however: its
goroutine may read `mq` after a later write, or read it in time and see a later write made in place
because an earlier snapshot's goroutine cleared `copyOnWrite` (`snapshot_sees_later_push`).
Without snapshots the two servers answer alike (`serveAll_eq_diskRun`).
-/

namespace GoPhat

/-- The methods of `MessageQueue` the servers call, with the types their call sites give
them: a new queue, `Init`, `Push`, `Pop` (`nil` when there is nothing to pop), `Done`, `Len`,
`LenInProgress`, the contents of `Copy`'s result, and `Bytes`. `MessageQueue` is not in src/. -/
structure MessageQueueOps (Q M : Type) where
  zero : Q
  init : Q → Q
  push : Q → String → Q
  pop : Q → Option M × Q
  done : Q → String → Q
  len : Q → Nat
  lenInProgress : Q → Nat
  copy : Q → Q
  bytes : Q → Except String (List UInt8)

/-- `QCommand.Value`, an `interface{}`: a string, a snapshot's index function (here the index
it returns when the loop calls it), or a value of another type. -/
inductive QValue
  | str (s : String)
  | indexFn (index : Nat)
  | other
  deriving DecidableEq

/-- `QCommand`. -/
structure QCommand where
  command : String
  value : QValue

/-- `QResponse.Reply`, an `interface{}`. -/
inductive QReply (M : Type)
  | none
  | message (m : M)
  | count (n : Nat)
  | snapshot (data : List UInt8) (index : Nat)

/-- `QResponse`. -/
structure QResponse (M : Type) where
  reply : QReply M := .none
  error : String := ""

/-- The panic of a failed type assertion on `QCommand.Value`. -/
inductive QueueFault
  | typeAssertion
  deriving DecidableEq

/-- `req.Value.(string)`. -/
def QValue.asString : QValue → Except QueueFault String
  | .str s => .ok s
  | _ => .error .typeAssertion

/-- `req.Value.(func() uint)()`. -/
def QValue.asIndexFn : QValue → Except QueueFault Nat
  | .indexFn i => .ok i
  | _ => .error .typeAssertion

/-- `USE_COPY_ON_WRITE`. -/
def useCopyOnWrite : Bool := true

/-- An `encodeFunc` goroutine that has not answered yet: its request, the index the loop read,
and the queue it took from `mq`, once it has. -/
structure EncodeFunc where
  request : Nat
  index : Nat
  snap : Option Nat := none

/-- `mq_snap := mq`, taking queue `p`, in goroutine `g` if it is the one of request `r`. -/
def EncodeFunc.take (r p : Nat) (g : EncodeFunc) : EncodeFunc :=
  if g.request = r then { g with snap := some p } else g

@[simp] theorem EncodeFunc.take_request (r p : Nat) (g : EncodeFunc) :
    (g.take r p).request = g.request := by
  unfold EncodeFunc.take
  split <;> rfl

theorem EncodeFunc.take_of_eq {r p : Nat} {g : EncodeFunc} (h : g.request = r) :
    g.take r p = { g with snap := some p } :=
  if_pos h

theorem EncodeFunc.take_of_ne {r p : Nat} {g : EncodeFunc} (h : g.request ≠ r) : g.take r p = g :=
  if_neg h

/-- The state of `phatqueue.QueueServer` with its goroutines: the queues allocated so far,
the variables `mq` and `copyOnWrite`, the number of requests taken from `input`, the pending
goroutines, and the answers sent, with the number of the request each answers. -/
structure QueueServer (Q M : Type) where
  heap : Nat → Q
  allocated : Nat
  mq : Nat
  copyOnWrite : Bool
  received : Nat
  pending : List EncodeFunc
  replies : List (Nat × QResponse M)

namespace QueueServer

variable {Q M : Type} (ops : MessageQueueOps Q M)

/-- `mq := new(MessageQueue); mq.Init(); copyOnWrite := false`. -/
def init : QueueServer Q M where
  heap _ := ops.init ops.zero
  allocated := 1
  mq := 0
  copyOnWrite := false
  received := 0
  pending := []
  replies := []

/-- The queue `mq` points to. -/
def queue (s : QueueServer Q M) : Q := s.heap s.mq

/-- A write through `mq`. -/
def setQueue (s : QueueServer Q M) (q : Q) : QueueServer Q M :=
  { s with heap := Function.update s.heap s.mq q }

/-- `mq = mq.Copy()`: a new queue holding a copy, which `mq` then points to. -/
def copyMq (s : QueueServer Q M) : QueueServer Q M :=
  { s with
    heap := Function.update s.heap s.allocated (ops.copy s.queue)
    allocated := s.allocated + 1
    mq := s.allocated }

/-- `request.Done <- resp` for request `r`. -/
def reply (s : QueueServer Q M) (r : Nat) (resp : QResponse M) : QueueServer Q M :=
  { s with replies := s.replies ++ [(r, resp)] }

/-- What `encodeFunc` answers for the queue it encodes. -/
def encodeResponse (q : Q) (index : Nat) : QResponse M :=
  match ops.bytes q with
  | .ok data => { reply := .snapshot data index }
  | .error e => { error := e }

/-- The commands that copy the queue first while `copyOnWrite` is set. -/
def writes (command : String) : Bool := command = "PUSH" || command = "POP" || command = "DONE"

/-- The top of the loop body: the request taken from `input`, and `mq = mq.Copy()` before a
write while `copyOnWrite` is set. -/
def receive (s : QueueServer Q M) (cmd : QCommand) : QueueServer Q M :=
  let s := { s with received := s.received + 1 }
  if s.copyOnWrite && writes cmd.command then { s.copyMq ops with copyOnWrite := false } else s

/-- The loop's `switch` on the command of request `r`. -/
def dispatch (s : QueueServer Q M) (r : Nat) (cmd : QCommand) :
    Except QueueFault (QueueServer Q M) :=
  match cmd.command with
  | "PUSH" => do
    let v ← cmd.value.asString
    pure ((s.setQueue (ops.push s.queue v)).reply r {})
  | "POP" =>
    let (v, q) := ops.pop s.queue
    pure ((s.setQueue q).reply r
      (match v with
        | some m => { reply := .message m }
        | none => { error := "Nothing to pop" }))
  | "DONE" => do
    let v ← cmd.value.asString
    pure ((s.setQueue (ops.done s.queue v)).reply r {})
  | "LEN" => pure (s.reply r { reply := .count (ops.len s.queue) })
  | "LEN_IN_PROGRESS" => pure (s.reply r { reply := .count (ops.lenInProgress s.queue) })
  | "SNAPSHOT" => do
    let index ← cmd.value.asIndexFn
    if useCopyOnWrite then
      pure { s with copyOnWrite := true, pending := s.pending ++ [{ request := r, index }] }
    else pure { s.reply r (encodeResponse ops s.queue index) with copyOnWrite := false }
  | _ => pure (s.reply r { error := "Unknown command" })

/-- One iteration of the command loop, on the next request. -/
def serve (s : QueueServer Q M) (cmd : QCommand) : Except QueueFault (QueueServer Q M) :=
  (s.receive ops cmd).dispatch ops s.received cmd

/-- `mq_snap := mq` in the goroutine of request `r`. -/
def load (s : QueueServer Q M) (r : Nat) : Option (QueueServer Q M) :=
  match s.pending.find? (·.request = r) with
  | some { snap := none, .. } =>
    some { s with pending := s.pending.map (EncodeFunc.take r s.mq) }
  | _ => none

/-- The rest of the goroutine of request `r`: `Bytes` of the queue it took, the answer, and
`copyOnWrite = false`. -/
def encode (s : QueueServer Q M) (r : Nat) : Option (QueueServer Q M) :=
  match s.pending.find? (·.request = r) with
  | some { snap := some p, index, .. } =>
    some { s.reply r (encodeResponse ops (s.heap p) index) with
      copyOnWrite := false
      pending := s.pending.filter (·.request ≠ r) }
  | _ => none

/-- The states the server reaches, the loop and the goroutines interleaved in any order. -/
inductive Reachable : QueueServer Q M → Prop
  | init : Reachable (init ops)
  | serve {s s' : QueueServer Q M} (cmd : QCommand) :
      Reachable s → serve ops s cmd = .ok s' → Reachable s'
  | load {s s' : QueueServer Q M} (r : Nat) : Reachable s → load s r = some s' → Reachable s'
  | encode {s s' : QueueServer Q M} (r : Nat) :
      Reachable s → encode ops s r = some s' → Reachable s'

/-! ## Each request is answered once -/

/-- The requests answered, and those whose goroutine will answer. -/
def answered (s : QueueServer Q M) : List Nat := s.replies.map (·.1) ++ s.pending.map (·.request)

variable {ops}

@[simp] theorem setQueue_received (s : QueueServer Q M) (q : Q) :
    (s.setQueue q).received = s.received := rfl

@[simp] theorem setQueue_answered (s : QueueServer Q M) (q : Q) :
    (s.setQueue q).answered = s.answered := rfl

@[simp] theorem reply_received (s : QueueServer Q M) (r : Nat) (resp : QResponse M) :
    (s.reply r resp).received = s.received := rfl

@[simp] theorem reply_answered (s : QueueServer Q M) (r : Nat) (resp : QResponse M) :
    (s.reply r resp).answered = s.replies.map (·.1) ++ [r] ++ s.pending.map (·.request) := by
  simp [reply, answered]

theorem receive_received (s : QueueServer Q M) (cmd : QCommand) :
    (s.receive ops cmd).received = s.received + 1 := by
  unfold receive
  dsimp only
  split <;> rfl

theorem receive_answered (s : QueueServer Q M) (cmd : QCommand) :
    (s.receive ops cmd).answered = s.answered := by
  unfold receive
  dsimp only
  split <;> rfl

theorem dispatch_answered {s s' : QueueServer Q M} {r : Nat} {cmd : QCommand}
    (h : dispatch ops s r cmd = .ok s') :
    s'.received = s.received ∧ s'.answered.Perm (s.answered ++ [r]) := by
  -- every command but `SNAPSHOT` answers `r`, after at most a write through `mq`
  have answers : ∀ {s₀ : QueueServer Q M} {resp},
      pure (s₀.reply r resp) = (.ok s' : Except QueueFault _) → s₀.received = s.received →
      s₀.answered = s.answered → s'.received = s.received ∧ s'.answered.Perm (s.answered ++ [r]) := by
    intro s₀ resp h h₁ h₂
    obtain rfl := (pure_eq_ok _ _).1 h
    refine ⟨h₁, ?_⟩
    rw [reply_answered, ← h₂, answered, List.append_assoc, List.append_assoc]
    exact List.perm_append_comm.append_left _
  unfold dispatch at h
  split at h
  case h_1 => -- `PUSH`
    obtain ⟨_, -, h⟩ := (except_bind_eq_ok _ _ _).1 h
    exact answers h rfl rfl
  case h_2 => -- `POP`
    split at h
    exact answers h rfl rfl
  case h_3 => -- `DONE`
    obtain ⟨_, -, h⟩ := (except_bind_eq_ok _ _ _).1 h
    exact answers h rfl rfl
  case h_4 => exact answers h rfl rfl -- `LEN`
  case h_5 => exact answers h rfl rfl -- `LEN_IN_PROGRESS`
  case h_6 => -- `SNAPSHOT`: the goroutine of `r` is to answer
    obtain ⟨_, -, h⟩ := (except_bind_eq_ok _ _ _).1 h
    simp only [useCopyOnWrite, ↓reduceIte] at h
    obtain rfl := (pure_eq_ok _ _).1 h
    exact ⟨rfl, by simp [answered]⟩
  case h_7 => exact answers h rfl rfl -- an unknown command

theorem serve_answered {s s' : QueueServer Q M} {cmd : QCommand} (h : serve ops s cmd = .ok s') :
    s'.received = s.received + 1 ∧ s'.answered.Perm (s.answered ++ [s.received]) := by
  obtain ⟨h₁, h₂⟩ := dispatch_answered h
  rw [receive_answered] at h₂
  exact ⟨h₁.trans (receive_received _ _), h₂⟩

theorem load_answered {s s' : QueueServer Q M} {r : Nat} (h : s.load r = some s') :
    s'.received = s.received ∧ s'.answered = s.answered := by
  unfold load at h
  split at h
  · obtain rfl := Option.some.inj h
    refine ⟨rfl, ?_⟩
    simp [answered, List.map_map, Function.comp_def]
  · cases h

theorem encode_answered {s s' : QueueServer Q M} {r : Nat}
    (hn : (s.pending.map (·.request)).Nodup) (h : encode ops s r = some s') :
    s'.received = s.received ∧ s'.answered.Perm s.answered := by
  unfold encode at h
  split at h
  · rename_i g _ _ _ hg
    obtain rfl := Option.some.inj h
    have hr : r ∈ s.pending.map (·.request) :=
      List.mem_map.2 ⟨_, List.mem_of_find?_eq_some hg, by simpa using List.find?_some hg⟩
    have hf : (s.pending.filter (·.request ≠ r)).map (·.request) =
        (s.pending.map (·.request)).erase r := by
      rw [hn.erase_eq_filter, List.filter_map]
      exact congrArg _ (List.filter_congr fun x _ => by by_cases hx : x.request = r <;> simp [hx])
    refine ⟨rfl, ?_⟩
    simp only [answered, reply, List.map_append, List.map_cons, List.map_nil, List.append_assoc,
      List.singleton_append, hf]
    exact ((List.perm_cons_erase hr).append_left _).symm
  · cases h

theorem Reachable.answered_perm {s : QueueServer Q M} (h : Reachable ops s) :
    s.answered.Perm (List.range s.received) := by
  induction h with
  | init => rfl
  | serve cmd _ hs ih =>
    obtain ⟨h₁, h₂⟩ := serve_answered hs
    rw [h₁, List.range_succ]
    exact h₂.trans (ih.append_right _)
  | load r _ hs ih =>
    obtain ⟨h₁, h₂⟩ := load_answered hs
    rw [h₁, h₂]
    exact ih
  | encode r _ hs ih =>
    have hn := (ih.nodup_iff.2 (List.nodup_range _)).of_append_right
    obtain ⟨h₁, h₂⟩ := encode_answered hn hs
    rw [h₁]
    exact h₂.trans ih

/-- Over every interleaving of the loop with the snapshot goroutines, the requests answered
and those whose goroutine is still to answer are the requests received, each once. -/
theorem each_request_answered_once {s : QueueServer Q M} (h : Reachable ops s) :
    (s.replies.map (·.1) ++ s.pending.map (·.request)).Perm (List.range s.received) :=
  h.answered_perm

/-- With a list of strings for `MessageQueue`, after a `SNAPSHOT` request the one request
received waits for its goroutine. -/
theorem each_request_answered_once_snapshot :
    let ops : MessageQueueOps (List String) String :=
      { zero := [], init := id, push := fun q v => q ++ [v], pop := fun q => (q.head?, q.tail),
        done := fun q _ => q, len := List.length, lenInProgress := fun _ => 0, copy := id,
        bytes := fun _ => .ok [] }
    let s : QueueServer (List String) String :=
      { init ops with received := 1, copyOnWrite := true, pending := [{ request := 0, index := 7 }] }
    Reachable ops s ∧ (s.replies.map (·.1) ++ s.pending.map (·.request)).Perm (List.range 1) :=
  by
  intro ops s
  have h : Reachable ops s := .serve ⟨"SNAPSHOT", .indexFn 7⟩ .init rfl
  exact ⟨h, each_request_answered_once h⟩

/-! ## Snapshots see later writes -/

/-- What can happen next: the loop serves the next request, or the goroutine of a snapshot
request takes `mq` or encodes. -/
inductive Action
  | serve (cmd : QCommand)
  | load (r : Nat)
  | encode (r : Nat)

variable (ops) in
/-- One step; `none` when the step is not enabled or the loop panics. -/
def step (s : QueueServer Q M) : Action → Option (QueueServer Q M)
  | .serve cmd => (serve ops s cmd).toOption
  | .load r => s.load r
  | .encode r => encode ops s r

variable (ops) in
/-- Steps one after another. -/
def run (s : QueueServer Q M) : List Action → Option (QueueServer Q M)
  | [] => some s
  | a :: as => (step ops s a).bind (run · as)

theorem run_serve {s s' : QueueServer Q M} {cmd : QCommand} (h : serve ops s cmd = .ok s')
    (as : List Action) : run ops s (.serve cmd :: as) = run ops s' as := by
  simp [run, step, h, Except.toOption]

theorem run_load {s s' : QueueServer Q M} {r : Nat} (h : s.load r = some s') (as : List Action) :
    run ops s (.load r :: as) = run ops s' as := by
  simp [run, step, h]

theorem run_encode {s s' : QueueServer Q M} {r : Nat} (h : encode ops s r = some s')
    (as : List Action) : run ops s (.encode r :: as) = run ops s' as := by
  simp [run, step, h]

theorem serve_snapshot (s : QueueServer Q M) (i : Nat) :
    serve ops s ⟨"SNAPSHOT", .indexFn i⟩ = .ok { s with
      received := s.received + 1, copyOnWrite := true
      pending := s.pending ++ [{ request := s.received, index := i }] } := by
  simp [serve, receive, writes, dispatch, QValue.asIndexFn, useCopyOnWrite]

theorem serve_push_copy {s : QueueServer Q M} (hs : s.copyOnWrite = true) (v : String) :
    serve ops s ⟨"PUSH", .str v⟩ = .ok { s with
      heap := Function.update s.heap s.allocated (ops.push (ops.copy s.queue) v)
      allocated := s.allocated + 1, mq := s.allocated, copyOnWrite := false
      received := s.received + 1, replies := s.replies ++ [(s.received, {})] } := by
  simp [serve, receive, writes, dispatch, QValue.asString, hs, copyMq, setQueue, reply, queue]

theorem serve_push_inPlace {s : QueueServer Q M} (hs : s.copyOnWrite = false) (v : String) :
    serve ops s ⟨"PUSH", .str v⟩ = .ok { s with
      heap := Function.update s.heap s.mq (ops.push s.queue v)
      received := s.received + 1, replies := s.replies ++ [(s.received, {})] } := by
  simp [serve, receive, writes, dispatch, QValue.asString, hs, setQueue, reply, queue]

theorem load_eq {s : QueueServer Q M} {r i : Nat}
    (h : s.pending.find? (·.request = r) = some { request := r, index := i }) :
    s.load r = some { s with pending := s.pending.map (EncodeFunc.take r s.mq) } := by
  simp [load, h]

theorem encode_eq {s : QueueServer Q M} {r i p : Nat}
    (h : s.pending.find? (·.request = r) = some { request := r, index := i, snap := some p }) :
    encode ops s r = some { s.reply r (encodeResponse ops (s.heap p) i) with
      copyOnWrite := false, pending := s.pending.filter (·.request ≠ r) } := by
  simp [encode, h]

theorem pending_lt {s : QueueServer Q M} (h : Reachable ops s) :
    ∀ g ∈ s.pending, g.request < s.received := fun _ hg =>
  List.mem_range.1 (h.answered_perm.subset
    (List.mem_append_right _ (List.mem_map_of_mem _ hg)))

/-! The goroutines a reachable server has pending are those of earlier requests
(`pending_lt`): a new request's goroutine is found, takes `mq` and leaves as if they were not
there. -/

section Fresh

variable {P : List EncodeFunc} {n r : Nat} (hP : ∀ g ∈ P, g.request < n) (hr : n ≤ r)
include hP hr

theorem find?_fresh_append (G : List EncodeFunc) :
    (P ++ G).find? (·.request = r) = G.find? (·.request = r) := by
  rw [List.find?_append, List.find?_eq_none.2 fun g hg => by have := hP g hg; simp; omega]
  rfl

theorem map_take_fresh (p : Nat) : P.map (EncodeFunc.take r p) = P :=
  (List.map_congr_left fun g hg => EncodeFunc.take_of_ne (by have := hP g hg; omega)).trans
    (List.map_id P)

theorem filter_fresh : P.filter (·.request ≠ r) = P :=
  List.filter_eq_self.2 fun g hg => by have := hP g hg; simp; omega

end Fresh

/-- From any state the server reaches: a snapshot whose goroutine runs after the next `PUSH`
encodes the queue with that push in it; and of two snapshots in a row, once the first
goroutine has answered and cleared `copyOnWrite`, a `PUSH` writes in place the queue the
second goroutine has already taken, which it then encodes. Either way the answer carries the
index read when the snapshot was asked for. -/
theorem snapshot_sees_later_push {s : QueueServer Q M} (hs : Reachable ops s)
    (i j : Nat) (v : String) :
    ((s.run ops [.serve ⟨"SNAPSHOT", .indexFn i⟩, .serve ⟨"PUSH", .str v⟩, .load s.received,
        .encode s.received]).map (·.replies.getLast?) =
      some (some (s.received, encodeResponse ops (ops.push (ops.copy s.queue) v) i))) ∧
    ((s.run ops [.serve ⟨"SNAPSHOT", .indexFn i⟩, .serve ⟨"SNAPSHOT", .indexFn j⟩,
        .load s.received, .encode s.received, .load (s.received + 1), .serve ⟨"PUSH", .str v⟩,
        .encode (s.received + 1)]).map (·.replies.getLast?) =
      some (some (s.received + 1, encodeResponse ops (ops.push s.queue v) j))) := by
  have hP := pending_lt hs
  constructor
  · -- `SNAPSHOT` queues the goroutine of request `s.received` and sets `copyOnWrite`; `PUSH`
    -- then copies the queue to `s.allocated`, points `mq` there and pushes; the goroutine takes
    -- `mq` only now, the copy with the push in it
    rw [run_serve (serve_snapshot s i), run_serve (serve_push_copy rfl v),
      run_load (load_eq (i := i) ?_), run_encode (encode_eq (i := i) (p := s.allocated) ?_)]
    · simp [run, queue, reply]
    all_goals simp [find?_fresh_append hP le_rfl, map_take_fresh hP le_rfl, EncodeFunc.take]
  · -- the first goroutine takes `mq` and answers, which clears `copyOnWrite`; the second takes
    -- the same queue, which `PUSH` then writes in place
    rw [run_serve (serve_snapshot s i), run_serve (serve_snapshot _ j),
      run_load (load_eq (i := i) ?_), run_encode (encode_eq (i := i) (p := s.mq) ?_),
      run_load (load_eq (i := j) ?_), run_serve (serve_push_inPlace rfl v),
      run_encode (encode_eq (i := j) (p := s.mq) ?_)]
    · simp [run, queue, reply]
    all_goals
      simp only [List.map_append, List.filter_append, List.append_assoc, map_take_fresh hP le_rfl,
        map_take_fresh hP (Nat.le_succ _), filter_fresh hP le_rfl, find?_fresh_append hP le_rfl,
        find?_fresh_append hP (Nat.le_succ _)]
      simp [EncodeFunc.take, reply]

/-- With a list of strings for `MessageQueue`, from a fresh server: the snapshot asked for
before `PUSH "a"` holds `"a"`. -/
theorem snapshot_sees_later_push_init :
    let ops : MessageQueueOps (List String) String :=
      { zero := [], init := id, push := fun q v => q ++ [v], pop := fun q => (q.head?, q.tail),
        done := fun q _ => q, len := List.length, lenInProgress := fun _ => 0, copy := id,
        bytes := fun q => .ok (q.map String.length |>.map Nat.toUInt8) }
    Reachable ops (init ops) ∧
      ((run ops (init ops) [.serve ⟨"SNAPSHOT", .indexFn 1⟩, .serve ⟨"PUSH", .str "a"⟩,
          .load 0, .encode 0]).map (·.replies.getLast?) =
        some (some (0, encodeResponse ops ["a"] 1))) ∧
      ((run ops (init ops) [.serve ⟨"SNAPSHOT", .indexFn 1⟩, .serve ⟨"SNAPSHOT", .indexFn 2⟩,
          .load 0, .encode 0, .load 1, .serve ⟨"PUSH", .str "a"⟩, .encode 1]).map
          (·.replies.getLast?) =
        some (some (1, encodeResponse ops ["a"] 2))) :=
  ⟨.init, snapshot_sees_later_push .init 1 2 "a"⟩

/-! ## The server without snapshots -/

variable (ops) in
/-- The loop alone on a sequence of requests. -/
def serveAll (s : QueueServer Q M) : List QCommand → Except QueueFault (QueueServer Q M)
  | [] => pure s
  | cmd :: cmds => do serveAll (← serve ops s cmd) cmds

end QueueServer

/-- `queuedisk.QCommand`, whose `Value` is a string. -/
structure DiskCommand where
  command : String
  value : String

/-- A `queuedisk` command as `phatqueue` receives it. -/
def DiskCommand.toQCommand (c : DiskCommand) : QCommand := ⟨c.command, .str c.value⟩

section Disk

variable {Q M : Type} (ops : MessageQueueOps Q M)

/-- The queue `queuedisk.QueueServer` starts from: `mq.Init()` on the zero `MessageQueue{}`
when there is no backup file; otherwise `decoder.Decode(mq)`, which is handed the queue and not
a pointer to it, so gob refuses it and the queue stays the zero one. -/
def diskInit (backupExists : Bool) : Q := if backupExists then ops.zero else ops.init ops.zero

/-- One iteration of `queuedisk.QueueServer`'s loop: the queue and the answer. -/
def diskServe (q : Q) (cmd : DiskCommand) : Q × QResponse M :=
  match cmd.command with
  | "PUSH" => (ops.push q cmd.value, {})
  | "POP" =>
    let (v, q) := ops.pop q
    (q, match v with
      | some m => { reply := .message m }
      | none => { error := "Nothing to pop" })
  | "DONE" => (ops.done q cmd.value, {})
  | "LEN" => (q, { reply := .count (ops.len q) })
  | "LEN_IN_PROGRESS" => (q, { reply := .count (ops.lenInProgress q) })
  | _ => (q, { error := "Unknown command" })

/-- `queuedisk.QueueServer` on a sequence of requests: the queue and the answers. -/
def diskRun (q : Q) : List DiskCommand → Q × List (QResponse M)
  | [] => (q, [])
  | cmd :: cmds =>
    let (q, resp) := diskServe ops q cmd
    let (q, resps) := diskRun q cmds
    (q, resp :: resps)

variable {ops}

/-- While `copyOnWrite` is clear, `phatqueue`'s loop does to its queue what `queuedisk`'s does,
and answers the same, for any command but `SNAPSHOT`. -/
theorem serve_diskServe {s : QueueServer Q M} (hs : s.copyOnWrite = false) {c : DiskCommand}
    (hc : c.command ≠ "SNAPSHOT") :
    ∃ s', s.serve ops c.toQCommand = .ok s' ∧ s'.queue = (diskServe ops s.queue c).1 ∧
      s'.replies = s.replies ++ [(s.received, (diskServe ops s.queue c).2)] ∧
      s'.copyOnWrite = false := by
  have hr : ∀ cmd, s.receive ops cmd = { s with received := s.received + 1 } := fun _ => by
    simp [QueueServer.receive, hs]
  obtain ⟨command, value⟩ := c
  simp only [QueueServer.serve, hr, DiskCommand.toQCommand, QueueServer.dispatch, diskServe] at hc ⊢
  split
  case h_6 => exact absurd rfl hc
  all_goals simp_all only [QValue.asString, QueueServer.setQueue, QueueServer.reply,
    QueueServer.queue, Function.update_same, except_ok_bind, pure, Except.pure, Except.ok.injEq,
    exists_eq_left', and_self]

theorem serveAll_diskRun {s : QueueServer Q M} (hs : s.copyOnWrite = false)
    (cmds : List DiskCommand) (h : ∀ c ∈ cmds, c.command ≠ "SNAPSHOT") :
    ∃ s', QueueServer.serveAll ops s (cmds.map DiskCommand.toQCommand) = .ok s' ∧
      s'.queue = (diskRun ops s.queue cmds).1 ∧
      s'.replies.map (·.2) = s.replies.map (·.2) ++ (diskRun ops s.queue cmds).2 := by
  induction cmds generalizing s with
  | nil => exact ⟨s, rfl, rfl, by simp [diskRun]⟩
  | cons c cmds ih =>
    obtain ⟨s₁, h₁, hq, hr, hc⟩ := @serve_diskServe _ _ ops _ hs _ (h c (List.mem_cons_self _ _))
    obtain ⟨s', h', hq', hr'⟩ := ih hc fun c hc => h c (List.mem_cons_of_mem _ hc)
    refine ⟨s', by simp [QueueServer.serveAll, h₁, h'], by simp [diskRun, hq', hq], ?_⟩
    simp [diskRun, hr', hr, hq]

/-- Asked no `SNAPSHOT`, `phatqueue.QueueServer` and `queuedisk.QueueServer` started without a
backup file keep the same queue and give the same answers, in the same order, whatever the
requests and whatever `MessageQueue` does. -/
theorem serveAll_eq_diskRun (cmds : List DiskCommand) (h : ∀ c ∈ cmds, c.command ≠ "SNAPSHOT") :
    (QueueServer.serveAll ops (QueueServer.init ops) (cmds.map DiskCommand.toQCommand)).map
      (fun s => (s.queue, s.replies.map (·.2))) = .ok (diskRun ops (diskInit ops false) cmds) := by
  obtain ⟨s', h', hq, hr⟩ := serveAll_diskRun (s := QueueServer.init ops) rfl cmds h
  rw [h']
  simp only [Except.map, hq, hr]
  rfl

end Disk

/-- With a list of strings for `MessageQueue`, `PUSH "a"` then `POP`: both servers answer
alike. -/
theorem serveAll_eq_diskRun_pushPop :
    let ops : MessageQueueOps (List String) String :=
      { zero := [], init := id, push := fun q v => q ++ [v], pop := fun q => (q.head?, q.tail),
        done := fun q _ => q, len := List.length, lenInProgress := fun _ => 0, copy := id,
        bytes := fun _ => .ok [] }
    let cmds : List DiskCommand := [⟨"PUSH", "a"⟩, ⟨"POP", ""⟩]
    (∀ c ∈ cmds, c.command ≠ "SNAPSHOT") ∧
      (QueueServer.serveAll ops (QueueServer.init ops) (cmds.map DiskCommand.toQCommand)).map
        (fun s => (s.queue, s.replies.map (·.2))) = .ok (diskRun ops (diskInit ops false) cmds) :=
  ⟨by decide, serveAll_eq_diskRun _ (by decide)⟩

end GoPhat
