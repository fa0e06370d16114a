import Mathlib.Data.List.AList
import Mathlib.Logic.Relation

/-!
VsphereCsi.Volume.TaskMap — the task registry of `pkg/common/cns-lib/volume`
as an interleaving system, in the three shapes the repository ships:
`TaskMapFixed` and `TaskMapBuggy` of `race_demo.go`, and `TaskMap` of
`panic_demo.go`.

The registry is a Go `map[string]int` behind a `sync.RWMutex`. Each method
is cut where the source cuts it: the lock call, the ONE map access, and the
deferred unlock together with the return. `Upsert` and `Delete` take `Lock`;
`TaskMapFixed.Count` takes `RLock`; `TaskMapBuggy.Count` and
`TaskMap.CountBuggy` take nothing, so their lock and unlock steps stutter.

* `RWMutex` — the mutex as explicit state (writer held, readers). `Lock`
  waits for no writer and no reader, `RLock` for no writer. Go's writer
  preference (a waiting writer holds back new readers) is NOT modelled: it
  only removes schedules, so a safety fact proved here holds of the real
  mutex as well.
* `Local` — one step of one thread over the shared state. `Step` lifts it
  to the thread list `pre ++ pc :: post`: any thread may move next, so
  every interleaving of any number of threads is a run.
* `Shared.done` — a ghost log of the writes whose call has returned, in
  return order. No method reads it.
-/

namespace VsphereCsi.Volume

/-- The registry's backing `map[string]int`. -/
abbrev GoMap := AList (fun _ : String => Int)

/-- `len(t.m)`. -/
def GoMap.len (m : GoMap) : Nat := m.entries.length

/-- The call of a write method: `Upsert(key, value)` or `Delete(key)`. -/
inductive WriteOp where
  | upsert (key : String) (value : Int)
  | delete (key : String)
  deriving DecidableEq, Repr

/-- The key a write touches. -/
def WriteOp.key : WriteOp → String
  | .upsert k _ => k
  | .delete k => k

/-- The value a write leaves under its key (`none`: the key is gone). -/
def WriteOp.value? : WriteOp → Option Int
  | .upsert _ v => some v
  | .delete _ => none

/-- The map access of a write: `t.m[key] = value` or `delete(t.m, key)`. -/
def WriteOp.apply : WriteOp → GoMap → GoMap
  | .upsert k v, m => m.insert k v
  | .delete k, m => m.erase k

/-- `sync.RWMutex` as state: whether `Lock` is held, and how many `RLock`s. -/
structure RWMutex where
  writer : Bool
  readers : Nat
  deriving DecidableEq, Repr

/-- Which `Count` the registry was written with. -/
inductive CountLocking where
  /-- `t.mu.RLock(); defer t.mu.RUnlock(); return len(t.m)`. -/
  | rlock
  /-- `return len(t.m)`, with no lock. -/
  | unlocked
  deriving DecidableEq, Repr

/-- `TaskMapFixed` of `race_demo.go`. -/
def taskMapFixed : CountLocking := .rlock

/-- `TaskMapBuggy` of `race_demo.go`. -/
def taskMapBuggy : CountLocking := .unlocked

/-- `TaskMap` of `panic_demo.go`, counted through `CountBuggy`. -/
def taskMapPanicDemo : CountLocking := .unlocked

/-- May `Count`'s lock call return on this mutex? -/
def CountLocking.rlockReady : CountLocking → RWMutex → Bool
  | .rlock, mu => !mu.writer
  | .unlocked, _ => true

/-- `Count`'s lock call. -/
def CountLocking.rlockMu : CountLocking → RWMutex → RWMutex
  | .rlock, mu => { mu with readers := mu.readers + 1 }
  | .unlocked, mu => mu

/-- `Count`'s deferred unlock. -/
def CountLocking.runlockMu : CountLocking → RWMutex → RWMutex
  | .rlock, mu => { mu with readers := mu.readers - 1 }
  | .unlocked, mu => mu

/-- Where one thread stands inside its current call. -/
inductive Pc where
  | idle
  /-- In `Upsert`/`Delete`, waiting in `t.mu.Lock()`. -/
  | acquireW (op : WriteOp)
  /-- Holding the write lock; the map write is next. -/
  | accessW (op : WriteOp)
  /-- The map is written; the deferred `Unlock` and the return are next. -/
  | releaseW (op : WriteOp)
  /-- In `Count`, at its lock call. -/
  | acquireR
  /-- `len(t.m)` is next. -/
  | accessR
  /-- `len(t.m)` read `n`; the deferred unlock and `return n` are next. -/
  | releaseR (n : Nat)
  deriving DecidableEq, Repr

/-- The state the threads share: the mutex, the map, and the ghost log. -/
structure Shared where
  mu : RWMutex
  m : GoMap
  done : List WriteOp

/-- The registry with its threads. -/
structure Registry where
  shared : Shared
  threads : List Pc

/-- One step of one thread. -/
inductive Local (c : CountLocking) : Pc → Shared → Pc → Shared → Prop
  | callWrite (op : WriteOp) (sh : Shared) : Local c .idle sh (.acquireW op) sh
  | callCount (sh : Shared) : Local c .idle sh .acquireR sh
  | lock (op : WriteOp) (sh : Shared) (hw : sh.mu.writer = false) (hr : sh.mu.readers = 0) :
      Local c (.acquireW op) sh (.accessW op) { sh with mu := { sh.mu with writer := true } }
  | write (op : WriteOp) (sh : Shared) :
      Local c (.accessW op) sh (.releaseW op) { sh with m := op.apply sh.m }
  | unlock (op : WriteOp) (sh : Shared) :
      Local c (.releaseW op) sh .idle
        { sh with mu := { sh.mu with writer := false }, done := sh.done ++ [op] }
  | rlock (sh : Shared) (h : c.rlockReady sh.mu = true) :
      Local c .acquireR sh .accessR { sh with mu := c.rlockMu sh.mu }
  | read (sh : Shared) : Local c .accessR sh (.releaseR sh.m.len) sh
  | runlock (n : Nat) (sh : Shared) :
      Local c (.releaseR n) sh .idle { sh with mu := c.runlockMu sh.mu }

/-- Any one thread takes a step. -/
inductive Step (c : CountLocking) : Registry → Registry → Prop
  | thread {pc pc' : Pc} {sh sh' : Shared} (pre post : List Pc) (h : Local c pc sh pc' sh') :
      Step c ⟨sh, pre ++ pc :: post⟩ ⟨sh', pre ++ pc' :: post⟩

/-- `n` threads over a fresh registry (`make(map[string]int)`, unlocked mutex). -/
def Registry.init (n : Nat) : Registry :=
  ⟨⟨⟨false, 0⟩, ∅, []⟩, List.replicate n .idle⟩

/-- A state some interleaving of some number of threads reaches. -/
def Reachable (c : CountLocking) (s : Registry) : Prop :=
  ∃ n, Relation.ReflTransGen (Step c) (Registry.init n) s

/-! ## Observations -/

/-- Between `Lock` and `Unlock`. -/
def Pc.holdsW : Pc → Bool
  | .accessW _ | .releaseW _ => true
  | _ => false

/-- Between `Count`'s lock call and its unlock. -/
def Pc.holdsR : Pc → Bool
  | .accessR | .releaseR _ => true
  | _ => false

/-- At the map access of `Upsert` or `Delete`. -/
def Pc.isWriteAccess : Pc → Bool
  | .accessW _ => true
  | _ => false

/-- At a map access of any method. -/
def Pc.isAccess : Pc → Bool
  | .accessW _ | .accessR => true
  | _ => false

/-- The write whose map access is done and whose call has not returned. -/
def Pc.pendingWrite : Pc → Option WriteOp
  | .releaseW op => some op
  | _ => none

/-- No thread is at the map access of a write while another thread is at a
map access. -/
def Exclusive (s : Registry) : Prop :=
  ∀ pre pc post, s.threads = pre ++ pc :: post → pc.isWriteAccess = true →
    ∀ q ∈ pre ++ post, q.isAccess = false

/-- Every thread is between calls. -/
def Quiescent (s : Registry) : Prop := ∀ pc ∈ s.threads, pc = .idle

/-- The map the writes of `ops` leave, applied in order to a fresh map. -/
def replay (ops : List WriteOp) : GoMap := ops.foldl (fun m op => op.apply m) ∅

/-- The last write of `ops` on key `k`. -/
def lastWrite (k : String) : List WriteOp → Option WriteOp
  | [] => none
  | op :: ops => (lastWrite k ops).or (if op.key = k then some op else none)

end VsphereCsi.Volume
