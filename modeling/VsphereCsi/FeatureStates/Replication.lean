import Mathlib.Data.List.AList
import Mathlib.Logic.Function.Basic
import Mathlib.Logic.Relation
import VsphereCsi.Go.Strings

/-!
VsphereCsi.FeatureStates.Replication — the supervisor feature-state
replication service of `pkg/syncer/featurestates`. It keeps the
`pendingCRUpdate` map, fills it from the informer callbacks, and runs a
periodic pass (`processPendingCRUpdates`) that copies it to the
`CnsCsiSvFeatureStates` CR named `svfeaturestates` in each workload namespace.

  §1 Data — `FeatureState`, the pending map, the CR store, and the replies of
     the Kubernetes calls.
  §2 Callbacks — `configMapAdded`, `configMapUpdated`, `namespaceAdded` and
     the service start each end in at most one call of an enqueue method.
     `EnqueueCall.apply` is that method's effect on the map.
  §3 The pass — one iteration of the range loop (`syncNamespace` for its API
     calls, `processNamespace` for the whole body), and one pass between
     `Lock` and `Unlock` (`processPendingCRUpdates`).
  §4 The service as an interleaving system — the enqueue methods and the
     pass run as threads over the shared state. Each is cut at its lock calls,
     its map reads and writes, and its API calls.

Every Kubernetes call is an argument. A call that can fail has an
`Option K8sError` reply, where `none` is a nil error. `getAllWorkloadNamespaces`
and `getFeatureStates` retry until their call succeeds, so only their result
is an argument. Go leaves the order of a map range unspecified. The pass
therefore takes the order as an argument, and the interleaving system makes
it a permutation of the map's keys. Of `pendingCRUpdatesObj.lock`, a
`*sync.RWMutex`, this file calls only `Lock` and `Unlock`, so its state is one
flag.
-/

namespace VsphereCsi.FeatureStates

/-! ## §1 Data -/

/-- `featurestatesv1alpha1.FeatureState`. -/
structure FeatureState where
  name : String
  enabled : Bool
  deriving DecidableEq, Repr

/-- `pendingCRUpdate map[string][]FeatureState`. A nil slice is `[]`. -/
abbrev PendingMap := AList (fun _ : String => List FeatureState)

/-- `pendingCRUpdate[namespace]`, which is nil for a missing key. -/
def PendingMap.read (p : PendingMap) (ns : String) : List FeatureState :=
  (p.lookup ns).getD []

/-- The `Spec.FeatureStates` of the CR `svfeaturestates` in each namespace.
`none` means there is no such CR. -/
abbrev CrStore := String → Option (List FeatureState)

/-- The errors the code tells apart: `apierrors.IsNotFound`, and all the others. -/
inductive K8sError where
  | notFound
  | other
  deriving DecidableEq, Repr

/-- The replies to the calls one iteration of the pass can make. -/
structure ApiReplies where
  /-- `k8sClient.CoreV1().Namespaces().Get` in `isNamespacePresent`. -/
  namespaceGet : Option K8sError
  /-- `controllerRuntimeClient.Get` of the CR. -/
  crGet : Option K8sError
  /-- `controllerRuntimeClient.Create` or `Update`, whichever the branch calls. -/
  crWrite : Option K8sError
  deriving DecidableEq, Repr

/-! ## §2 Callbacks -/

/-- The package variables that `StartSvFSSReplicationService` sets. -/
structure ServiceConfig where
  supervisorFeatureStatConfigMapName : String
  supervisorFeatureStateConfigMapNamespace : String
  deriving DecidableEq, Repr

/-- The fields of a `*v1.ConfigMap` that the callbacks read. `ns` is
`ObjectMeta.Namespace`. `data` lists the entries of `Data` in the order the
range visits them (a Go map, so the keys are distinct). -/
structure ConfigMap where
  name : String
  ns : String
  data : List (String × String)
  deriving DecidableEq, Repr

/-- The fields of a `*v1.Namespace` that `namespaceAdded` reads. -/
structure Namespace where
  name : String
  labels : List (String × String)
  deriving DecidableEq, Repr

/-- `WorkLoadNamespaceLabelKey`. -/
def workLoadNamespaceLabelKey : String := "vSphereClusterID"

/-- `strconv.ParseBool(state)` as the callbacks use it. For any other text
the error is only logged, and the value that comes with it is `false`. -/
def parseBool (s : String) : Bool :=
  (Go.parseBool s).getD false

/-- The loop over `Data` in `configMapAdded`, `configMapUpdated` and
`getFeatureStates`. -/
def featureStatesOf (data : List (String × String)) : List FeatureState :=
  data.map fun (feature, state) => ⟨feature, parseBool state⟩

/-- One call of an enqueue method, together with the reply of the read the
method makes under the lock. -/
inductive EnqueueCall where
  /-- `enqueueCRUpdatesForAllWorkloadNamespaces(ctx, featurestates)`.
  `namespaces` is the list `getAllWorkloadNamespaces` returns. -/
  | allWorkloadNamespaces (featurestates : List FeatureState) (namespaces : List String)
  /-- `enqueueCRUpdatesForNewWorkloadNamespace(ctx, namespace)`.
  `featurestates` is what `getFeatureStates` returns. -/
  | newWorkloadNamespace (ns : String) (featurestates : List FeatureState)
  deriving DecidableEq, Repr

/-- The namespaces a call writes, in order. -/
def EnqueueCall.namespaces : EnqueueCall → List String
  | .allWorkloadNamespaces _ namespaces => namespaces
  | .newWorkloadNamespace ns _ => [ns]

/-- The list a call writes under each of them. -/
def EnqueueCall.featurestates : EnqueueCall → List FeatureState
  | .allWorkloadNamespaces featurestates _ => featurestates
  | .newWorkloadNamespace _ featurestates => featurestates

/-- The loop of `enqueueCRUpdatesForAllWorkloadNamespaces` under its lock. -/
def enqueueCRUpdatesForAllWorkloadNamespaces (p : PendingMap)
    (featurestates : List FeatureState) (namespaces : List String) : PendingMap :=
  namespaces.foldl (fun p ns => p.insert ns featurestates) p

/-- `enqueueCRUpdatesForNewWorkloadNamespace` under its lock. -/
def enqueueCRUpdatesForNewWorkloadNamespace (p : PendingMap) (ns : String)
    (featurestates : List FeatureState) : PendingMap :=
  p.insert ns featurestates

/-- The effect of an enqueue call on the map. -/
def EnqueueCall.apply : EnqueueCall → PendingMap → PendingMap
  | .allWorkloadNamespaces featurestates namespaces, p =>
    enqueueCRUpdatesForAllWorkloadNamespaces p featurestates namespaces
  | .newWorkloadNamespace ns featurestates, p =>
    enqueueCRUpdatesForNewWorkloadNamespace p ns featurestates

/-- The test both ConfigMap callbacks make before they enqueue. -/
def ServiceConfig.isSupervisorConfigMap (cfg : ServiceConfig) (cm : ConfigMap) : Bool :=
  cm.name == cfg.supervisorFeatureStatConfigMapName &&
    cm.ns == cfg.supervisorFeatureStateConfigMapNamespace

/-- `configMapAdded(obj)`. `none` stands for an object that is nil or is not
a `*v1.ConfigMap`. -/
def configMapAdded (cfg : ServiceConfig) (obj : Option ConfigMap)
    (namespaces : List String) : Option EnqueueCall :=
  match obj with
  | none => none
  | some cm =>
    if cfg.isSupervisorConfigMap cm then
      some (.allWorkloadNamespaces (featureStatesOf cm.data) namespaces)
    else none

/-- `configMapUpdated(oldObj, newObj)`. `reflect.DeepEqual` of two Go maps
holds when they have the same entries, in any order. -/
def configMapUpdated (cfg : ServiceConfig) (oldObj newObj : Option ConfigMap)
    (namespaces : List String) : Option EnqueueCall :=
  match newObj, oldObj with
  | some newCm, some oldCm =>
    if cfg.isSupervisorConfigMap newCm then
      if newCm.data.Perm oldCm.data then none
      else some (.allWorkloadNamespaces (featureStatesOf newCm.data) namespaces)
    else none
  | _, _ => none

/-- `namespaceAdded(obj)`: a namespace with the workload label is enqueued. -/
def namespaceAdded (obj : Option Namespace) (featurestates : List FeatureState) :
    Option EnqueueCall :=
  match obj with
  | none => none
  | some n =>
    if (n.labels.lookup workLoadNamespaceLabelKey).isSome then
      some (.newWorkloadNamespace n.name featurestates)
    else none

/-- What can make the service enqueue: its start, and the informer's Add and
Update handlers. Each carries the replies of the reads its enqueue method
makes. -/
inductive Event where
  /-- The first `enqueueCRUpdatesForAllWorkloadNamespaces` of
  `StartSvFSSReplicationService`, with what `getFeatureStates` returned. -/
  | start (featurestates : List FeatureState) (namespaces : List String)
  | addConfigMap (obj : Option ConfigMap) (namespaces : List String)
  | updateConfigMap (oldObj newObj : Option ConfigMap) (namespaces : List String)
  | addNamespace (obj : Option Namespace) (featurestates : List FeatureState)
  deriving DecidableEq, Repr

/-- The enqueue call an event ends in, if any. -/
def Event.enqueued (cfg : ServiceConfig) : Event → Option EnqueueCall
  | .start featurestates namespaces => some (.allWorkloadNamespaces featurestates namespaces)
  | .addConfigMap obj namespaces => configMapAdded cfg obj namespaces
  | .updateConfigMap oldObj newObj namespaces => configMapUpdated cfg oldObj newObj namespaces
  | .addNamespace obj featurestates => namespaceAdded obj featurestates

/-- The effect of an event on the map. -/
def Event.apply (cfg : ServiceConfig) (e : Event) (p : PendingMap) : PendingMap :=
  match e.enqueued cfg with
  | none => p
  | some c => c.apply p

/-- The map after `events`, handled one after another from `p`. -/
def replayEvents (cfg : ServiceConfig) (events : List Event) (p : PendingMap) : PendingMap :=
  events.foldl (fun p e => e.apply cfg p) p

/-! ## §3 The pass -/

/-- How an iteration reached `pendingCRUpdate[namespace] = nil`: the branch it
took, which is also the line it logged. -/
inductive Synced where
  | created
  | updated
  | namespaceGone
  deriving DecidableEq, Repr

/-- `isNamespacePresent(ctx, namespace)`: `NotFound` is absence, not an error. -/
def isNamespacePresent (namespaceGet : Option K8sError) : Except K8sError Bool :=
  match namespaceGet with
  | none => .ok true
  | some .notFound => .ok false
  | some e => .error e

/-- The CR store after a successful `Create` or `Update` of `featurestates`
in `ns`. -/
def writeCR (crs : CrStore) (ns : String) (featurestates : List FeatureState) : CrStore :=
  Function.update crs ns (some featurestates)

/-- The API calls of one iteration, for a namespace holding the non-empty
`featurestates`. `none` is a `continue`, which keeps the entry. `some` reaches
the reset, with the CR store and the branch taken. -/
def syncNamespace (crs : CrStore) (ns : String) (featurestates : List FeatureState)
    (r : ApiReplies) : Option (CrStore × Synced) :=
  match isNamespacePresent r.namespaceGet with
  | .error _ => none
  | .ok false => some (crs, .namespaceGone)
  | .ok true =>
    match r.crGet with
    | some .other => none
    | some .notFound =>
      match r.crWrite with
      | none => some (writeCR crs ns featurestates, .created)
      | some _ => none
    | none =>
      match r.crWrite with
      | none => some (writeCR crs ns featurestates, .updated)
      | some _ => none

/-- One iteration of the range loop of `processPendingCRUpdates` at `ns`.
Only the entry at `ns` and the CR in `ns` can change. -/
def processNamespace (replies : String → ApiReplies) (st : PendingMap × CrStore)
    (ns : String) : PendingMap × CrStore :=
  let featurestates := st.1.read ns
  if featurestates.length ≠ 0 then
    match syncNamespace st.2 ns featurestates (replies ns) with
    | none => st
    | some (crs, _) => (st.1.insert ns [], crs)
  else st

/-- One pass of the `for` loop of `processPendingCRUpdates`, the part between
`Lock` and the deferred `Unlock`, with `order` as the range order. The lock
keeps every other writer out, so the pass is a fold. -/
def processPendingCRUpdates (replies : String → ApiReplies) (order : List String)
    (st : PendingMap × CrStore) : PendingMap × CrStore :=
  order.foldl (processNamespace replies) st

/-- Every call of an iteration succeeds: the namespace exists, the CR `Get`
finds the CR or reports `NotFound`, and the `Create` or `Update` succeeds. -/
def ApiReplies.AllSucceed (r : ApiReplies) : Prop :=
  r.namespaceGet = none ∧ r.crGet ≠ some .other ∧ r.crWrite = none

/-! ## §4 The service as an interleaving system -/

/-- The state the threads share. -/
structure Shared where
  /-- `pendingCRUpdatesObj.lock` is held (by `Lock`). -/
  locked : Bool
  pending : PendingMap
  crs : CrStore

/-- Where a thread is. A thread that runs the pass only ever runs the pass;
any other thread runs one enqueue call after another. -/
inductive Pc where
  /-- Between two enqueue calls. -/
  | idle
  /-- An enqueue call that waits on `Lock`. -/
  | enqueue (c : EnqueueCall)
  /-- Inside an enqueue method: the namespaces still to write, and the list
  each one gets. -/
  | enqueueing (namespaces : List String) (featurestates : List FeatureState)
  /-- The pass goroutine that sleeps or waits on `Lock`. -/
  | passWait
  /-- Inside the pass: the namespaces the range has yet to visit. -/
  | passNext (todo : List String)
  /-- The range holds `ns` and the non-empty `featurestates` it read there,
  and the API calls come next. -/
  | passSync (ns : String) (featurestates : List FeatureState) (todo : List String)
  /-- The API calls reached `pendingCRUpdate[namespace] = nil`. `namespaceGet`
  is the reply of the namespace `Get` in `isNamespacePresent`. -/
  | passReset (ns : String) (featurestates : List FeatureState) (todo : List String)
      (namespaceGet : Option K8sError)
  deriving DecidableEq, Repr

/-- One step of one thread. -/
inductive Local : Pc → Shared → Pc → Shared → Prop where
  /-- An informer callback (or the start) calls an enqueue method. -/
  | call (c : EnqueueCall) (sh : Shared) : Local .idle sh (.enqueue c) sh
  /-- The enqueue method's `Lock`. -/
  | lockEnqueue (c : EnqueueCall) (sh : Shared) (h : sh.locked = false) :
      Local (.enqueue c) sh (.enqueueing c.namespaces c.featurestates) { sh with locked := true }
  /-- `pendingCRUpdate[namespace] = featurestates`. -/
  | write (ns : String) (rest : List String) (featurestates : List FeatureState) (sh : Shared) :
      Local (.enqueueing (ns :: rest) featurestates) sh (.enqueueing rest featurestates)
        { sh with pending := sh.pending.insert ns featurestates }
  /-- The enqueue method's deferred `Unlock`. -/
  | unlockEnqueue (featurestates : List FeatureState) (sh : Shared) :
      Local (.enqueueing [] featurestates) sh .idle { sh with locked := false }
  /-- The pass's `Lock`. The range will visit the map's keys in some order. -/
  | lockPass (todo : List String) (sh : Shared) (h : sh.locked = false)
      (hp : todo.Perm sh.pending.keys) :
      Local .passWait sh (.passNext todo) { sh with locked := true }
  /-- The range reads a non-empty list at `ns`. -/
  | visit (ns : String) (todo : List String) (sh : Shared) (h : (sh.pending.read ns).length ≠ 0) :
      Local (.passNext (ns :: todo)) sh (.passSync ns (sh.pending.read ns) todo) sh
  /-- The range reads an empty list at `ns`: `len(featurestates) != 0` fails. -/
  | skip (ns : String) (todo : List String) (sh : Shared) (h : (sh.pending.read ns).length = 0) :
      Local (.passNext (ns :: todo)) sh (.passNext todo) sh
  /-- The API calls end in a `continue`. -/
  | syncFail (ns : String) (featurestates : List FeatureState) (todo : List String)
      (sh : Shared) (r : ApiReplies) (h : syncNamespace sh.crs ns featurestates r = none) :
      Local (.passSync ns featurestates todo) sh (.passNext todo) sh
  /-- The API calls reach the reset. -/
  | syncOk (ns : String) (featurestates : List FeatureState) (todo : List String)
      (sh : Shared) (r : ApiReplies) (crs : CrStore) (how : Synced)
      (h : syncNamespace sh.crs ns featurestates r = some (crs, how)) :
      Local (.passSync ns featurestates todo) sh
        (.passReset ns featurestates todo r.namespaceGet)
        { sh with crs := crs }
  /-- `pendingCRUpdatesObj.pendingCRUpdate[namespace] = nil`. -/
  | reset (ns : String) (featurestates : List FeatureState) (todo : List String)
      (namespaceGet : Option K8sError)
      (sh : Shared) :
      Local (.passReset ns featurestates todo namespaceGet) sh (.passNext todo)
        { sh with pending := sh.pending.insert ns [] }
  /-- The pass's deferred `Unlock`. -/
  | unlockPass (sh : Shared) : Local (.passNext []) sh .passWait { sh with locked := false }

/-- The service: its shared state and its threads. -/
structure Service where
  shared : Shared
  threads : List Pc

/-- One step of any one thread. -/
inductive Step : Service → Service → Prop where
  | thread {pc pc' : Pc} {sh sh' : Shared} (pre post : List Pc) (h : Local pc sh pc' sh') :
      Step ⟨sh, pre ++ pc :: post⟩ ⟨sh', pre ++ pc' :: post⟩

/-- The service just after `StartSvFSSReplicationService` made its map. The
CRs are whatever the cluster holds. There is one pass goroutine, and `n`
threads make enqueue calls (the start's own call is one of them). -/
def Service.init (crs : CrStore) (n : Nat) : Service :=
  ⟨⟨false, ∅, crs⟩, .passWait :: List.replicate n .idle⟩

/-- The states some run of the service reaches. -/
def Reachable (s : Service) : Prop :=
  ∃ crs n, Relation.ReflTransGen Step (Service.init crs n) s

/-- Is the thread between `Lock` and `Unlock`? -/
def Pc.holdsLock : Pc → Bool
  | .enqueueing _ _ | .passNext _ | .passSync _ _ _ | .passReset _ _ _ _ => true
  | _ => false

/-- Is the thread inside the pass's critical section? -/
def Pc.inPass : Pc → Bool
  | .passNext _ | .passSync _ _ _ | .passReset _ _ _ _ => true
  | _ => false

/-- Is the thread inside an enqueue method's critical section? -/
def Pc.inEnqueue : Pc → Bool
  | .enqueueing _ _ => true
  | _ => false

end VsphereCsi.FeatureStates
