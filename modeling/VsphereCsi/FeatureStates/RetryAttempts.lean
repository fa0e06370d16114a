import VsphereCsi.FeatureStates.Replication

/-!
VsphereCsi.FeatureStates.RetryAttempts — the other version of the
feature-state replication service in `pkg/syncer/featurestates` (the first of
the two files). It writes the CRs from the informer callbacks themselves. It
parks each failed write, as a whole CR, in `pendingCRUpdate`, and retries the
parked CRs from `startRetryAttempts`.

  §1 The pending map — `map[string]*CnsCsiSvFeatureStates`.
     `StartSvFSSReplicationService` never makes it. A nil Go map reads as
     empty and ranges over nothing, and an assignment to it panics.
  §2 The CR writes — `getFeatureStates`, and one namespace's Get followed by
     Create or Update (`putCR`). Then `updateFeatureStatesCRInAllWorkLoadNamespaces`,
     `createFeatureStatesCRInWorkLoadNamespace`, and one pass of
     `startRetryAttempts`.
  §3 The callbacks — `configMapUpdated` and `namespaceAdded`, by what they
     go on to do.
  §4 Runs — the service as the calls it makes, one after another.

Each of the three functions that touch the map holds `pendingCRUpdatesObj.lock`
for its whole body, so each one is a single step over the map. The data types,
the Kubernetes replies and the CR store are those of
`VsphereCsi.FeatureStates.Replication`. Here, though, `strconv.ParseBool`
errors are not only logged: they end the loop over `Data` with that error.
-/

namespace VsphereCsi.FeatureStates.RetryAttempts

/-! ## §1 The pending map -/

/-- `featurestatesv1alpha1.CnsCsiSvFeatureStates` with the fields this file
sets: `ObjectMeta.Name`, `ObjectMeta.Namespace` and `Spec.FeatureStates`. -/
structure FeatureStatesCR where
  name : String
  ns : String
  featureStates : List FeatureState
  deriving DecidableEq, Repr

/-- `SVFeatureStateCRName`. -/
def svFeatureStateCRName : String := "svfeaturestates"

/-- The entries of a made `pendingCRUpdate`. A value is a CR pointer, where
`none` is nil. -/
abbrev Entries := AList (fun _ : String => Option FeatureStatesCR)

/-- `pendingCRUpdate`, where `none` is the nil map. -/
abbrev PendingMap := Option Entries

/-- The runtime panics of this file. -/
inductive GoPanic where
  /-- `assignment to entry in nil map`. -/
  | assignmentToEntryInNilMap
  deriving DecidableEq, Repr

/-- The errors its functions return. -/
inductive GoError where
  | k8s (e : K8sError)
  /-- `strconv.ParseBool` rejected the value `state` of `Data`. -/
  | parseBool (state : String)
  deriving DecidableEq, Repr

/-- How a function of this file ends. It comes with the state it leaves,
which is the state at the panic when it panics: the CRs it wrote stay in the
cluster when the process dies. -/
inductive Outcome where
  | ok
  | err (e : GoError)
  | panic (p : GoPanic)
  deriving DecidableEq, Repr

/-- `pendingCRUpdatesObj.pendingCRUpdate[namespace] = cr`. -/
def assign (p : PendingMap) (ns : String) (cr : Option FeatureStatesCR) :
    Except GoPanic PendingMap :=
  match p with
  | none => .error .assignmentToEntryInNilMap
  | some m => .ok (some (m.insert ns cr))

/-- The state the service's functions act on: the map, and the CRs in the
cluster. -/
structure Svc where
  pending : PendingMap
  crs : CrStore

/-! ## §2 The CR writes -/

/-- The loop over `Data` in `getFeatureStates` and `configMapUpdated`. The
first value that `ParseBool` rejects ends it with that error. -/
def parseFeatureStates : List (String × String) → Except GoError (List FeatureState)
  | [] => .ok []
  | (feature, state) :: data =>
    match Go.parseBool state with
    | none => .error (.parseBool state)
    | some enabled => (parseFeatureStates data).map (⟨feature, enabled⟩ :: ·)

/-- `getFeatureStates(ctx, k8sClient)`. Its argument is the reply of the
ConfigMap `Get`, that is, the map's `Data`. -/
def getFeatureStates (configMapGet : Except K8sError (List (String × String))) :
    Except GoError (List FeatureState) :=
  match configMapGet with
  | .error e => .error (.k8s e)
  | .ok data => parseFeatureStates data

/-- The CR `Get` of one namespace, followed by its `Create` or `Update` of
`cr`, as this file writes it. `Create` is called when the `Get` fails with an
error other than `NotFound`. On `NotFound` nothing is called, and `NotFound`
stays the error. Returns the error and the CR store. -/
def putCR (crs : CrStore) (cr : FeatureStatesCR) (r : ApiReplies) : Option K8sError × CrStore :=
  let written : Option K8sError × CrStore :=
    match r.crWrite with
    | none => (none, writeCR crs cr.ns cr.featureStates)
    | some e => (some e, crs)
  match r.crGet with
  | some .notFound => (some .notFound, crs)
  | some .other => written
  | none => written

/-- The loop over `namespaces.Items`: put each namespace's CR, then park it in
the map if that failed, and clear its entry if it did not. -/
def updateNamespaces (featurestates : List FeatureState) (replies : String → ApiReplies) :
    List String → Svc → Outcome × Svc
  | [], svc => (.ok, svc)
  | ns :: namespaces, svc =>
    let cr : FeatureStatesCR := ⟨svFeatureStateCRName, ns, featurestates⟩
    let put := putCR svc.crs cr (replies ns)
    match assign svc.pending ns (if put.1.isSome then some cr else none) with
    | .error p => (.panic p, ⟨svc.pending, put.2⟩)
    | .ok pending => updateNamespaces featurestates replies namespaces ⟨pending, put.2⟩

/-- `updateFeatureStatesCRInAllWorkLoadNamespaces(ctx, featurestates)`, with
the replies of its namespace `List`, of the ConfigMap `Get` in
`getFeatureStates`, and of each namespace's calls. -/
def updateFeatureStatesCRInAllWorkLoadNamespaces (svc : Svc) (featurestates : List FeatureState)
    (namespacesList : Except K8sError (List String))
    (configMapGet : Except K8sError (List (String × String)))
    (replies : String → ApiReplies) : Outcome × Svc :=
  match namespacesList with
  | .error e => (.err (.k8s e), svc)
  | .ok namespaces =>
    match (if featurestates.length = 0 then getFeatureStates configMapGet
           else .ok featurestates) with
    | .error e => (.err e, svc)
    | .ok featurestates => updateNamespaces featurestates replies namespaces svc

/-- `createFeatureStatesCRInWorkLoadNamespace(ctx, namespace)`, with the
replies of the ConfigMap `Get` and of the `Create`. -/
def createFeatureStatesCRInWorkLoadNamespace (svc : Svc) (ns : String)
    (configMapGet : Except K8sError (List (String × String))) (create : Option K8sError) :
    Outcome × Svc :=
  match getFeatureStates configMapGet with
  | .error e => (.err e, svc)
  | .ok featureStates =>
    match create with
    | none => (.ok, { svc with crs := writeCR svc.crs ns featureStates })
    | some _ =>
      match assign svc.pending ns (some ⟨svFeatureStateCRName, ns, featureStates⟩) with
      | .error p => (.panic p, svc)
      | .ok pending => (.ok, { svc with pending := pending })

/-- One iteration of the range loop of `startRetryAttempts`, over a made map. -/
def retryNamespace (replies : String → ApiReplies) (st : Entries × CrStore) (ns : String) :
    Entries × CrStore :=
  match st.1.lookup ns with
  | some (some featurestatesSpec) =>
    match (replies ns).namespaceGet with
    | some .notFound => (st.1.insert ns none, st.2)
    | some .other => st
    | none =>
      let put := putCR st.2 featurestatesSpec (replies ns)
      (if put.1.isNone then st.1.insert ns none else st.1, put.2)
  | _ => st

/-- One pass of the `for` loop of `startRetryAttempts`, with `order` as the
range order. A nil map ranges over nothing. -/
def startRetryAttempts (replies : String → ApiReplies) (order : List String) (svc : Svc) : Svc :=
  match svc.pending with
  | none => svc
  | some m =>
    let st := order.foldl (retryNamespace replies) (m, svc.crs)
    ⟨some st.1, st.2⟩

/-! ## §3 The callbacks -/

/-- What a callback goes on to do once its checks pass. -/
inductive Callback where
  | returns
  /-- `for { ... updateFeatureStatesCRInAllWorkLoadNamespaces(ctx, featureStates) ... }`:
  the loop has no `break`. -/
  | updateForever (featureStates : List FeatureState)
  /-- `for { err := createFeatureStatesCRInWorkLoadNamespace(ctx, namespace.Name); if err == nil { break } }`. -/
  | createUntilNil (ns : String)
  deriving DecidableEq, Repr

/-- `configMapUpdated(oldObj, newObj)`. The source binds `newfssConfigMap`
to `oldObj` and `oldfssConfigMap` to `newObj`. -/
def configMapUpdated (cfg : ServiceConfig) (oldObj newObj : Option ConfigMap) : Callback :=
  match oldObj, newObj with
  | some newfssConfigMap, some oldfssConfigMap =>
    if cfg.isSupervisorConfigMap newfssConfigMap then
      if newfssConfigMap.data.Perm oldfssConfigMap.data then .returns
      else
        match parseFeatureStates newfssConfigMap.data with
        | .error _ => .returns
        | .ok featureStates => .updateForever featureStates
    else .returns
  | _, _ => .returns

/-- `namespaceAdded(obj)`. -/
def namespaceAdded (obj : Option Namespace) : Callback :=
  match obj with
  | none => .returns
  | some n =>
    if (n.labels.lookup workLoadNamespaceLabelKey).isSome then .createUntilNil n.name
    else .returns

/-! ## §4 Runs -/

/-- A call of one of the three functions that take the lock, with the replies
it gets. -/
inductive Call where
  | updateAll (featurestates : List FeatureState) (namespacesList : Except K8sError (List String))
      (configMapGet : Except K8sError (List (String × String))) (replies : String → ApiReplies)
  | create (ns : String) (configMapGet : Except K8sError (List (String × String)))
      (createErr : Option K8sError)
  | retry (order : List String) (replies : String → ApiReplies)

/-- One call. -/
def Call.run (svc : Svc) : Call → Outcome × Svc
  | .updateAll featurestates namespacesList configMapGet replies =>
    updateFeatureStatesCRInAllWorkLoadNamespaces svc featurestates namespacesList configMapGet
      replies
  | .create ns configMapGet createErr =>
    createFeatureStatesCRInWorkLoadNamespace svc ns configMapGet createErr
  | .retry order replies => (.ok, startRetryAttempts replies order svc)

/-- Calls one after another. After a returned error the caller goes on; a
panic ends the process. -/
def runCalls : Svc → List Call → Outcome × Svc
  | svc, [] => (.ok, svc)
  | svc, c :: calls =>
    match c.run svc with
    | (.panic p, svc') => (.panic p, svc')
    | (_, svc') => runCalls svc' calls

/-- `StartSvFSSReplicationService` after its clients are made.
`pendingCRUpdatesObj = &pendingCRUpdates{lock: &sync.RWMutex{}}` leaves the
map nil. The first update, with no feature states, reads them from the
ConfigMap. -/
def startSvFSSReplicationService (crs : CrStore) (namespacesList : Except K8sError (List String))
    (configMapGet : Except K8sError (List (String × String))) (replies : String → ApiReplies) :
    Outcome × Svc :=
  updateFeatureStatesCRInAllWorkLoadNamespaces ⟨none, crs⟩ [] namespacesList configMapGet replies

end VsphereCsi.FeatureStates.RetryAttempts
