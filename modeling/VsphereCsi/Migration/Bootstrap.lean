import Mathlib.Logic.Function.Basic

/-!
VsphereCsi.Migration.Bootstrap — how `GetVolumeMigrationService` makes the
`CnsvSphereVolumeMigration` CRD before the service is used:
`createrCnsvSphereVolumeMigrationCRD`, and the loop that calls it until it
returns `nil`.

* `CrdServer` — the CRDs the API server holds, by `metadata.name`. `Create`
  of a name it holds reports `AlreadyExists`; `Get` and `Delete` of a name it
  does not hold report `NotFound`. Every call may also fail for a reason of
  its own, given as an argument, so a statement over all arguments covers
  every reply the server can give.
* `wait.Poll(pollTime, timeout, condition)` — the calls of the condition that
  fit before `timeout`, each with the reply of its `Get`. It ends at the first
  condition that returns `true` or an error, and with `ErrWaitTimeout` when
  the calls run out.
* `migrationCRD` — the object `Create` is given. The poll's `Get` and the
  cleanup's `Delete` use `crdName`, which is
  `reflect.TypeOf(migration.CnsvSphereVolumeMigration{}).Name()`: the Kind,
  not the object's name.

The loop over `k8s.GetKubeConfig` and `k8s.NewClientForGroup` before it only
makes the client, and the `sync.Once` runs the whole body once; neither is
modelled. Logging is not modelled.
-/

namespace VsphereCsi.Migration.Bootstrap

/-! ## The API server -/

/-- An error of a call to the API server. -/
inductive ApiError where
  | notFound
  | alreadyExists
  /-- Any other failure: the server's message. -/
  | other (msg : String)
  deriving DecidableEq, Repr

/-- The CRDs the API server holds, by name. -/
abbrev CrdServer := String → Bool

/-- `apiextensionsv1beta1.ConditionStatus`. -/
inductive ConditionStatus where
  | conditionTrue
  | conditionFalse
  | conditionUnknown
  deriving DecidableEq, Repr

/-- `apiextensionsv1beta1.CustomResourceDefinitionConditionType`: the two the
poll tests, and the rest. -/
inductive CrdConditionType where
  | established
  | namesAccepted
  | other
  deriving DecidableEq, Repr

/-- A condition of `crd.Status.Conditions`. -/
structure CrdCondition where
  type : CrdConditionType
  status : ConditionStatus
  deriving DecidableEq, Repr

/-- `CustomResourceDefinitions().Create(crd)`, with `fault` the server's own
failure. -/
def createCrd (server : CrdServer) (name : String) (fault : Option String) :
    Option ApiError × CrdServer :=
  match fault with
  | some msg => (some (.other msg), server)
  | none =>
    if server name then (some .alreadyExists, server)
    else (none, Function.update server name true)

/-- `CustomResourceDefinitions().Get(name, metav1.GetOptions{})`: the
conditions of the CRD, which are `conditions` when the server holds it. -/
def getCrd (server : CrdServer) (name : String) (fault : Option String)
    (conditions : List CrdCondition) : Except ApiError (List CrdCondition) :=
  match fault with
  | some msg => .error (.other msg)
  | none => if server name then .ok conditions else .error .notFound

/-- `CustomResourceDefinitions().Delete(name, nil)`. -/
def deleteCrd (server : CrdServer) (name : String) (fault : Option String) :
    Option ApiError × CrdServer :=
  match fault with
  | some msg => (some (.other msg), server)
  | none =>
    if server name then (none, Function.update server name false)
    else (some .notFound, server)

/-! ## `createrCnsvSphereVolumeMigrationCRD` -/

/-- `reflect.TypeOf(migration.CnsvSphereVolumeMigration{}).Name()`. -/
def crdName : String := "CnsvSphereVolumeMigration"

/-- The CRD `createrCnsvSphereVolumeMigrationCRD` builds: the fields that name
it. -/
structure CustomResourceDefinition where
  name : String
  plural : String
  kind : String
  deriving DecidableEq, Repr

/-- The `crd` object passed to `Create`. -/
def migrationCRD : CustomResourceDefinition :=
  ⟨"cnsvspherevolumemigrations.cns.vmware.com", "cnsvspherevolumemigrations", crdName⟩

/-- The error `createrCnsvSphereVolumeMigrationCRD` returns. -/
inductive CrdError where
  /-- `config.GetConfig()` or `apiextensionsclient.NewForConfig(cfg)` failed. -/
  | config (msg : String)
  | api (e : ApiError)
  /-- `wait.ErrWaitTimeout`: `errors.New("timed out waiting for the condition")`. -/
  | waitTimeout
  deriving DecidableEq, Repr

/-- What one call gets from outside: the failures of the config and client
calls, of `Create` and of `Delete`, and the `Get` reply of each poll that
fits before the timeout (the server's own failure, and the conditions). With
`timeout = 60s` and `pollTime = 5s` there are at most twelve; the results
below hold for any number. -/
structure Env where
  getConfig : Option String
  newForConfig : Option String
  createFault : Option String
  polls : List (Option String × List CrdCondition)
  deleteFault : Option String

/-- The poll's condition once its `Get` succeeded: the range over
`crd.Status.Conditions` returns `true` at an `Established` condition whose
status is `ConditionTrue`. A `NamesAccepted` condition that is
`ConditionFalse` is only logged. -/
def isEstablished (conditions : List CrdCondition) : Bool :=
  conditions.any fun c => c.type == .established && c.status == .conditionTrue

/-- `wait.Poll(pollTime, timeout, func() (bool, error) { ... })`: `none` when
the condition returned `true`. -/
def pollEstablished (server : CrdServer) : List (Option String × List CrdCondition) → Option CrdError
  | [] => some .waitTimeout
  | (fault, conditions) :: polls =>
    match getCrd server crdName fault conditions with
    | .error e => some (.api e)
    | .ok conditions => if isEstablished conditions then none else pollEstablished server polls

/-- `createrCnsvSphereVolumeMigrationCRD(ctx)`: its error, and the server it
leaves. After a poll error it deletes `crdName` and returns the poll's error,
whatever the `Delete` returned. -/
def createrCnsvSphereVolumeMigrationCRD (env : Env) (server : CrdServer) :
    Option CrdError × CrdServer :=
  match env.getConfig with
  | some msg => (some (.config msg), server)
  | none =>
    match env.newForConfig with
    | some msg => (some (.config msg), server)
    | none =>
      match createCrd server migrationCRD.name env.createFault with
      | (some .alreadyExists, server) => (none, server)
      | (some e, server) => (some (.api e), server)
      | (none, server) =>
        match pollEstablished server env.polls with
        | none => (none, server)
        | some err => (some err, (deleteCrd server crdName env.deleteFault).2)

/-! ## The loop of `GetVolumeMigrationService` -/

/-- `for { if createrCnsvSphereVolumeMigrationCRD(ctx) == nil { break } }`,
over the environments of its calls: the number of calls it made and the
server, once a call returned `nil`; `none` while it still loops. -/
def createCRDUntilNil : List Env → CrdServer → Option (Nat × CrdServer)
  | [], _ => none
  | env :: envs, server =>
    match createrCnsvSphereVolumeMigrationCRD env server with
    | (none, server) => some (1, server)
    | (some _, server) => (createCRDUntilNil envs server).map fun r => (r.1 + 1, r.2)

end VsphereCsi.Migration.Bootstrap
