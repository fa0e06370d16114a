import VsphereCsi.Go.Strings
import Mathlib.Logic.Function.Basic

/-!
VsphereCsi.Migration.Service — the in-tree volume migration service of
`pkg/apis/migration` (`volumeMigration`): its path-to-volume cache, the
`CnsvSphereVolumeMigration` custom resources behind its client, and the five
methods of `VolumeMigrationService`.

* `VolumeMigration` — the service state: `volumePathToVolumeInfo`, a
  `sync.Map` whose values are Go `interface{}`s (`CacheValue` keeps the
  DYNAMIC type of each: the three `Store` sites store three different
  types), and `crs`, the CRs the client's `List` returns, in list order.
* The client's calls (`List`, `Create`, `Delete`) are not computed here: each
  method takes the call's outcome as an argument (`none` — the call
  succeeded; `some e` — it returned `e`), so a statement over all arguments
  is a statement over every outcome. A successful `Create` appends the CR; a
  successful `Delete` removes the object passed to it.
* `registerVolume` — `RegisterVolume`, with its collaborators (`uuid`,
  `common.GetVCenter`, `manager.CnsConfig`, `VolumeManager.CreateVolume`) in
  a `RegisterEnv`.
* `GoResult` — how a call ends: a value, a returned `error`, or a run-time
  panic (a failed type assertion, a nil dereference, an index out of range).

Errors are constructors carrying their format arguments; the format strings
are quoted in the docstrings. Logging and the `sync.Once` singleton are not
modelled; the CRD bootstrap is `VsphereCsi.Migration.Bootstrap`.
-/

namespace VsphereCsi.Migration

open VsphereCsi.Go

/-- `CnsvSphereVolumeMigrationSpec`. -/
structure CnsvSphereVolumeMigrationSpec where
  volumePath : String
  volumeName : String
  volumeID : String
  deriving DecidableEq, Repr

/-- `CnsvSphereVolumeMigration`; of its `ObjectMeta` the service sets and
reads only the name. -/
structure CnsvSphereVolumeMigration where
  name : String
  spec : CnsvSphereVolumeMigrationSpec
  deriving DecidableEq, Repr

/-- An `error` value of the service and its caller. -/
inductive GoError where
  /-- `ErrVolumeNotRegistered`: `errors.New("volume is not registered to CNS")`,
  compared by identity. -/
  | volumeNotRegistered
  /-- `fmt.Sprintf("failed to extract datastore name from in-tree volume path: %q",
  volumePath)`. -/
  | extractDatastoreName (volumePath : String)
  /-- `status.Errorf(codes.Internal, "failed to register in-tree volume: %+q err %+v",
  volumePath, err)` (`registerVolume` in the vanilla controller). -/
  | registerFailed (volumePath : String) (err : GoError)
  /-- An error a collaborator returned: the CR client, CNS, `uuid`, vCenter. -/
  | client (msg : String)
  deriving DecidableEq, Repr

/-- A Go run-time panic. -/
inductive GoPanic where
  /-- `x.(T)` on an interface whose dynamic type is not `T`. -/
  | interfaceConversion (dynamicType expected : String)
  | nilDereference
  | indexOutOfRange
  deriving DecidableEq, Repr

/-- How a Go call ends. -/
inductive GoResult (α : Type) where
  | ok (a : α)
  | err (e : GoError)
  | panic (p : GoPanic)
  deriving DecidableEq, Repr

/-- A value of `volumePathToVolumeInfo`, with its dynamic type. -/
inductive CacheValue where
  /-- `*migration.CnsvSphereVolumeMigrationSpec`. -/
  | specPtr (spec : CnsvSphereVolumeMigrationSpec)
  /-- `migration.CnsvSphereVolumeMigrationSpec`, by value. -/
  | spec (spec : CnsvSphereVolumeMigrationSpec)
  /-- `*migration.CnsvSphereVolumeMigration`. -/
  | crPtr (cr : CnsvSphereVolumeMigration)
  deriving DecidableEq, Repr

/-- The name Go's runtime gives the value's dynamic type. It qualifies the
type by the package's own name, `v1alpha1`, not by the import alias
`migration`. -/
def CacheValue.typeName : CacheValue → String
  | .specPtr _ => "*v1alpha1.CnsvSphereVolumeMigrationSpec"
  | .spec _ => "v1alpha1.CnsvSphereVolumeMigrationSpec"
  | .crPtr _ => "*v1alpha1.CnsvSphereVolumeMigration"

/-- `info.(*migration.CnsvSphereVolumeMigrationSpec)`: the panic names the
dynamic type and the asserted one. -/
def CacheValue.assertSpecPtr : CacheValue → GoResult CnsvSphereVolumeMigrationSpec
  | .specPtr s => .ok s
  | v => .panic (.interfaceConversion v.typeName "*v1alpha1.CnsvSphereVolumeMigrationSpec")

/-- The `VolumePath` of the spec the value holds. -/
def CacheValue.volumePath : CacheValue → String
  | .specPtr s | .spec s => s.volumePath
  | .crPtr cr => cr.spec.volumePath

/-- The spec the value holds, whatever its dynamic type. -/
def CacheValue.specOf : CacheValue → CnsvSphereVolumeMigrationSpec
  | .specPtr s | .spec s => s
  | .crPtr cr => cr.spec

/-- `volumeMigration`. -/
structure VolumeMigration where
  volumePathToVolumeInfo : String → Option CacheValue
  crs : List CnsvSphereVolumeMigration

namespace VolumeMigration

/-- `volumePathToVolumeInfo.Store(key, value)`. -/
def store (vm : VolumeMigration) (key : String) (value : CacheValue) : VolumeMigration :=
  { vm with volumePathToVolumeInfo := Function.update vm.volumePathToVolumeInfo key (some value) }

/-- `volumePathToVolumeInfo.Delete(key)`. -/
def evict (vm : VolumeMigration) (key : String) : VolumeMigration :=
  { vm with volumePathToVolumeInfo := Function.update vm.volumePathToVolumeInfo key none }

/-- The first listed CR whose `Spec.VolumePath` is `volumePath`: the loop
`for _, object := range list.Items { if object.Spec.VolumePath == volumePath ... }`. -/
def findCR (crs : List CnsvSphereVolumeMigration) (volumePath : String) :
    Option CnsvSphereVolumeMigration :=
  crs.find? fun o => o.spec.volumePath = volumePath

/-- `GetVolumeInfo(ctx, volumePath)`; `listFault` is the outcome of the
client's `List`, which runs only on a cache miss. -/
def getVolumeInfo (vm : VolumeMigration) (listFault : Option GoError) (volumePath : String) :
    GoResult CnsvSphereVolumeMigrationSpec × VolumeMigration :=
  match vm.volumePathToVolumeInfo volumePath with
  | some info => (info.assertSpecPtr, vm)
  | none =>
    match listFault with
    | some e => (.err e, vm)
    | none =>
      match findCR vm.crs volumePath with
      | some object => (.ok object.spec, vm.store volumePath (.spec object.spec))
      | none => (.err .volumeNotRegistered, vm)

/-- `SaveVolumeInfo(ctx, cnsvSphereVolumeMigration)`; `createFault` is the
outcome of the client's `Create`. -/
def saveVolumeInfo (vm : VolumeMigration) (createFault : Option GoError)
    (cr : CnsvSphereVolumeMigration) : Option GoError × VolumeMigration :=
  match createFault with
  | some e => (some e, vm)
  | none => (none, { vm with crs := vm.crs ++ [cr] }.store cr.spec.volumePath (.crPtr cr))

/-- `DeleteVolumeInfo(ctx, volumePath)`: the client's `Delete` runs on the
first listed match only (`break`), and its result is not read. -/
def deleteVolumeInfo (vm : VolumeMigration) (listFault deleteFault : Option GoError)
    (volumePath : String) : Option GoError × VolumeMigration :=
  match listFault with
  | some e => (some e, vm)
  | none =>
    let crs := match findCR vm.crs volumePath, deleteFault with
      | some object, none => vm.crs.erase object
      | _, _ => vm.crs
    (none, { vm with crs := crs }.evict volumePath)

/-- `LoadAllVolumeInfo(ctx)`. -/
def loadAllVolumeInfo (vm : VolumeMigration) (listFault : Option GoError) :
    Option GoError × VolumeMigration :=
  match listFault with
  | some e => (some e, vm)
  | none => (none, vm.crs.foldl (fun acc o => acc.store o.spec.volumePath (.spec o.spec)) vm)

/-- One call of a cache method, with the outcomes of its client calls. -/
inductive Call where
  | getVolumeInfo (volumePath : String) (listFault : Option GoError)
  | saveVolumeInfo (cr : CnsvSphereVolumeMigration) (createFault : Option GoError)
  | deleteVolumeInfo (volumePath : String) (listFault deleteFault : Option GoError)
  | loadAllVolumeInfo (listFault : Option GoError)

/-- The service state after a call. -/
def call (vm : VolumeMigration) : Call → VolumeMigration
  | .getVolumeInfo p f => (vm.getVolumeInfo f p).2
  | .saveVolumeInfo cr f => (vm.saveVolumeInfo f cr).2
  | .deleteVolumeInfo p f g => (vm.deleteVolumeInfo f g p).2
  | .loadAllVolumeInfo f => (vm.loadAllVolumeInfo f).2

/-- The service state after a sequence of calls. -/
def run (vm : VolumeMigration) (calls : List Call) : VolumeMigration := calls.foldl call vm

/-- The service as `GetVolumeMigrationService` builds it (`sync.Map{}`),
over whatever CRs the cluster holds. -/
def fresh (crs : List CnsvSphereVolumeMigration) : VolumeMigration := ⟨fun _ => none, crs⟩

end VolumeMigration

/-! ## `RegisterVolume` -/

/-- `vc.Config` of the vCenter `common.GetVCenter` returns: the fields read. -/
structure VirtualCenterConfig where
  host : String
  datacenterPaths : List String
  deriving DecidableEq, Repr

/-- `manager.CnsConfig`: `Global.ClusterID`, and `VirtualCenter[host].User`
(`none`: no entry for the host, a nil `*VirtualCenterConfig`). -/
structure CnsConfig where
  clusterID : String
  virtualCenterUser : String → Option String

/-- `vsphere.GetContainerCluster(clusterID, user, flavor)`, kept as its
arguments (its body is not under `src/`). -/
structure CnsContainerCluster where
  clusterID : String
  vSphereUser : String
  clusterFlavor : String
  deriving DecidableEq, Repr

/-- `cnstypes.CnsVolumeCreateSpec` as `RegisterVolume` fills it
(`ContainerClusterArray` is `[ContainerCluster]`). -/
structure CnsVolumeCreateSpec where
  name : String
  volumeType : String
  containerCluster : CnsContainerCluster
  backingDiskUrlPath : String
  deriving DecidableEq, Repr

/-- `common.BlockVolumeType` (`"BLOCK"`, per `constants_test.go`). -/
def blockVolumeType : String := "BLOCK"

/-- `cnstypes.CnsClusterFlavorVanilla`. -/
def cnsClusterFlavorVanilla : String := "VANILLA"

/-- What `RegisterVolume` gets from outside the service. -/
structure RegisterEnv where
  /-- `uuid.NewUUID()`, rendered by `uuid.String()`. -/
  newUUID : Except GoError String
  /-- `common.GetVCenter(ctx, manager)`. -/
  getVCenter : Except GoError VirtualCenterConfig
  cnsConfig : CnsConfig
  /-- `manager.VolumeManager.CreateVolume(ctx, createSpec)`: the volume ID. -/
  createVolume : CnsVolumeCreateSpec → Except GoError String

/-- `datastoreName` and `vmdkPath` as `RegisterVolume` extracts them:
`re.FindAllString(volumePath, -1)[0]`, then
`strings.TrimSpace(strings.Trim(volumePath, datastoreName))` and
`strings.Trim(strings.Trim(datastoreName, "["), "]")`. -/
def extractDatastore (volumePath : String) : Option (String × String) :=
  (findBracketed volumePath.data).map fun m =>
    let datastoreName : String := ⟨m⟩
    (trim (trim datastoreName "[") "]", trimSpace (trim volumePath datastoreName))

/-- `https://<vc_ip>/folder/<vm_vmdk_path>?dcPath=<datacenterName>&dsName=<datastoreName>`. -/
def backingDiskURLPath (host vmdkPath datacenter datastoreName : String) : String :=
  "https://" ++ host ++ "/folder/" ++ vmdkPath ++ "?dcPath=" ++ datacenter ++
    "&dsName=" ++ datastoreName

/-- The `CnsVolumeCreateSpec` `RegisterVolume` passes to `CreateVolume`,
with the failures on the way: no bracketed name, an empty
`DatacenterPaths` (`[0]`), no `VirtualCenter` entry for the host. -/
def cnsVolumeCreateSpec (uuid : String) (vc : VirtualCenterConfig) (cfg : CnsConfig)
    (volumePath : String) : GoResult CnsVolumeCreateSpec :=
  match extractDatastore volumePath with
  | none => .err (.extractDatastoreName volumePath)
  | some (datastoreName, vmdkPath) =>
    match vc.datacenterPaths with
    | [] => .panic .indexOutOfRange
    | datacenter :: _ =>
      match cfg.virtualCenterUser vc.host with
      | none => .panic .nilDereference
      | some user =>
        .ok { name := uuid
              volumeType := blockVolumeType
              containerCluster := ⟨cfg.clusterID, user, cnsClusterFlavorVanilla⟩
              backingDiskUrlPath := backingDiskURLPath vc.host vmdkPath datacenter datastoreName }

/-- `RegisterVolume(ctx, volumePath, manager)`. It touches neither the cache
nor the CRs. -/
def registerVolume (env : RegisterEnv) (volumePath : String) :
    GoResult CnsvSphereVolumeMigration :=
  match env.newUUID with
  | .error e => .err e
  | .ok uuid =>
    match env.getVCenter with
    | .error e => .err e
    | .ok vc =>
      match cnsVolumeCreateSpec uuid vc env.cnsConfig volumePath with
      | .err e => .err e
      | .panic p => .panic p
      | .ok createSpec =>
        match env.createVolume createSpec with
        | .error e => .err e
        | .ok volumeID => .ok ⟨uuid, ⟨volumePath, uuid, volumeID⟩⟩

end VsphereCsi.Migration
