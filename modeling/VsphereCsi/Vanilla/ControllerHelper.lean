import VsphereCsi.Migration.Service
import Mathlib.Logic.Relation

/-!
VsphereCsi.Vanilla.ControllerHelper — `registerVolume` of the vanilla
controller (`pkg/csi/service/vanilla/controller_helper.go`), and callers of
it sharing one migration service.

`registerVolume` talks to the service only through three calls of the
`VolumeMigrationService` interface. It is modelled as a `Program`: the call
it makes next, together with what it does with each possible return
(`Except GoError _`; a panic inside a callee is not a return and ends the
caller). This is what lets one definition serve three readings:

* `Program.answer` feeds it returns chosen freely — every outcome of every
  collaborator, as the interface allows.
* `Program.exec` runs its pending call against the migration service of
  `Migration.Service`, the client outcomes taken from an `Answer`; `Runs`
  and `SeqRuns` run whole calls one after another.
* `Step` interleaves any number of callers at the granularity of those
  calls, each call atomic. A panic ends only the thread that raised it (in
  the process it ends every thread): this only adds schedules.

`Callers.registered` and `Callers.saved` are ghost logs: the paths
`RegisterVolume` was invoked for, and those a `SaveVolumeInfo` returned
`nil` for.
-/

namespace VsphereCsi.Vanilla

open VsphereCsi.Migration

/-- A `registerVolume` call in flight. -/
inductive Program where
  /-- `volumeMigrationService.GetVolumeInfo(ctx, volumePath)` is next. -/
  | getVolumeInfo (volumePath : String)
      (k : Except GoError CnsvSphereVolumeMigrationSpec → Program)
  /-- `volumeMigrationService.RegisterVolume(ctx, volumePath, c.manager)` is next. -/
  | registerVolume (volumePath : String) (k : Except GoError CnsvSphereVolumeMigration → Program)
  /-- `volumeMigrationService.SaveVolumeInfo(ctx, volumeMigration)` is next. -/
  | saveVolumeInfo (cr : CnsvSphereVolumeMigration) (k : Option GoError → Program)
  /-- Returned (or panicked). -/
  | done (r : GoResult String)

/-- After `RegisterVolume` returned `volumeMigration`: save it, ignore the
error, return its volume ID. -/
def registerVolume.saveAndReturn (volumeMigration : CnsvSphereVolumeMigration) : Program :=
  .saveVolumeInfo volumeMigration fun _ => .done (.ok volumeMigration.spec.volumeID)

/-- The `err == migration.ErrVolumeNotRegistered` branch. -/
def registerVolume.register (volumePath : String) : Program :=
  .registerVolume volumePath fun
    | .error err => .done (.err (.registerFailed volumePath err))
    | .ok volumeMigration => saveAndReturn volumeMigration

/-- `registerVolume(ctx, volumePath, c)`. The `else` branch reads
`volumeMigrationSpec.VolumeID` whatever `err` was. -/
def registerVolume (volumePath : String) : Program :=
  .getVolumeInfo volumePath fun
    | .error .volumeNotRegistered => registerVolume.register volumePath
    | .error _ => .done (.panic .nilDereference)
    | .ok volumeMigrationSpec => .done (.ok volumeMigrationSpec.volumeID)

/-! ## Free returns -/

/-- A return of one of the three calls. -/
inductive Reply where
  | getVolumeInfo (r : Except GoError CnsvSphereVolumeMigrationSpec)
  | registerVolume (r : Except GoError CnsvSphereVolumeMigration)
  | saveVolumeInfo (r : Option GoError)

/-- The program after its pending call returned `r` (unchanged when `r` is
the return of another call). -/
def Program.answer : Program → Reply → Program
  | .getVolumeInfo _ k, .getVolumeInfo r => k r
  | .registerVolume _ k, .registerVolume r => k r
  | .saveVolumeInfo _ k, .saveVolumeInfo r => k r
  | prog, _ => prog

/-! ## Against the migration service -/

/-- The outcomes of the client calls behind one `registerVolume` call: the
CR client's `List` (in `GetVolumeInfo`), `RegisterVolume`'s collaborators,
and the CR client's `Create` (in `SaveVolumeInfo`). -/
structure Answer where
  listFault : Option GoError
  env : RegisterEnv
  createFault : Option GoError

/-- Run the pending call against the service. -/
def Program.exec (vm : VolumeMigration) (a : Answer) : Program → Program × VolumeMigration
  | .getVolumeInfo p k =>
    match vm.getVolumeInfo a.listFault p with
    | (.ok s, vm') => (k (.ok s), vm')
    | (.err e, vm') => (k (.error e), vm')
    | (.panic pn, vm') => (.done (.panic pn), vm')
  | .registerVolume p k =>
    match Migration.registerVolume a.env p with
    | .ok cr => (k (.ok cr), vm)
    | .err e => (k (.error e), vm)
    | .panic pn => (.done (.panic pn), vm)
  | .saveVolumeInfo cr k => (k (vm.saveVolumeInfo a.createFault cr).1, (vm.saveVolumeInfo a.createFault cr).2)
  | .done r => (.done r, vm)

/-- The path of the pending call, when it is `RegisterVolume`. -/
def Program.registering : Program → List String
  | .registerVolume p _ => [p]
  | _ => []

/-- The path of the pending call, when it is a `SaveVolumeInfo` that returns `nil`. -/
def Program.saving (vm : VolumeMigration) (a : Answer) : Program → List String
  | .saveVolumeInfo cr _ => if (vm.saveVolumeInfo a.createFault cr).1 = none then [cr.spec.volumePath] else []
  | _ => []

/-- Callers of `registerVolume` on one shared `volumeMigrationService`. -/
structure Callers where
  svc : VolumeMigration
  threads : List Program
  registered : List String
  saved : List String

/-- Thread `i` runs its pending call. -/
def Callers.stepThread (s : Callers) (i : Nat) (a : Answer) : Callers :=
  match s.threads[i]? with
  | none => s
  | some prog =>
    ⟨(prog.exec s.svc a).2, s.threads.set i (prog.exec s.svc a).1,
      s.registered ++ prog.registering, s.saved ++ prog.saving s.svc a⟩

/-- Some thread runs its pending call on an `ok` answer. -/
inductive Step (ok : Answer → Prop) : Callers → Callers → Prop
  | call (s : Callers) (i : Nat) (a : Answer) (hi : i < s.threads.length) (ha : ok a) :
      Step ok s (s.stepThread i a)

/-- `n` callers of `registerVolume p`, none started. -/
def Callers.init (svc : VolumeMigration) (n : Nat) (p : String) : Callers :=
  ⟨svc, List.replicate n (registerVolume p), [], []⟩

end VsphereCsi.Vanilla
