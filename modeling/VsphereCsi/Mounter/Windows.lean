import VsphereCsi.Go.Strings

/-!
VsphereCsi.Mounter.Windows — `csiWindowsMounter` of the `mounter` package,
the node's mounter on Windows. Every method forwards to the CSI proxy's
filesystem, disk and volume APIs.

  §1 Paths and disk numbers — `normalizeWindowsPath`, the disk numbers of
     the proxy (`uint32`), and Go's `uint32(int)` conversion.
  §2 The proxy — `Proxy` answers every API call from its arguments, and
     `ProxyCall` records a call, so each method yields the calls it made
     together with its result.
  §3 The methods — `ExistsPath`, `IsLikelyNotMountPoint`, `GetDiskNumber`,
     `FormatAndMount`, `Unmount` and `Mount`, and of the methods that only
     forward the path they are given, `MakeDir`, `GetDeviceNameFromMount` and
     `StatFS`.
  §4 Many calls on one node — `FormatHistory`: the volumes that a run of
     `FormatAndMount` calls formats, on a node whose proxy reports the true
     format state of each volume.

Each method calls each proxy API at most once, so a `Proxy` that fixes one
reply per API and argument covers every reply pattern. The other methods
that only forward calls are not modelled.
-/

namespace VsphereCsi.Mounter

open VsphereCsi.Go

/-! ## §1 Paths and disk numbers -/

/-- `normalizeWindowsPath(path)`: every `/` becomes `\`, and a path that then
starts with `\` gets the drive `c:`. -/
def normalizeWindowsPath (path : String) : String :=
  let normalizedPath := replaceRune path '/' '\\'
  if hasPrefix normalizedPath "\\" then "c:" ++ normalizedPath else normalizedPath

/-- A disk number of the proxy, a Go `uint32`. -/
abbrev DiskNumber := Fin 4294967296

/-- Go's `uint32(diskNum)` of an `int`: the value modulo `2^32`. -/
def uint32 (i : Int) : DiskNumber := ⟨(i % 4294967296).toNat, by omega⟩

/-- Go's `int64`, in two's complement. -/
abbrev Int64 := BitVec 64

/-! ## §2 The proxy -/

/-- An error the proxy returns. Its text is not inspected. -/
abbrev ProxyError := String

/-- `shared.DiskIDs`, with the field `GetDiskNumber` reads. -/
structure DiskIDs where
  page83 : String
  deriving DecidableEq, Repr

/-- The replies of the CSI proxy, by API and argument. -/
structure Proxy where
  /-- `FSAPI.PathExists(path)`. -/
  pathExists : String → Except ProxyError Bool
  /-- `FSAPI.IsSymlink(path)`. -/
  isSymlink : String → Except ProxyError Bool
  /-- `FSAPI.Rmdir(path, true)`. -/
  rmdir : String → Option ProxyError
  /-- `FSAPI.CreateSymlink(source, target)`. -/
  createSymlink : String → String → Option ProxyError
  /-- `FSAPI.Mkdir(path)`. -/
  mkdir : String → Option ProxyError
  /-- `DiskAPI.ListDiskIDs()`, in the order the range visits the map. -/
  listDiskIDs : Except ProxyError (List (DiskNumber × DiskIDs))
  /-- `DiskAPI.CreateBasicPartition(disk)`. -/
  createBasicPartition : DiskNumber → Option ProxyError
  /-- `DiskAPI.SetDiskState(disk, online)`. -/
  setDiskState : DiskNumber → Bool → Option ProxyError
  /-- `VolumeAPI.ListVolumesOnDisk(disk, 0)`. -/
  listVolumesOnDisk : DiskNumber → Except ProxyError (List String)
  /-- `VolumeAPI.IsVolumeFormatted(volumeID)`. -/
  isVolumeFormatted : String → Except ProxyError Bool
  /-- `VolumeAPI.FormatVolume(volumeID)`. -/
  formatVolume : String → Option ProxyError
  /-- `VolumeAPI.MountVolume(volumeID, path)`. -/
  mountVolume : String → String → Option ProxyError
  /-- `VolumeAPI.GetVolumeIDFromTargetPath(path)`. -/
  getVolumeIDFromTargetPath : String → Except ProxyError String
  /-- `VolumeAPI.UnmountVolume(volumeID, path)`. -/
  unmountVolume : String → String → Option ProxyError
  /-- `VolumeAPI.GetDiskNumberFromVolumeID(volumeID)`. -/
  getDiskNumberFromVolumeID : String → Except ProxyError DiskNumber
  /-- `VolumeAPI.GetVolumeStats(volumeID)`: the volume's size and used size. -/
  getVolumeStats : String → Except ProxyError (Int64 × Int64)

/-- A call made to the proxy, with its arguments. -/
inductive ProxyCall where
  | pathExists (path : String)
  | isSymlink (path : String)
  | rmdir (path : String)
  | createSymlink (source target : String)
  | mkdir (path : String)
  | listDiskIDs
  | createBasicPartition (disk : DiskNumber)
  | setDiskState (disk : DiskNumber) (online : Bool)
  | listVolumesOnDisk (disk : DiskNumber)
  | isVolumeFormatted (volumeID : String)
  | formatVolume (volumeID : String)
  | mountVolume (volumeID path : String)
  | getVolumeIDFromTargetPath (path : String)
  | unmountVolume (volumeID path : String)
  | getDiskNumberFromVolumeID (volumeID : String)
  | getVolumeStats (volumeID : String)
  deriving DecidableEq, Repr

/-- The errors the methods return. -/
inductive MounterError where
  | proxy (e : ProxyError)
  /-- `fmt.Errorf("parse %s failed with error: %v", source, err)`. -/
  | parse (source : String)
  /-- `errors.New("no matching disks found")`. -/
  | noMatchingDisksFound
  /-- `os.ErrNotExist`. -/
  | errNotExist
  deriving DecidableEq, Repr

/-- How a method ends. -/
inductive MounterResult (α : Type) where
  | ok (a : α)
  | err (e : MounterError)
  /-- `index out of range`. -/
  | panicIndexOutOfRange
  deriving DecidableEq, Repr

/-! ## §3 The methods -/

/-- `ExistsPath(path)`. -/
def existsPath (px : Proxy) (path : String) : List ProxyCall × Except ProxyError Bool :=
  ([.pathExists (normalizeWindowsPath path)], px.pathExists (normalizeWindowsPath path))

/-- `IsLikelyNotMountPoint(path)`, with both of its results: a path that does
not exist gives `(true, os.ErrNotExist)`. -/
def isLikelyNotMountPoint (px : Proxy) (path : String) :
    List ProxyCall × (Bool × Option MounterError) :=
  let c := (existsPath px path).1
  match (existsPath px path).2 with
  | .error e => (c, (false, some (.proxy e)))
  | .ok false => (c, (true, some .errNotExist))
  | .ok true =>
    (c ++ [.isSymlink (normalizeWindowsPath path)],
      match px.isSymlink (normalizeWindowsPath path) with
      | .error e => (false, some (.proxy e))
      | .ok isSymlink => (!isSymlink, none))

/-- `GetDiskNumber(diskID)`: the first disk, in range order, whose `Page83`
is non-empty and equal to `diskID`. -/
def getDiskNumber (px : Proxy) (diskID : String) : List ProxyCall × MounterResult String :=
  ([.listDiskIDs],
    match px.listDiskIDs with
    | .error e => .err (.proxy e)
    | .ok diskIDs =>
      match diskIDs.find? (fun d => d.2.page83 != "" && d.2.page83 == diskID) with
      | some (diskNum, _) => .ok (formatUint diskNum)
      | none => .err .noMatchingDisksFound)

/-- The end of `FormatAndMount` once the volume is formatted: mount it. -/
def formatAndMount.mount (px : Proxy) (calls : List ProxyCall) (volumeID target : String) :
    List ProxyCall × MounterResult Unit :=
  (calls ++ [.mountVolume volumeID (normalizeWindowsPath target)],
    match px.mountVolume volumeID (normalizeWindowsPath target) with
    | some e => .err (.proxy e)
    | none => .ok ())

/-- `FormatAndMount(source, target, fstype, options)`. `fstype` and
`options` are not read. The first volume of the disk is taken without a
length check. -/
def formatAndMount (px : Proxy) (source target : String) : List ProxyCall × MounterResult Unit :=
  match atoi source with
  | none => ([], .err (.parse source))
  | some diskNum =>
    let disk := uint32 diskNum
    let c₁ := [ProxyCall.createBasicPartition disk]
    match px.createBasicPartition disk with
    | some e => (c₁, .err (.proxy e))
    | none =>
      let c₂ := c₁ ++ [.setDiskState disk true]
      match px.setDiskState disk true with
      | some e => (c₂, .err (.proxy e))
      | none =>
        let c₃ := c₂ ++ [.listVolumesOnDisk disk]
        match px.listVolumesOnDisk disk with
        | .error e => (c₃, .err (.proxy e))
        | .ok [] => (c₃, .panicIndexOutOfRange)
        | .ok (volumeID :: _) =>
          let c₄ := c₃ ++ [.isVolumeFormatted volumeID]
          match px.isVolumeFormatted volumeID with
          | .error e => (c₄, .err (.proxy e))
          | .ok true => formatAndMount.mount px c₄ volumeID target
          | .ok false =>
            let c₅ := c₄ ++ [.formatVolume volumeID]
            match px.formatVolume volumeID with
            | some e => (c₅, .err (.proxy e))
            | none => formatAndMount.mount px c₅ volumeID target

/-- `Unmount(target)`. A target that does not exist ends it with the error
of `ExistsPath`, which is `nil` when the proxy answered `false`. -/
def unmount (px : Proxy) (target : String) : List ProxyCall × MounterResult Unit :=
  let target := normalizeWindowsPath target
  let c₁ := (existsPath px target).1
  match (existsPath px target).2 with
  | .error e => (c₁, .err (.proxy e))
  | .ok false => (c₁, .ok ())
  | .ok true =>
    let c₂ := c₁ ++ [.getVolumeIDFromTargetPath target]
    match px.getVolumeIDFromTargetPath target with
    | .error e => (c₂, .err (.proxy e))
    | .ok volumeId =>
      let c₃ := c₂ ++ [.unmountVolume volumeId target]
      match px.unmountVolume volumeId target with
      | some e => (c₃, .err (.proxy e))
      | none =>
        let c₄ := c₃ ++ [.rmdir (normalizeWindowsPath target)]
        match px.rmdir (normalizeWindowsPath target) with
        | some e => (c₄, .err (.proxy e))
        | none =>
          let c₅ := c₄ ++ [.getDiskNumberFromVolumeID volumeId]
          match px.getDiskNumberFromVolumeID volumeId with
          | .error e => (c₅, .err (.proxy e))
          | .ok diskNumber =>
            (c₅ ++ [.setDiskState diskNumber false],
              match px.setDiskState diskNumber false with
              | some e => .err (.proxy e)
              | none => .ok ())

/-- `Mount(source, target, fstype, options)`: a symbolic link at `target`. -/
def mount (px : Proxy) (source target : String) : List ProxyCall × MounterResult Unit :=
  ([.createSymlink (normalizeWindowsPath source) (normalizeWindowsPath target)],
    match px.createSymlink (normalizeWindowsPath source) (normalizeWindowsPath target) with
    | some e => .err (.proxy e)
    | none => .ok ())

/-- `MakeDir(pathname)`. -/
def makeDir (px : Proxy) (pathname : String) : List ProxyCall × Option ProxyError :=
  ([.mkdir (normalizeWindowsPath pathname)], px.mkdir (normalizeWindowsPath pathname))

/-- `GetDeviceNameFromMount(mountPath)`: the volume ID the proxy finds for the
normalised path. -/
def getDeviceNameFromMount (px : Proxy) (mountPath : String) :
    List ProxyCall × Except ProxyError String :=
  ([.getVolumeIDFromTargetPath (normalizeWindowsPath mountPath)],
    px.getVolumeIDFromTargetPath (normalizeWindowsPath mountPath))

/-- The results of `StatFS` other than its error. -/
structure FsStats where
  available : Int64
  capacity : Int64
  used : Int64
  inodesFree : Int64
  inodes : Int64
  inodesUsed : Int64
  deriving DecidableEq, Repr

/-- `StatFS(path)`. The path goes to the proxy as it is given. With an error
every other result is zero; `available` is `capacity - used` in `int64`, and
the inode counts are zero. -/
def statFS (px : Proxy) (path : String) : List ProxyCall × Except ProxyError FsStats :=
  let c₁ := [ProxyCall.getVolumeIDFromTargetPath path]
  match px.getVolumeIDFromTargetPath path with
  | .error e => (c₁, .error e)
  | .ok volumeID =>
    (c₁ ++ [.getVolumeStats volumeID],
      match px.getVolumeStats volumeID with
      | .error e => .error e
      | .ok (volumeSize, volumeUsedSize) =>
        .ok ⟨volumeSize - volumeUsedSize, volumeSize, volumeUsedSize, 0, 0, 0⟩)

/-! ## §4 Many calls on one node -/

/-- The proxy of a node that knows which volumes are formatted:
`IsVolumeFormatted` fails where `px` fails, and otherwise tells the truth. -/
def Proxy.reporting (px : Proxy) (formatted : String → Bool) : Proxy :=
  { px with isVolumeFormatted := fun v => (px.isVolumeFormatted v).map fun _ => formatted v }

/-- The volume a `FormatVolume` call names. -/
def ProxyCall.formatVolume? : ProxyCall → Option String
  | .formatVolume volumeID => some volumeID
  | _ => none

/-- The volumes that the `FormatVolume` calls among `calls` formatted: those
whose call the proxy did not fail. -/
def formattedBy (px : Proxy) (calls : List ProxyCall) : List String :=
  (calls.filterMap ProxyCall.formatVolume?).filter fun v => (px.formatVolume v).isNone

/-- The histories of `FormatAndMount` on one node, as kubelet retries it:
`FormatHistory formatted F` when a run of calls from the volumes formatted
before leaves the volumes `formatted` formatted, and formatted the volumes
`F`, in order. Each call has the faults of its own proxy, and is answered by
the node's true format state. -/
inductive FormatHistory : (String → Bool) → List String → Prop where
  | init (formatted : String → Bool) : FormatHistory formatted []
  | call {formatted : String → Bool} {F : List String} (px : Proxy) (source target : String) :
      FormatHistory formatted F →
      FormatHistory
        (fun v => formatted v ||
          (formattedBy px (formatAndMount (px.reporting formatted) source target).1).contains v)
        (F ++ formattedBy px (formatAndMount (px.reporting formatted) source target).1)

end VsphereCsi.Mounter
