import VsphereCsi.Mounter.Windows

/-!
VsphereCsi.Mounter.WindowsTheorems — what the Windows mounter asks of the CSI
proxy.

  §1 Paths — `normalizeWindowsPath` is idempotent
     (`normalizeWindowsPath_idempotent`). `Unmount` normalises its target and
     then hands it to methods that normalise again, so every path-carrying
     call it makes carries the same path (`unmount_one_path`). `ExistsPath`,
     `IsLikelyNotMountPoint`, `FormatAndMount`, `Unmount` and `Mount` give
     the same calls for a path and its normalised form
     (`mounter_methods_normalize_paths`).
  §2 Disk numbers — `FormatAndMount` of the string `GetDiskNumber` returns
     partitions exactly the disk that `GetDiskNumber` matched
     (`formatAndMount_partitions_found_disk`): `Atoi` reads back what
     `FormatUint` wrote, and `uint32` keeps a `uint32`. When at most one
     disk has the identifier, the range order of the disk map does not
     matter (`getDiskNumber_range_order`).
  §3 `FormatAndMount` — it formats a volume only after the proxy reported it
     unformatted, and at most one volume per call. So over any run of calls
     on a node whose proxy reports the true format state, no volume is
     formatted twice (`formatAndMount_never_reformats`). Its one panic, the
     mounter's only one, is on a disk that lists no volume
     (`mounter_panics_only_on_empty_disk`).
  §4 The path-forwarding methods — `StatFS`, unlike `MakeDir` and
     `GetDeviceNameFromMount`, does not normalise its path
     (`statFS_path_form_matters`).
-/

namespace VsphereCsi.Mounter

open VsphereCsi.Go

/-- A proxy on which every call succeeds. Of its two disks, disk `1` has a
`Page83` identifier, and its one volume is unformatted. -/
def sampleProxy : Proxy where
  pathExists _ := .ok true
  isSymlink _ := .ok true
  rmdir _ := none
  createSymlink _ _ := none
  mkdir _ := none
  listDiskIDs := .ok [(0, ⟨""⟩), (1, ⟨"6000c29a"⟩)]
  createBasicPartition _ := none
  setDiskState _ _ := none
  listVolumesOnDisk _ := .ok ["vol-1"]
  isVolumeFormatted _ := .ok false
  formatVolume _ := none
  mountVolume _ _ := none
  getVolumeIDFromTargetPath _ := .ok "vol-1"
  unmountVolume _ _ := none
  getDiskNumberFromVolumeID _ := .ok 1
  getVolumeStats _ := .ok (1073741824, 4096)

/-! ## §1 Paths -/

/-- After replacing every `o` by another rune, no `o` is left. -/
theorem not_mem_replaceRune (s : String) {o n : Char} (h : o ≠ n) :
    o ∉ (replaceRune s o n).data := by
  simp only [replaceRune, List.mem_map, not_exists, not_and]
  intro c _
  split
  · exact Ne.symm h
  · exact ‹¬c = o›

/-- Replacing a rune that does not occur changes nothing. -/
theorem replaceRune_of_not_mem {s : String} {o : Char} (n : Char) (h : o ∉ s.data) :
    replaceRune s o n = s := by
  refine String.ext ?_
  show s.data.map _ = s.data
  conv_rhs => rw [← List.map_id s.data]
  exact List.map_congr_left fun c hc => if_neg fun (hco : c = o) => h (hco ▸ hc)

/-- **`normalizeWindowsPath` is idempotent.** -/
theorem normalizeWindowsPath_idempotent (path : String) :
    normalizeWindowsPath (normalizeWindowsPath path) = normalizeWindowsPath path := by
  have hr := not_mem_replaceRune path (show '/' ≠ '\\' by decide)
  simp only [normalizeWindowsPath]
  split
  · have hc : '/' ∉ ("c:" ++ replaceRune path '/' '\\').data := by
      simpa [String.data_append] using hr
    rw [replaceRune_of_not_mem _ hc, if_neg (by simp [hasPrefix, String.data_append])]
  · rw [replaceRune_of_not_mem _ hr, if_neg ‹_›]

/-- The path a proxy call carries, if any. -/
def ProxyCall.path? : ProxyCall → Option String
  | .pathExists path | .isSymlink path | .rmdir path | .mkdir path | .getVolumeIDFromTargetPath path
  | .mountVolume _ path | .unmountVolume _ path => some path
  | .createSymlink _ target => some target
  | _ => none

/-- **`Unmount` names one path**: every call it makes that carries a path
carries the normalised target, even though `ExistsPath` and `Rmdir`
normalise the already normalised target again. -/
theorem unmount_one_path (px : Proxy) (target : String) :
    ∀ c ∈ (unmount px target).1, c.path? = none ∨ c.path? = some (normalizeWindowsPath target) := by
  simp only [unmount, existsPath, normalizeWindowsPath_idempotent]
  repeat' split
  all_goals simp [ProxyCall.path?]

theorem unmount_rmdir_one_path :
    ProxyCall.rmdir "c:\\mnt\\a" ∈ (unmount sampleProxy "/mnt/a").1 ∧
      ((ProxyCall.rmdir "c:\\mnt\\a").path? = none ∨
        (ProxyCall.rmdir "c:\\mnt\\a").path? = some (normalizeWindowsPath "/mnt/a")) := by
  have h : ProxyCall.rmdir "c:\\mnt\\a" ∈ (unmount sampleProxy "/mnt/a").1 := by decide
  exact ⟨h, unmount_one_path _ _ _ h⟩

/-- **Every method treats a path and its normalised form alike**: the
methods normalise each path they pass on, and normalising twice is
normalising once, so a caller may pass `/`-separated or already normalised
paths and the proxy sees the same calls. -/
theorem mounter_methods_normalize_paths (px : Proxy) (source path : String) :
    existsPath px (normalizeWindowsPath path) = existsPath px path ∧
    isLikelyNotMountPoint px (normalizeWindowsPath path) = isLikelyNotMountPoint px path ∧
    formatAndMount px source (normalizeWindowsPath path) = formatAndMount px source path ∧
    unmount px (normalizeWindowsPath path) = unmount px path ∧
    mount px (normalizeWindowsPath source) (normalizeWindowsPath path) = mount px source path := by
  simp only [existsPath, isLikelyNotMountPoint, formatAndMount, formatAndMount.mount, unmount,
    mount, normalizeWindowsPath_idempotent, and_self]

/-! ## §2 Disk numbers -/

/-- `uint32` of a `uint32` read as an `int` is that `uint32`. -/
theorem uint32_natCast (disk : DiskNumber) : uint32 (disk.val : Int) = disk :=
  Fin.ext (by simp only [uint32]; omega)

/-- Once `Atoi` has read the disk number, `FormatAndMount` first partitions
that disk. -/
theorem formatAndMount_head {px : Proxy} {source : String} {i : Int} (h : atoi source = some i)
    (target : String) :
    (formatAndMount px source target).1.head? = some (.createBasicPartition (uint32 i)) := by
  simp only [formatAndMount, formatAndMount.mount, h]
  repeat' split
  all_goals simp

/-- **`FormatAndMount` partitions the disk `GetDiskNumber` found**: when
`GetDiskNumber(diskID)` returns a number, the proxy listed a disk whose
non-empty `Page83` is `diskID`, and `FormatAndMount` of that number makes its
first call, `CreateBasicPartition`, on that disk. -/
theorem formatAndMount_partitions_found_disk {px : Proxy} {diskID s : String}
    (h : (getDiskNumber px diskID).2 = .ok s) (target : String) :
    ∃ disks disk info, px.listDiskIDs = .ok disks ∧ (disk, info) ∈ disks ∧
      info.page83 = diskID ∧ diskID ≠ "" ∧
      (formatAndMount px s target).1.head? = some (.createBasicPartition disk) := by
  simp only [getDiskNumber] at h
  split at h
  · cases h
  · next disks hl =>
    split at h
    · next disk info hf =>
      cases h
      have hp := List.find?_some hf
      simp only [Bool.and_eq_true, bne_iff_ne, ne_eq, beq_iff_eq] at hp
      refine ⟨disks, disk, info, hl, List.mem_of_find?_eq_some hf, hp.2, hp.2 ▸ hp.1, ?_⟩
      rw [formatAndMount_head (atoi_formatUint (by omega)), uint32_natCast]
    · cases h

theorem formatAndMount_partitions_disk_one :
    (getDiskNumber sampleProxy "6000c29a").2 = .ok (formatUint 1) ∧
      ∃ disks disk info, sampleProxy.listDiskIDs = .ok disks ∧ (disk, info) ∈ disks ∧
        info.page83 = "6000c29a" ∧ "6000c29a" ≠ "" ∧
        (formatAndMount sampleProxy (formatUint 1) "/mnt/a").1.head? =
          some (.createBasicPartition disk) := by
  have h : (getDiskNumber sampleProxy "6000c29a").2 = .ok (formatUint 1) := rfl
  exact ⟨h, formatAndMount_partitions_found_disk h _⟩

/-- `find?` of a permutation finds the same element when at most one element
satisfies the predicate. -/
theorem find?_perm_of_unique {α : Type} {p : α → Bool} {l l' : List α} (hp : l.Perm l')
    (hu : ∀ a ∈ l, ∀ b ∈ l, p a = true → p b = true → a = b) : l.find? p = l'.find? p := by
  cases h : l.find? p with
  | none =>
    exact (List.find?_eq_none.2 fun x hx => List.find?_eq_none.1 h x (hp.mem_iff.2 hx)).symm
  | some a =>
    cases h' : l'.find? p with
    | none => exact absurd (List.find?_some h) (List.find?_eq_none.1 h' a
        (hp.mem_iff.1 (List.mem_of_find?_eq_some h)))
    | some b =>
      exact congrArg some (hu a (List.mem_of_find?_eq_some h) b
        (hp.mem_iff.2 (List.mem_of_find?_eq_some h')) (List.find?_some h) (List.find?_some h'))

/-- **`GetDiskNumber` does not depend on the range order** when at most one
listed disk has the `Page83` it looks for: Go ranges over the map of
`ListDiskIDs` in an unspecified order, and every order gives the same calls
and the same result. -/
theorem getDiskNumber_range_order {px px' : Proxy} {diskID : String}
    {disks disks' : List (DiskNumber × DiskIDs)} (h : px.listDiskIDs = .ok disks)
    (h' : px'.listDiskIDs = .ok disks') (hperm : disks.Perm disks')
    (hu : ∀ a ∈ disks, ∀ b ∈ disks, a.2.page83 = diskID → b.2.page83 = diskID → a = b) :
    getDiskNumber px diskID = getDiskNumber px' diskID := by
  have hf := find?_perm_of_unique (p := fun d => d.2.page83 != "" && d.2.page83 == diskID) hperm
    fun a ha b hb hpa hpb => hu a ha b hb (by simp at hpa; exact hpa.2) (by simp at hpb; exact hpb.2)
  simp only [getDiskNumber, h, h', hf]

theorem getDiskNumber_sample_reversed :
    [((0 : DiskNumber), (⟨""⟩ : DiskIDs)), (1, ⟨"6000c29a"⟩)].Perm [(1, ⟨"6000c29a"⟩), (0, ⟨""⟩)] ∧
      getDiskNumber sampleProxy "6000c29a" =
        getDiskNumber { sampleProxy with listDiskIDs := .ok [(1, ⟨"6000c29a"⟩), (0, ⟨""⟩)] }
          "6000c29a" := by
  have hperm : [((0 : DiskNumber), (⟨""⟩ : DiskIDs)), (1, ⟨"6000c29a"⟩)].Perm
      [(1, ⟨"6000c29a"⟩), (0, ⟨""⟩)] := by decide
  exact ⟨hperm, getDiskNumber_range_order rfl rfl hperm (by decide)⟩

/-! ## §3 `FormatAndMount` -/

/-- **`FormatAndMount` never formats a formatted volume**: it calls
`FormatVolume` on a volume only after `IsVolumeFormatted` reported that
volume unformatted. -/
theorem formatAndMount_formats_only_unformatted {px : Proxy} {source target volumeID : String}
    (h : .formatVolume volumeID ∈ (formatAndMount px source target).1) :
    px.isVolumeFormatted volumeID = .ok false := by
  simp only [formatAndMount, formatAndMount.mount] at h
  repeat' split at h
  all_goals
    simp only [List.mem_append, List.mem_singleton, List.mem_cons, List.not_mem_nil, or_false,
      reduceCtorEq, false_or, ProxyCall.formatVolume.injEq] at h
  all_goals subst h; assumption

/-- A call of `FormatAndMount` makes at most one `FormatVolume`, on a volume
the proxy reported unformatted. -/
theorem formatAndMount_formatVolume_calls (px : Proxy) (source target : String) :
    (formatAndMount px source target).1.filterMap ProxyCall.formatVolume? = [] ∨
      ∃ v, (formatAndMount px source target).1.filterMap ProxyCall.formatVolume? = [v] ∧
        px.isVolumeFormatted v = .ok false := by
  simp only [formatAndMount, formatAndMount.mount]
  repeat' split
  all_goals simp_all [ProxyCall.formatVolume?]

/-- A node whose proxy reports the format state answers "unformatted" only
for a volume that is not formatted. -/
theorem reporting_unformatted {px : Proxy} {formatted : String → Bool} {v : String}
    (h : (px.reporting formatted).isVolumeFormatted v = .ok false) : formatted v = false := by
  simp only [Proxy.reporting] at h
  cases hv : px.isVolumeFormatted v <;> simp_all [Except.map]

/-- **Step lemma**: a call formats at most one volume, and one that was not
formatted. -/
theorem formattedBy_formatAndMount (px : Proxy) (formatted : String → Bool)
    (source target : String) :
    (formattedBy px (formatAndMount (px.reporting formatted) source target).1).Nodup ∧
      ∀ v ∈ formattedBy px (formatAndMount (px.reporting formatted) source target).1,
        formatted v = false := by
  unfold formattedBy
  rcases formatAndMount_formatVolume_calls (px.reporting formatted) source target with h | ⟨w, h, hw⟩ <;>
    rw [h]
  · simp
  · refine ⟨(List.nodup_singleton w).sublist (List.filter_sublist _), fun v hv => ?_⟩
    obtain rfl : v = w := List.mem_singleton.1 (List.mem_of_mem_filter hv)
    exact reporting_unformatted hw

/-- **Run lemma**: over every history, no volume is formatted twice, and
every volume formatted is known to be. -/
theorem FormatHistory.inv {formatted : String → Bool} {F : List String}
    (h : FormatHistory formatted F) : F.Nodup ∧ ∀ v ∈ F, formatted v = true := by
  induction h with
  | init => exact ⟨List.nodup_nil, nofun⟩
  | call px source target _ ih =>
    obtain ⟨hnd, hF⟩ := ih
    obtain ⟨hS, hSf⟩ := formattedBy_formatAndMount px _ source target
    refine ⟨List.nodup_append.2 ⟨hnd, hS, fun v hv hv' => ?_⟩, fun v hv => ?_⟩
    · simpa [hF v hv] using hSf v hv'
    · rcases List.mem_append.1 hv with hv | hv
      · simp [hF v hv]
      · simp [hv]

/-- **`FormatAndMount` never formats a volume twice.** Over any run of
`FormatAndMount` calls on one node (kubelet's retries of a stage), each call
with any faults of the proxy, and with `IsVolumeFormatted` answering from the
node's true format state: no volume is formatted twice, and no call even
issues `FormatVolume` on a volume that an earlier call formatted. -/
theorem formatAndMount_never_reformats {formatted : String → Bool} {F : List String}
    (h : FormatHistory formatted F) :
    F.Nodup ∧ ∀ (px : Proxy) (source target v : String),
      .formatVolume v ∈ (formatAndMount (px.reporting formatted) source target).1 → v ∉ F := by
  obtain ⟨hnd, hF⟩ := h.inv
  refine ⟨hnd, fun px source target v hv hvF => ?_⟩
  have hu := reporting_unformatted (formatAndMount_formats_only_unformatted hv)
  simp [hF v hvF] at hu

/-- A first call formats `vol-1` on a node where nothing was formatted. -/
theorem format_then_retry_formats_once :
    ∃ formatted F, FormatHistory formatted F ∧ F = ["vol-1"] ∧
      (F.Nodup ∧ ∀ (px : Proxy) (source target v : String),
        .formatVolume v ∈ (formatAndMount (px.reporting formatted) source target).1 → v ∉ F) :=
  let h := FormatHistory.call sampleProxy "1" "/mnt/a" (.init fun _ => false)
  ⟨_, _, h, by decide, formatAndMount_never_reformats h⟩

/-- **The mounter's only panic.** `FormatAndMount` panics exactly when the
source parses as a disk number, the disk is partitioned and set online, and
it lists no volume: `volumeIds[0]` has no length check. No other branch of it
panics, and neither `Unmount` nor `GetDiskNumber` ever does. -/
theorem mounter_panics_only_on_empty_disk :
    (∀ (px : Proxy) (source target : String),
      (formatAndMount px source target).2 = .panicIndexOutOfRange ↔
        ∃ i, atoi source = some i ∧ px.createBasicPartition (uint32 i) = none ∧
          px.setDiskState (uint32 i) true = none ∧ px.listVolumesOnDisk (uint32 i) = .ok []) ∧
    (∀ (px : Proxy) (target : String), (unmount px target).2 ≠ .panicIndexOutOfRange) ∧
    (∀ (px : Proxy) (diskID : String), (getDiskNumber px diskID).2 ≠ .panicIndexOutOfRange) := by
  refine ⟨fun px source target => ⟨fun h => ?_, fun ⟨i, h, hp, hs, hl⟩ => ?_⟩,
    fun px target => ?_, fun px diskID => ?_⟩
  · simp only [formatAndMount, formatAndMount.mount] at h
    repeat' split at h
    all_goals first | exact ⟨_, ‹_›, ‹_›, ‹_›, ‹_›⟩ | cases h
  · simp [formatAndMount, h, hp, hs, hl]
  · simp only [unmount]
    repeat' split
    all_goals simp
  · simp only [getDiskNumber]
    repeat' split
    all_goals simp

/-! ## §4 The path-forwarding methods -/

/-- The first call of `StatFS` looks the path up as it is given. -/
theorem statFS_head (px : Proxy) (path : String) :
    (statFS px path).1.head? = some (.getVolumeIDFromTargetPath path) := by
  unfold statFS; split <;> rfl

/-- **`StatFS` is the one path method that depends on the path's form.**
`MakeDir` and `GetDeviceNameFromMount` normalise the path they are given, so
they treat a path and its normalised form alike. `StatFS` hands the path to
`GetVolumeIDFromTargetPath` as it is. It treats the two forms alike on every
proxy exactly when the path is already normalised, and it looks up the same
path as `GetDeviceNameFromMount` exactly then: a `/`-separated path reaches
the proxy unconverted. -/
theorem statFS_path_form_matters (path : String) :
    (∀ px, makeDir px (normalizeWindowsPath path) = makeDir px path ∧
      getDeviceNameFromMount px (normalizeWindowsPath path) = getDeviceNameFromMount px path) ∧
    ((∀ px, statFS px (normalizeWindowsPath path) = statFS px path) ↔
      normalizeWindowsPath path = path) ∧
    ∀ px, (statFS px path).1.head? = (getDeviceNameFromMount px path).1.head? ↔
      normalizeWindowsPath path = path := by
  refine ⟨fun px => ?_, ⟨fun h => ?_, fun h px => by rw [h]⟩, fun px => ?_⟩
  · simp only [makeDir, getDeviceNameFromMount, normalizeWindowsPath_idempotent, and_self]
  · -- the first call of each side names the path it was given
    have hc := (statFS_head sampleProxy _).symm.trans
      ((congrArg (·.1.head?) (h sampleProxy)).trans (statFS_head sampleProxy path))
    simpa using hc
  · rw [statFS_head, getDeviceNameFromMount]
    simpa using eq_comm

end VsphereCsi.Mounter
