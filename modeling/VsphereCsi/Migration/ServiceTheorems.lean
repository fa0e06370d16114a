import VsphereCsi.Migration.Service

/-!
VsphereCsi.Migration.ServiceTheorems — the cache and the CRs under every
sequence of the four cache methods and every outcome of the client's calls.

  §1 Store sites — each of the three `Store` calls keys its value by the
     value's own `VolumePath`, and none stores the type `GetVolumeInfo`
     asserts (`CacheKeyed`). Every state a run of calls reaches from
     `sync.Map{}` has `CacheKeyed` (`cacheKeyed_run`), so every cache hit of
     `GetVolumeInfo` ends in a failed type assertion
     (`getVolumeInfo_hit_panics`).
  §2 `DeleteVolumeInfo` — a failed `List` changes nothing; a returned `nil`
     leaves no cache entry; a successful client `Delete` removes exactly the
     first listed CR for the path. A second CR for the same path survives and
     `GetVolumeInfo` finds it again (`deleteVolumeInfo_keeps_second_cr`).
  §3 The cache and the CRs — every cached value is the spec of a listed CR
     (`CacheBacked`). Every method keeps it, `DeleteVolumeInfo` because the
     CR it removes has the path it evicts, so after any run every cached
     value has its CR (`cached_spec_has_cr`).
-/

namespace VsphereCsi.Migration

namespace VolumeMigration

/-! ## §1 Store sites -/

/-- Under key `p` the cache holds a value whose spec has `VolumePath = p`,
and never a `*CnsvSphereVolumeMigrationSpec`. -/
def CacheKeyed (vm : VolumeMigration) : Prop :=
  ∀ p v, vm.volumePathToVolumeInfo p = some v → v.volumePath = p ∧ ∀ s, v ≠ .specPtr s

@[simp] theorem store_volumePathToVolumeInfo (vm : VolumeMigration) (key : String)
    (value : CacheValue) :
    (vm.store key value).volumePathToVolumeInfo = Function.update vm.volumePathToVolumeInfo key (some value) :=
  rfl

@[simp] theorem evict_volumePathToVolumeInfo (vm : VolumeMigration) (key : String) :
    (vm.evict key).volumePathToVolumeInfo = Function.update vm.volumePathToVolumeInfo key none :=
  rfl

theorem CacheKeyed.store {vm : VolumeMigration} (h : vm.CacheKeyed) {p : String} {v : CacheValue}
    (hp : v.volumePath = p) (hv : ∀ s, v ≠ .specPtr s) : (vm.store p v).CacheKeyed := by
  intro q w hq
  by_cases hqp : q = p
  · subst hqp; simp only [store_volumePathToVolumeInfo, Function.update_same, Option.some.injEq] at hq
    exact hq ▸ ⟨hp, hv⟩
  · simp only [store_volumePathToVolumeInfo, Function.update_noteq hqp] at hq
    exact h q w hq

theorem CacheKeyed.evict {vm : VolumeMigration} (h : vm.CacheKeyed) (p : String) :
    (vm.evict p).CacheKeyed := by
  intro q w hq
  by_cases hqp : q = p
  · subst hqp; simp at hq
  · simp only [evict_volumePathToVolumeInfo, Function.update_noteq hqp] at hq
    exact h q w hq

theorem CacheKeyed.withCRs {vm : VolumeMigration} (h : vm.CacheKeyed)
    (crs : List CnsvSphereVolumeMigration) : ({ vm with crs := crs } : VolumeMigration).CacheKeyed :=
  h

theorem findCR_volumePath {crs : List CnsvSphereVolumeMigration} {p : String}
    {o : CnsvSphereVolumeMigration} (h : findCR crs p = some o) : o.spec.volumePath = p := by
  simpa using List.find?_some h

theorem CacheKeyed.getVolumeInfo {vm : VolumeMigration} (h : vm.CacheKeyed) (f : Option GoError)
    (p : String) : (vm.getVolumeInfo f p).2.CacheKeyed := by
  unfold VolumeMigration.getVolumeInfo
  split
  · exact h
  · split
    · exact h
    · split
      · next o ho => exact h.store (findCR_volumePath ho) nofun
      · exact h

theorem CacheKeyed.loadAll {vm : VolumeMigration} (h : vm.CacheKeyed) :
    ∀ crs : List CnsvSphereVolumeMigration,
      (crs.foldl (fun acc o => acc.store o.spec.volumePath (.spec o.spec)) vm).CacheKeyed := by
  intro crs
  induction crs generalizing vm with
  | nil => exact h
  | cons o os ih => exact ih (h.store rfl nofun)

/-- **Step lemma**: every cache method keeps `CacheKeyed`, whatever its
client calls return. -/
theorem CacheKeyed.call {vm : VolumeMigration} (h : vm.CacheKeyed) : ∀ c : Call, (vm.call c).CacheKeyed
  | .getVolumeInfo p f => h.getVolumeInfo f p
  | .saveVolumeInfo cr f => by
    cases f with
    | some e => exact h
    | none => exact (h.withCRs _).store rfl nofun
  | .deleteVolumeInfo p f g => by
    cases f with
    | some e => exact h
    | none => exact (h.withCRs _).evict p
  | .loadAllVolumeInfo f => by
    cases f with
    | some e => exact h
    | none => exact h.loadAll vm.crs

/-- **Run lemma**: every run of calls keeps `CacheKeyed`. -/
theorem CacheKeyed.run {vm : VolumeMigration} (h : vm.CacheKeyed) :
    ∀ calls : List Call, (vm.run calls).CacheKeyed
  | [] => h
  | c :: cs => (h.call c).run cs

theorem cacheKeyed_fresh (crs : List CnsvSphereVolumeMigration) : (fresh crs).CacheKeyed :=
  fun _ _ h => by simp [fresh] at h

/-- Under `CacheKeyed`, a cache hit fails the type assertion. -/
theorem CacheKeyed.hit_panics {vm : VolumeMigration} (h : vm.CacheKeyed) {p : String}
    (hp : vm.volumePathToVolumeInfo p ≠ none) (f : Option GoError) :
    ∃ t, (vm.getVolumeInfo f p).1 =
      .panic (.interfaceConversion t "*v1alpha1.CnsvSphereVolumeMigrationSpec") := by
  obtain ⟨v, hv⟩ := Option.ne_none_iff_exists'.mp hp
  have hs := (h p v hv).2
  simp only [VolumeMigration.getVolumeInfo, hv]
  cases v with
  | specPtr s => exact (hs s rfl).elim
  | spec s => exact ⟨_, rfl⟩
  | crPtr cr => exact ⟨_, rfl⟩

/-- **`GetVolumeInfo` never survives a cache hit.** After any sequence of
`SaveVolumeInfo`, `LoadAllVolumeInfo`, `GetVolumeInfo` and
`DeleteVolumeInfo` calls from `sync.Map{}`, over any CRs and any client
outcomes, a `GetVolumeInfo` that finds its path in the cache panics in
`info.(*migration.CnsvSphereVolumeMigrationSpec)`. -/
theorem getVolumeInfo_hit_panics (crs : List CnsvSphereVolumeMigration) (calls : List Call)
    (p : String) (f : Option GoError)
    (hp : ((fresh crs).run calls).volumePathToVolumeInfo p ≠ none) :
    ∃ t, (((fresh crs).run calls).getVolumeInfo f p).1 =
      .panic (.interfaceConversion t "*v1alpha1.CnsvSphereVolumeMigrationSpec") :=
  ((cacheKeyed_fresh crs).run calls).hit_panics hp f

/-- `SaveVolumeInfo(m)` followed by `GetVolumeInfo(m.Spec.VolumePath)`. -/
theorem saveVolumeInfo_then_getVolumeInfo_panics :
    ((fresh []).run [.saveVolumeInfo ⟨"uuid-1", ⟨"[ds1] kubevols/a.vmdk", "uuid-1", "fcd-1"⟩⟩ none]).volumePathToVolumeInfo
        "[ds1] kubevols/a.vmdk" ≠ none ∧
      ∃ t, (((fresh []).run [.saveVolumeInfo ⟨"uuid-1", ⟨"[ds1] kubevols/a.vmdk", "uuid-1", "fcd-1"⟩⟩ none]).getVolumeInfo
        none "[ds1] kubevols/a.vmdk").1 =
          .panic (.interfaceConversion t "*v1alpha1.CnsvSphereVolumeMigrationSpec") :=
  ⟨by decide, getVolumeInfo_hit_panics _ _ _ _ (by decide)⟩

/-! ## §2 `DeleteVolumeInfo` -/

/-- Deleting the first CR for a path removes one CR for it and no other CR. -/
theorem erase_findCR {crs : List CnsvSphereVolumeMigration} {p : String}
    {o : CnsvSphereVolumeMigration} (h : findCR crs p = some o) :
    (crs.erase o).countP (·.spec.volumePath = p) + 1 = crs.countP (·.spec.volumePath = p) ∧
      (crs.erase o).filter (·.spec.volumePath ≠ p) = crs.filter (·.spec.volumePath ≠ p) := by
  induction crs with
  | nil => simp [findCR] at h
  | cons x xs ih =>
    by_cases hx : x.spec.volumePath = p
    · obtain rfl : x = o := by simpa [findCR, hx] using h
      simp [hx]
    · have h' : findCR xs p = some o := by simpa [findCR, hx] using h
      have hne : ¬(x == o) = true := by
        simpa using fun e : x = o => hx (e ▸ findCR_volumePath h')
      obtain ⟨ih1, ih2⟩ := ih h'
      simp only [List.erase_cons_tail hne, List.countP_cons, hx, decide_False, ih1.symm]
      simpa [hx] using ih2

/-- After a successful `List`, `DeleteVolumeInfo` leaves no cache entry for
the path, so the next `GetVolumeInfo` goes to the CRs that are left. -/
theorem getVolumeInfo_after_delete (vm : VolumeMigration) (df : Option GoError) (p : String) :
    ((vm.deleteVolumeInfo none df p).2.getVolumeInfo none p).1 =
      match findCR (vm.deleteVolumeInfo none df p).2.crs p with
      | some o => .ok o.spec
      | none => .err .volumeNotRegistered := by
  have hcache : (vm.deleteVolumeInfo none df p).2.volumePathToVolumeInfo p = none := by
    simp [deleteVolumeInfo, evict]
  simp only [getVolumeInfo, hcache]
  cases findCR (vm.deleteVolumeInfo none df p).2.crs p <;> rfl

/-- **`DeleteVolumeInfo`.** A failed `List` returns its error and changes
nothing. A `nil` return leaves no cache entry for the path. When the client's
`Delete` succeeded, the CR list is the old one with its first CR for the path
removed (`List.erase` of what `findCR` finds): one CR for the path is gone
and every CR for another path is kept. A `GetVolumeInfo` whose `List`
succeeds then returns the next CR listed for the path, so a path held by at
most one CR is unregistered. -/
theorem deleteVolumeInfo_removes_first_cr (vm : VolumeMigration) (lf df : Option GoError)
    (p : String) :
    ((vm.deleteVolumeInfo lf df p).1 ≠ none → (vm.deleteVolumeInfo lf df p).2 = vm) ∧
    ((vm.deleteVolumeInfo lf df p).1 = none →
      (vm.deleteVolumeInfo lf df p).2.volumePathToVolumeInfo p = none) ∧
    ((vm.deleteVolumeInfo lf df p).1 = none → df = none →
      (∀ o, findCR vm.crs p = some o → (vm.deleteVolumeInfo lf df p).2.crs = vm.crs.erase o) ∧
      (findCR vm.crs p = none → (vm.deleteVolumeInfo lf df p).2.crs = vm.crs) ∧
      (vm.deleteVolumeInfo lf df p).2.crs.countP (·.spec.volumePath = p) =
          vm.crs.countP (·.spec.volumePath = p) - 1 ∧
      (vm.deleteVolumeInfo lf df p).2.crs.filter (·.spec.volumePath ≠ p) =
          vm.crs.filter (·.spec.volumePath ≠ p)) ∧
    ((vm.deleteVolumeInfo lf df p).1 = none →
      ((vm.deleteVolumeInfo lf df p).2.getVolumeInfo none p).1 =
        match findCR (vm.deleteVolumeInfo lf df p).2.crs p with
        | some o => .ok o.spec
        | none => .err .volumeNotRegistered) ∧
    ((vm.deleteVolumeInfo lf df p).1 = none → df = none →
      vm.crs.countP (·.spec.volumePath = p) ≤ 1 →
      ((vm.deleteVolumeInfo lf df p).2.getVolumeInfo none p).1 = .err .volumeNotRegistered) := by
  cases lf with
  | some e => simp [deleteVolumeInfo]
  | none =>
    -- the CR list after a `Delete` that succeeded: the first match erased
    have hcrs : df = none →
        (∀ o, findCR vm.crs p = some o → (vm.deleteVolumeInfo none df p).2.crs = vm.crs.erase o) ∧
        (findCR vm.crs p = none → (vm.deleteVolumeInfo none df p).2.crs = vm.crs) := by
      rintro rfl
      exact ⟨fun o hf => by simp [deleteVolumeInfo, evict, hf],
        fun hf => by simp [deleteVolumeInfo, evict, hf]⟩
    have hcount : df = none →
        (vm.deleteVolumeInfo none df p).2.crs.countP (·.spec.volumePath = p) =
          vm.crs.countP (·.spec.volumePath = p) - 1 ∧
        (vm.deleteVolumeInfo none df p).2.crs.filter (·.spec.volumePath ≠ p) =
          vm.crs.filter (·.spec.volumePath ≠ p) := by
      intro hdf
      cases hf : findCR vm.crs p with
      | none =>
        have hz : vm.crs.countP (·.spec.volumePath = p) = 0 :=
          List.countP_eq_zero.mpr fun x hx => by simpa using List.find?_eq_none.mp hf x hx
        rw [(hcrs hdf).2 hf, hz]
        exact ⟨rfl, rfl⟩
      | some o =>
        obtain ⟨h1, h2⟩ := erase_findCR hf
        rw [(hcrs hdf).1 o hf]
        exact ⟨by omega, h2⟩
    refine ⟨by simp [deleteVolumeInfo], fun _ => by simp [deleteVolumeInfo, evict],
      fun _ hdf => ⟨(hcrs hdf).1, (hcrs hdf).2, hcount hdf⟩,
      fun _ => getVolumeInfo_after_delete vm df p, fun _ hdf hle => ?_⟩
    -- no CR for the path is left
    have hz : (vm.deleteVolumeInfo none df p).2.crs.countP (·.spec.volumePath = p) = 0 := by
      rw [(hcount hdf).1]; omega
    have hnone : findCR (vm.deleteVolumeInfo none df p).2.crs p = none :=
      List.find?_eq_none.mpr fun x hx => by simpa using List.countP_eq_zero.mp hz x hx
    rw [getVolumeInfo_after_delete, hnone]

/-- Two CRs for one path, both `Delete` and `List` succeeding: the call
returns `nil`, the second CR is still listed, and `GetVolumeInfo` finds it. -/
theorem deleteVolumeInfo_keeps_second_cr :
    let p := "[ds1] kubevols/a.vmdk"
    let vm := (fresh [⟨"uuid-a", ⟨p, "uuid-a", "fcd-a"⟩⟩, ⟨"uuid-b", ⟨p, "uuid-b", "fcd-b"⟩⟩]).deleteVolumeInfo
      none none p
    vm.1 = none ∧ vm.2.crs = [⟨"uuid-b", ⟨p, "uuid-b", "fcd-b"⟩⟩] ∧
      (vm.2.getVolumeInfo none p).1 = .ok ⟨p, "uuid-b", "fcd-b"⟩ := by
  decide

/-! ## §3 The cache and the CRs -/

theorem specOf_volumePath (v : CacheValue) : v.specOf.volumePath = v.volumePath := by
  cases v <;> rfl

/-- Every cached value is the spec of a CR the client lists. -/
def CacheBacked (vm : VolumeMigration) : Prop :=
  ∀ p v, vm.volumePathToVolumeInfo p = some v → ∃ cr ∈ vm.crs, cr.spec = v.specOf

theorem CacheBacked.store {vm : VolumeMigration} (h : vm.CacheBacked) {p : String} {v : CacheValue}
    (hv : ∃ cr ∈ vm.crs, cr.spec = v.specOf) : (vm.store p v).CacheBacked := by
  intro q w hq
  by_cases hqp : q = p
  · subst hqp
    simp only [store_volumePathToVolumeInfo, Function.update_same, Option.some.injEq] at hq
    exact hq ▸ hv
  · simp only [store_volumePathToVolumeInfo, Function.update_noteq hqp] at hq
    exact h q w hq

theorem CacheBacked.loadAll {vm : VolumeMigration} (h : vm.CacheBacked) :
    ∀ os : List CnsvSphereVolumeMigration, (∀ o ∈ os, o ∈ vm.crs) →
      (os.foldl (fun acc o => acc.store o.spec.volumePath (.spec o.spec)) vm).CacheBacked
  | [], _ => h
  | o :: os, hos =>
    CacheBacked.loadAll (h.store (v := .spec o.spec) ⟨o, hos o (List.mem_cons_self _ _), rfl⟩) os
      fun o' ho' => hos o' (List.mem_cons_of_mem _ ho')

/-- **Step lemma**: every cache method keeps `CacheBacked`, given
`CacheKeyed`. The CR `DeleteVolumeInfo` removes has the path it evicts, so it
backs no entry that stays. -/
theorem CacheBacked.call {vm : VolumeMigration} (hk : vm.CacheKeyed) (h : vm.CacheBacked) :
    ∀ c : Call, (vm.call c).CacheBacked
  | .getVolumeInfo p f => by
    show (vm.getVolumeInfo f p).2.CacheBacked
    unfold VolumeMigration.getVolumeInfo
    split
    · exact h
    · split
      · exact h
      · split
        · next o ho => exact h.store ⟨o, List.mem_of_find?_eq_some ho, rfl⟩
        · exact h
  | .saveVolumeInfo cr f => by
    cases f with
    | some e => exact h
    | none =>
      refine CacheBacked.store (fun q v hq => ?_) ⟨cr, List.mem_append_right _ (List.mem_singleton_self _), rfl⟩
      obtain ⟨cr', hcr', hs⟩ := h q v hq
      exact ⟨cr', List.mem_append_left _ hcr', hs⟩
  | .deleteVolumeInfo p f g => by
    cases f with
    | some e => exact h
    | none =>
      show (vm.deleteVolumeInfo none g p).2.CacheBacked
      intro q v hq
      have hqp : q ≠ p := by rintro rfl; simp [deleteVolumeInfo] at hq
      have hq' : vm.volumePathToVolumeInfo q = some v := by
        simpa [deleteVolumeInfo, hqp] using hq
      obtain ⟨cr, hcr, hs⟩ := h q v hq'
      refine ⟨cr, ?_, hs⟩
      simp only [deleteVolumeInfo, evict]
      split
      · next o ho =>
        refine (List.mem_erase_of_ne fun hco => hqp ?_).2 hcr
        rw [← (hk q v hq').1, ← specOf_volumePath, ← hs, hco, findCR_volumePath ho]
      · exact hcr
  | .loadAllVolumeInfo f => by
    cases f with
    | some e => exact h
    | none => exact h.loadAll vm.crs fun _ => id

/-- **Run lemma**: every run of calls keeps `CacheBacked`. -/
theorem CacheBacked.run {vm : VolumeMigration} (hk : vm.CacheKeyed) (h : vm.CacheBacked) :
    ∀ calls : List Call, (vm.run calls).CacheBacked
  | [] => h
  | c :: cs => CacheBacked.run (hk.call c) (h.call hk c) cs

theorem cacheBacked_fresh (crs : List CnsvSphereVolumeMigration) : (fresh crs).CacheBacked :=
  fun _ _ h => by simp [fresh] at h

/-- **The cache holds no spec without its CR.** After any sequence of the
four cache methods from `sync.Map{}`, over any CRs and any client outcomes, a
value cached under a path is the spec of a CR the client lists, and that CR
is for the path. `DeleteVolumeInfo` never leaves an entry backed by the CR it
deleted. -/
theorem cached_spec_has_cr (crs : List CnsvSphereVolumeMigration) (calls : List Call)
    (p : String) (v : CacheValue)
    (h : ((fresh crs).run calls).volumePathToVolumeInfo p = some v) :
    ∃ cr ∈ ((fresh crs).run calls).crs, cr.spec = v.specOf ∧ cr.spec.volumePath = p := by
  obtain ⟨cr, hcr, hs⟩ := (cacheBacked_fresh crs).run (cacheKeyed_fresh crs) calls p v h
  refine ⟨cr, hcr, hs, ?_⟩
  rw [hs, specOf_volumePath]
  exact (((cacheKeyed_fresh crs).run calls) p v h).1

/-- A saved CR, a `DeleteVolumeInfo` whose client `Delete` fails, and a
`LoadAllVolumeInfo`: the cache holds the spec again, and its CR is still
listed. -/
theorem cached_spec_after_failed_delete :
    let cr : CnsvSphereVolumeMigration := ⟨"uuid-1", ⟨"[ds1] kubevols/a.vmdk", "uuid-1", "fcd-1"⟩⟩
    let calls : List Call := [.saveVolumeInfo cr none,
      .deleteVolumeInfo "[ds1] kubevols/a.vmdk" none (some (.client "connection refused")),
      .loadAllVolumeInfo none]
    ((fresh []).run calls).volumePathToVolumeInfo "[ds1] kubevols/a.vmdk" = some (.spec cr.spec) ∧
      ∃ cr' ∈ ((fresh []).run calls).crs, cr'.spec = (CacheValue.spec cr.spec).specOf ∧
        cr'.spec.volumePath = "[ds1] kubevols/a.vmdk" := by
  intro cr calls
  have h : ((fresh []).run calls).volumePathToVolumeInfo "[ds1] kubevols/a.vmdk" =
      some (.spec cr.spec) := by decide
  exact ⟨h, cached_spec_has_cr _ _ _ _ h⟩

end VolumeMigration

end VsphereCsi.Migration
