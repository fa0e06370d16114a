import VsphereCsi.Migration.Bootstrap

/-!
VsphereCsi.Migration.BootstrapTheorems — what the CRD bootstrap of the
migration service does on a server with no CRD named `crdName`. The API
server admits no such CRD: a CRD's name must be its plural and group,
`cnsvspherevolumemigrations.cns.vmware.com` here.

  §1 One call — the poll asks for `crdName`, so after a `Create` that
     succeeded it never sees the new CRD, and the cleanup's `Delete` finds
     nothing to delete. A call returns `nil` only when `Create` reports
     `AlreadyExists`, and it leaves the server as it was plus the CRD it
     created (`createrCnsvSphereVolumeMigrationCRD_nil_iff_already_exists`).
  §2 The loop — it ends only once the CRD exists, and no other CRD has
     changed. On a server without the CRD it takes at least two calls: the
     one that creates the CRD always fails (`createCRDUntilNil_creates_then_retries`).
-/

namespace VsphereCsi.Migration.Bootstrap

/-! ## §1 One call -/

theorem crdName_ne_name : crdName ≠ migrationCRD.name := by decide

/-- With no CRD named `crdName`, every poll fails: its first `Get` reports an
error, and no call at all is a timeout. -/
theorem pollEstablished_ne_none {server : CrdServer} (h : server crdName = false) :
    ∀ polls, pollEstablished server polls ≠ none
  | [] => nofun
  | (fault, conditions) :: _ => by
    cases fault <;> simp [pollEstablished, getCrd, h]

theorem deleteCrd_of_absent {server : CrdServer} {name : String} (h : server name = false)
    (fault : Option String) : (deleteCrd server name fault).2 = server := by
  cases fault <;> simp [deleteCrd, h]

theorem createCrd_of_present {server : CrdServer} {name : String} (h : server name = true) :
    createCrd server name none = (some .alreadyExists, server) := by
  simp [createCrd, h]

theorem createCrd_of_absent {server : CrdServer} {name : String} (h : server name = false) :
    createCrd server name none = (none, Function.update server name true) := by
  simp [createCrd, h]

/-- After a `Create` of the CRD, the poll fails and the cleanup deletes
nothing. -/
theorem createrCRD_of_absent (env : Env) {server : CrdServer} (h : server crdName = false)
    (hc : env.getConfig = none) (hn : env.newForConfig = none) (hf : env.createFault = none)
    (hs : server migrationCRD.name = false) :
    ∃ err, createrCnsvSphereVolumeMigrationCRD env server =
      (some err, Function.update server migrationCRD.name true) := by
  have hu : Function.update server migrationCRD.name true crdName = false := by
    simpa [Function.update_noteq crdName_ne_name] using h
  obtain ⟨err, he⟩ := Option.ne_none_iff_exists'.mp (pollEstablished_ne_none hu env.polls)
  refine ⟨err, ?_⟩
  simp only [createrCnsvSphereVolumeMigrationCRD, hc, hn, hf, createCrd_of_absent hs, he,
    deleteCrd_of_absent hu]

/-- **What one call can do**, on a server with no CRD named `crdName`: fail
before `Create` is reached without a failure of its own, leaving the server;
find the CRD there and return `nil`; or create it and fail. -/
theorem createrCRD_cases (env : Env) {server : CrdServer} (h : server crdName = false) :
    (¬(env.getConfig = none ∧ env.newForConfig = none ∧ env.createFault = none) ∧
        ∃ e, createrCnsvSphereVolumeMigrationCRD env server = (some e, server)) ∨
    (env.getConfig = none ∧ env.newForConfig = none ∧ env.createFault = none ∧
        server migrationCRD.name = true ∧
        createrCnsvSphereVolumeMigrationCRD env server = (none, server)) ∨
    (env.getConfig = none ∧ env.newForConfig = none ∧ env.createFault = none ∧
        server migrationCRD.name = false ∧
        ∃ e, createrCnsvSphereVolumeMigrationCRD env server =
          (some e, Function.update server migrationCRD.name true)) := by
  obtain ⟨gc, nc, cf, polls, df⟩ := env
  rcases gc with _ | m
  · rcases nc with _ | m
    · rcases cf with _ | m
      · cases hs : server migrationCRD.name
        · exact .inr (.inr ⟨rfl, rfl, rfl, rfl, createrCRD_of_absent _ h rfl rfl rfl hs⟩)
        · exact .inr (.inl ⟨rfl, rfl, rfl, rfl,
            by simp [createrCnsvSphereVolumeMigrationCRD, createCrd_of_present hs]⟩)
      · exact .inl ⟨by simp, .api (.other m), by simp [createrCnsvSphereVolumeMigrationCRD, createCrd]⟩
    · exact .inl ⟨by simp, _, rfl⟩
  · exact .inl ⟨by simp, _, rfl⟩

/-- The call returns `nil` exactly when the config and client calls succeed
and `Create` reports `AlreadyExists`. -/
theorem createrCRD_fst_eq_none {env : Env} {server : CrdServer} (h : server crdName = false) :
    (createrCnsvSphereVolumeMigrationCRD env server).1 = none ↔
      env.getConfig = none ∧ env.newForConfig = none ∧ env.createFault = none ∧
        server migrationCRD.name = true := by
  rcases createrCRD_cases env h with ⟨hn, e, he⟩ | ⟨h₁, h₂, h₃, h₄, he⟩ | ⟨-, -, -, h₄, e, he⟩ <;>
    rw [he]
  · exact ⟨nofun, fun ⟨h₁, h₂, h₃, _⟩ => absurd ⟨h₁, h₂, h₃⟩ hn⟩
  · exact ⟨fun _ => ⟨h₁, h₂, h₃, h₄⟩, fun _ => rfl⟩
  · exact ⟨nofun, fun ⟨_, _, _, h'⟩ => absurd h' (by simp [h₄])⟩

/-- The call deletes nothing, and adds the CRD when `Create` is reached
without a failure of its own. -/
theorem createrCRD_snd {env : Env} {server : CrdServer} (h : server crdName = false) :
    (createrCnsvSphereVolumeMigrationCRD env server).2 =
      if env.getConfig = none ∧ env.newForConfig = none ∧ env.createFault = none
      then Function.update server migrationCRD.name true else server := by
  rcases createrCRD_cases env h with ⟨hn, e, he⟩ | ⟨h₁, h₂, h₃, h₄, he⟩ | ⟨h₁, h₂, h₃, -, e, he⟩ <;>
    rw [he]
  · exact (if_neg hn).symm
  · rw [if_pos ⟨h₁, h₂, h₃⟩]
    exact (Function.update_eq_self_iff.2 h₄.symm).symm
  · exact (if_pos ⟨h₁, h₂, h₃⟩).symm

/-- **A call returns `nil` only when the CRD was already there, and deletes
nothing.** On a server with no CRD named `crdName`, a call of
`createrCnsvSphereVolumeMigrationCRD` returns `nil` exactly when its config
and client calls succeed and `Create` reports `AlreadyExists`. A call whose
`Create` succeeds always returns an error: the poll's `Get` of `crdName`
fails, or the poll times out. The cleanup's `Delete` of `crdName` finds
nothing, so the server keeps every CRD it had, and the one the call
created. -/
theorem createrCnsvSphereVolumeMigrationCRD_nil_iff_already_exists {env : Env}
    {server : CrdServer} (h : server crdName = false) :
    ((createrCnsvSphereVolumeMigrationCRD env server).1 = none ↔
      env.getConfig = none ∧ env.newForConfig = none ∧ env.createFault = none ∧
        server migrationCRD.name = true) ∧
    (createrCnsvSphereVolumeMigrationCRD env server).2 =
      if env.getConfig = none ∧ env.newForConfig = none ∧ env.createFault = none
      then Function.update server migrationCRD.name true else server :=
  ⟨createrCRD_fst_eq_none h, createrCRD_snd h⟩

/-- A fresh server, on which the CRD is established as soon as it is made. -/
theorem createrCRD_on_fresh_server :
    let env : Env := ⟨none, none, none, [(none, [⟨.established, .conditionTrue⟩])], none⟩
    let server : CrdServer := fun _ => false
    server crdName = false ∧
      ((createrCnsvSphereVolumeMigrationCRD env server).1 = none ↔
        env.getConfig = none ∧ env.newForConfig = none ∧ env.createFault = none ∧
          server migrationCRD.name = true) ∧
      (createrCnsvSphereVolumeMigrationCRD env server).2 =
        if env.getConfig = none ∧ env.newForConfig = none ∧ env.createFault = none
        then Function.update server migrationCRD.name true else server := by
  intro env server
  exact ⟨rfl, createrCnsvSphereVolumeMigrationCRD_nil_iff_already_exists rfl⟩

/-! ## §2 The loop -/

theorem createCRDUntilNil_pos : ∀ {envs : List Env} {server server' : CrdServer} {k : Nat},
    createCRDUntilNil envs server = some (k, server') → 1 ≤ k
  | [], _, _, _, h => by simp [createCRDUntilNil] at h
  | env :: envs, server, server', k, h => by
    simp only [createCRDUntilNil] at h
    split at h
    · simp only [Option.some.injEq, Prod.mk.injEq] at h
      omega
    · obtain ⟨r, -, hr⟩ := Option.map_eq_some'.mp h
      cases hr; omega

/-- **The loop ends only once the CRD exists, and never on the call that
creates it.** On a server with no CRD named `crdName`, when the loop of
`GetVolumeMigrationService` ends after `k` calls, the migration CRD exists,
every other CRD is as it was, and if the CRD did not exist before, `k` is at
least two. -/
theorem createCRDUntilNil_creates_then_retries :
    ∀ {envs : List Env} {server server' : CrdServer} {k : Nat}, server crdName = false →
      createCRDUntilNil envs server = some (k, server') →
      server' migrationCRD.name = true ∧ (∀ n, n ≠ migrationCRD.name → server' n = server n) ∧
        (server migrationCRD.name = false → 2 ≤ k)
  | [], _, _, _, _, hl => by simp [createCRDUntilNil] at hl
  | env :: envs, server, server', k, h, hl => by
    simp only [createCRDUntilNil] at hl
    rcases createrCRD_cases env h with ⟨-, e, he⟩ | ⟨-, -, -, hex, he⟩ | ⟨-, -, -, -, e, he⟩ <;>
      simp only [he, Option.map_eq_some', Prod.exists, Option.some.injEq, Prod.mk.injEq] at hl
    · -- a failure before `Create`: the next call sees the same server
      obtain ⟨k', s₂, hk, rfl, rfl⟩ := hl
      obtain ⟨h₁, h₂, h₃⟩ := createCRDUntilNil_creates_then_retries h hk
      exact ⟨h₁, h₂, fun hf => by have := h₃ hf; omega⟩
    · -- the CRD was there: one call
      obtain ⟨rfl, rfl⟩ := hl
      exact ⟨hex, fun _ _ => rfl, fun hf => absurd hex (by simp [hf])⟩
    · -- `Create` made the CRD and the call failed: the next call sees it
      obtain ⟨k', s₂, hk, rfl, rfl⟩ := hl
      obtain ⟨h₁, h₂, -⟩ := createCRDUntilNil_creates_then_retries
        (by rwa [Function.update_noteq crdName_ne_name]) hk
      exact ⟨h₁, fun n hn => (h₂ n hn).trans (Function.update_noteq hn _ _),
        fun _ => by have := createCRDUntilNil_pos hk; omega⟩

/-- On a fresh server, two calls: the first creates the CRD and fails, the
second finds it. -/
theorem createCRDUntilNil_fresh_server :
    let env : Env := ⟨none, none, none, [(none, [⟨.established, .conditionTrue⟩])], none⟩
    let server : CrdServer := fun _ => false
    server crdName = false ∧
      createCRDUntilNil [env, env] server = some (2, Function.update server migrationCRD.name true) ∧
      Function.update server migrationCRD.name true migrationCRD.name = true ∧
      (∀ n, n ≠ migrationCRD.name → Function.update server migrationCRD.name true n = server n) ∧
      (server migrationCRD.name = false → 2 ≤ 2) := by
  intro env server
  have hl : createCRDUntilNil [env, env] server =
      some (2, Function.update server migrationCRD.name true) := rfl
  exact ⟨rfl, hl, createCRDUntilNil_creates_then_retries rfl hl⟩

end VsphereCsi.Migration.Bootstrap
