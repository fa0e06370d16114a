import VsphereCsi.Volume.TaskMap

/-!
VsphereCsi.Volume.TaskMapTheorems — what the mutex buys the registry, over
every interleaving of any number of threads.

  §1 Lock invariant — `LockInv`: the mutex state counts exactly the threads
     inside a write (`writers`) and inside a `Count` (`readers`), never both
     at once, and the map is the replay of the returned writes plus the one
     write whose call is still returning. `lockInv_step` keeps it; every
     reachable state of `TaskMapFixed` has it; `Exclusive` follows.
  §2 Replay — the map after a write log, key by key (`lookup_replay`).
  §3 Count — the value a `Count` returns is the map's length at a state of
     the run between its call and its return (`count_returns_seen_len`).
  §4 The unlocked `Count` — a two-thread schedule reaches a write access and
     a `len` together, in `TaskMapBuggy` and in `panic_demo`'s `TaskMap`.

The single map access is one step of the model. That is sound exactly when
no write access overlaps another access — which is `Exclusive`, the fact §1
proves for the fixed registry and §4 refutes for the other two.
-/

namespace VsphereCsi.Volume

open Relation

/-! ## §1 Lock invariant -/

/-- The lock bookkeeping of `TaskMapFixed`, and the map it protects. -/
structure LockInv (s : Registry) : Prop where
  writers : s.threads.countP Pc.holdsW = if s.shared.mu.writer then 1 else 0
  readers : s.threads.countP Pc.holdsR = s.shared.mu.readers
  noReaderUnderWriter : s.shared.mu.writer = true → s.shared.mu.readers = 0
  replayed : s.shared.m = replay (s.shared.done ++ s.threads.filterMap Pc.pendingWrite)

theorem lockInv_init (n : Nat) : LockInv (Registry.init n) :=
  ⟨by simp [Registry.init, List.countP_replicate, Pc.holdsW],
   by simp [Registry.init, List.countP_replicate, Pc.holdsR],
   by simp [Registry.init],
   by simp [Registry.init, List.filterMap_replicate, Pc.pendingWrite, replay]⟩

@[simp] theorem replay_append_single (ops : List WriteOp) (op : WriteOp) :
    replay (ops ++ [op]) = op.apply (replay ops) := by
  simp [replay, List.foldl_append]

theorem countP_mid (p : Pc → Bool) (pre post : List Pc) (pc : Pc) :
    (pre ++ pc :: post).countP p = (pre ++ post).countP p + if p pc then 1 else 0 := by
  simp only [List.countP_append, List.countP_cons]; omega

theorem filterMap_mid (f : Pc → Option WriteOp) (pre post : List Pc) (pc : Pc) :
    (pre ++ pc :: post).filterMap f = pre.filterMap f ++ (f pc).toList ++ post.filterMap f := by
  cases h : f pc <;> simp [List.filterMap_cons, h]

/-- `LockInv` with the thread at `pc` taken out of the thread list. -/
theorem lockInv_mid {sh : Shared} {pre post : List Pc} {pc : Pc} :
    LockInv ⟨sh, pre ++ pc :: post⟩ ↔
      (pre ++ post).countP Pc.holdsW + (if pc.holdsW then 1 else 0) =
          (if sh.mu.writer then 1 else 0) ∧
        (pre ++ post).countP Pc.holdsR + (if pc.holdsR then 1 else 0) = sh.mu.readers ∧
        (sh.mu.writer = true → sh.mu.readers = 0) ∧
        sh.m = replay (sh.done ++ (pre.filterMap Pc.pendingWrite ++ pc.pendingWrite.toList ++
          post.filterMap Pc.pendingWrite)) := by
  rw [← countP_mid, ← countP_mid, ← filterMap_mid]
  exact ⟨fun ⟨a, b, c, d⟩ => ⟨a, b, c, d⟩, fun ⟨a, b, c, d⟩ => ⟨a, b, c, d⟩⟩

theorem filterMap_pendingWrite_eq_nil {l : List Pc} (h : l.countP Pc.holdsW = 0) :
    l.filterMap Pc.pendingWrite = [] := by
  refine List.filterMap_eq_nil_iff.mpr fun pc hpc => ?_
  have := List.countP_eq_zero.mp h pc hpc
  cases pc <;> simp_all [Pc.holdsW, Pc.pendingWrite]

/-- A thread inside a write holds the writer, alone and with no reader. -/
theorem LockInv.holder {sh : Shared} {pre post : List Pc} {pc : Pc}
    (hi : LockInv ⟨sh, pre ++ pc :: post⟩) (hw : pc.holdsW = true) :
    sh.mu.writer = true ∧ sh.mu.readers = 0 ∧ (pre ++ post).countP Pc.holdsW = 0 ∧
      pre.filterMap Pc.pendingWrite = [] ∧ post.filterMap Pc.pendingWrite = [] := by
  obtain ⟨h1, -, h3, -⟩ := lockInv_mid.mp hi
  cases hwr : sh.mu.writer <;> simp only [hw, hwr, if_true] at h1
  · simp at h1
  · have hz : (pre ++ post).countP Pc.holdsW = 0 := by omega
    rw [List.countP_append] at hz
    exact ⟨rfl, h3 hwr, by simp [List.countP_append, hz],
      filterMap_pendingWrite_eq_nil (by omega), filterMap_pendingWrite_eq_nil (by omega)⟩

/-- **Step lemma**: every step of `TaskMapFixed` keeps `LockInv`. -/
theorem lockInv_step {s s' : Registry} (h : Step taskMapFixed s s') (hi : LockInv s) :
    LockInv s' := by
  cases h with
  | @thread pc pc' sh sh' pre post hl =>
  obtain ⟨h1, h2, h3, h4⟩ := lockInv_mid.mp hi
  refine lockInv_mid.mpr ?_
  cases hl with
  | callWrite op _ => exact ⟨h1, h2, h3, h4⟩
  | callCount _ => exact ⟨h1, h2, h3, h4⟩
  | read _ => exact ⟨h1, h2, h3, h4⟩
  | lock op _ hw hr =>
    simp only [Pc.holdsW, Pc.holdsR, Pc.pendingWrite, hw, hr] at h1 h2 h4 ⊢
    exact ⟨by simpa using h1, h2, fun _ => trivial, h4⟩
  | write op _ =>
    obtain ⟨-, -, -, hpre, hpost⟩ := hi.holder rfl
    simp only [Pc.holdsW, Pc.holdsR, Pc.pendingWrite, hpre, hpost] at h1 h2 h4 ⊢
    exact ⟨h1, h2, h3, by simp [h4]⟩
  | unlock op _ =>
    obtain ⟨-, -, hz, hpre, hpost⟩ := hi.holder rfl
    simp only [Pc.holdsW, Pc.holdsR, Pc.pendingWrite, hpre, hpost] at h2 h4 ⊢
    exact ⟨by simp [hz], h2, by simp, by simp [h4]⟩
  | rlock _ hready =>
    have hw : sh.mu.writer = false := by
      simpa [taskMapFixed, CountLocking.rlockReady] using hready
    simp only [Pc.holdsW, Pc.holdsR, Pc.pendingWrite, taskMapFixed, CountLocking.rlockMu, hw]
      at h1 h2 h4 ⊢
    exact ⟨h1, by simp at h2 ⊢; omega, by simp, h4⟩
  | runlock n _ =>
    simp only [Pc.holdsW, Pc.holdsR, Pc.pendingWrite, taskMapFixed, CountLocking.runlockMu]
      at h1 h2 h4 ⊢
    exact ⟨h1, by simp at h2 ⊢; omega, fun hw => by simp [h3 hw], h4⟩

/-- **Run lemma**: every reachable state of `TaskMapFixed` has `LockInv`. -/
theorem lockInv_reachable {s : Registry} (h : Reachable taskMapFixed s) : LockInv s := by
  obtain ⟨n, hr⟩ := h
  induction hr with
  | refl => exact lockInv_init n
  | tail _ hstep ih => exact lockInv_step hstep ih

theorem Pc.holds_of_isAccess {pc : Pc} (h : pc.isAccess = true) :
    pc.holdsW = true ∨ pc.holdsR = true := by
  cases pc <;> simp_all [Pc.isAccess, Pc.holdsW, Pc.holdsR]

/-- Under `LockInv`, a write access excludes every other access. -/
theorem LockInv.exclusive {s : Registry} (hi : LockInv s) : Exclusive s := by
  intro pre pc post hs hpc q hq
  obtain ⟨sh, threads⟩ := s
  subst hs
  have hw : pc.holdsW = true := by cases pc <;> simp_all [Pc.isWriteAccess, Pc.holdsW]
  obtain ⟨-, hr0, hz, -, -⟩ := hi.holder hw
  have hr := (lockInv_mid.mp hi).2.1
  rw [hr0] at hr
  have hnw := List.countP_eq_zero.mp hz q hq
  have hnr := List.countP_eq_zero.mp (by omega : (pre ++ post).countP Pc.holdsR = 0) q hq
  cases hq' : q.isAccess
  · rfl
  · exact ((Pc.holds_of_isAccess hq').elim hnw hnr).elim

/-! ## §2 Replay -/

theorem lookup_apply (op : WriteOp) (m : GoMap) (k : String) :
    (op.apply m).lookup k = if op.key = k then op.value? else m.lookup k := by
  cases op with
  | upsert k' v =>
    by_cases h : k' = k
    · subst h; simp [WriteOp.apply, WriteOp.key, WriteOp.value?]
    · simp [WriteOp.apply, WriteOp.key, h, AList.lookup_insert_ne (Ne.symm h)]
  | delete k' =>
    by_cases h : k' = k
    · subst h; simp [WriteOp.apply, WriteOp.key, WriteOp.value?]
    · simp [WriteOp.apply, WriteOp.key, h, AList.lookup_erase_ne (Ne.symm h)]

theorem lookup_foldl_apply (k : String) : ∀ (ops : List WriteOp) (m₀ : GoMap),
    (ops.foldl (fun m op => op.apply m) m₀).lookup k =
      ((lastWrite k ops).map WriteOp.value?).getD (m₀.lookup k)
  | [], _ => rfl
  | op :: ops, m₀ => by
    rw [List.foldl_cons, lookup_foldl_apply k ops, lookup_apply, lastWrite]
    cases lastWrite k ops <;> by_cases h : op.key = k <;> simp [h]

theorem lastWrite_key {k : String} : ∀ {ops : List WriteOp} {op : WriteOp},
    lastWrite k ops = some op → op.key = k
  | o :: ops, op, h => by
    cases hl : lastWrite k ops with
    | none => by_cases ho : o.key = k <;> simp_all [lastWrite]
    | some o' =>
      simp only [lastWrite, hl, Option.or, Option.some.injEq] at h
      exact h ▸ lastWrite_key hl

/-- A key is in the replayed map exactly when its last write is an `Upsert`. -/
theorem mem_replay {k : String} {ops : List WriteOp} :
    k ∈ replay ops ↔ ∃ v, lastWrite k ops = some (.upsert k v) := by
  rw [← AList.lookup_isSome, replay, lookup_foldl_apply]
  constructor
  · intro h
    cases hl : lastWrite k ops with
    | none => simp [hl] at h
    | some op =>
      cases op with
      | upsert k' v =>
        have hk : k' = k := lastWrite_key hl
        exact ⟨v, by rw [hk]⟩
      | delete k' => simp [hl, WriteOp.value?] at h
  · rintro ⟨v, hv⟩
    simp [hv, WriteOp.value?]

/-- At a quiescent state the map is the replay of the returned writes. -/
theorem LockInv.quiescent_map {s : Registry} (hi : LockInv s) (hq : Quiescent s) :
    s.shared.m = replay s.shared.done := by
  have hnil : s.threads.filterMap Pc.pendingWrite = [] :=
    List.filterMap_eq_nil_iff.mpr fun pc hpc => by simp [hq pc hpc, Pc.pendingWrite]
  simpa [hnil] using hi.replayed

/-! ## §3 Count -/

theorem getElem?_mid_ne {pre post : List Pc} {a b : Pc} {i : Nat} (h : i ≠ pre.length) :
    (pre ++ a :: post)[i]? = (pre ++ b :: post)[i]? := by
  rcases Nat.lt_or_gt_of_ne h with h | h
  · simp [List.getElem?_append_left h]
  · obtain ⟨k, hk⟩ : ∃ k, i - pre.length = k + 1 := ⟨i - pre.length - 1, by omega⟩
    simp [List.getElem?_append_right h.le, hk]

/-- The value a `Count` returns is `len(t.m)` at a state of the run between
the call and the return. -/
theorem count_returns_seen_len {c : CountLocking} {s s' : Registry}
    (hss : ReflTransGen (Step c) s s') {i n : Nat}
    (hi : s.threads[i]? = some .acquireR) (hr : s'.threads[i]? = some (.releaseR n)) :
    ∃ t, ReflTransGen (Step c) s t ∧ ReflTransGen (Step c) t s' ∧ t.shared.m.len = n := by
  induction hss generalizing n with
  | refl => simp [hi] at hr
  | tail hsu huv ih =>
    obtain ⟨pre, post, hl⟩ := huv
    by_cases hin : i = pre.length
    · subst hin
      simp only [List.getElem?_append_right (Nat.le_refl _), Nat.sub_self,
        List.getElem?_cons_zero, Option.some.injEq] at hr
      subst hr
      cases hl
      exact ⟨_, hsu, ReflTransGen.single (Step.thread pre post (Local.read _)), rfl⟩
    · obtain ⟨t, h1, h2, h3⟩ := ih (by rwa [getElem?_mid_ne hin])
      exact ⟨t, h1, h2.tail (Step.thread pre post hl), h3⟩

/-! ## §4 The unlocked `Count` -/

/-- One thread inside `Upsert`'s write, the other at the bare `len(t.m)`. -/
theorem unlocked_breaks_exclusion : ∃ s, Reachable .unlocked s ∧ ¬ Exclusive s := by
  let op := WriteOp.upsert "task" 0
  refine ⟨⟨⟨⟨true, 0⟩, ∅, []⟩, [.accessW op, .accessR]⟩, ⟨2, ?_⟩, ?_⟩
  · have h1 := Step.thread (c := .unlocked) [] [.idle] (Local.callWrite op ⟨⟨false, 0⟩, ∅, []⟩)
    have h2 := Step.thread (c := .unlocked) [] [.idle] (Local.lock op ⟨⟨false, 0⟩, ∅, []⟩ rfl rfl)
    have h3 := Step.thread (c := .unlocked) [.accessW op] [] (Local.callCount ⟨⟨true, 0⟩, ∅, []⟩)
    have h4 := Step.thread (c := .unlocked) [.accessW op] [] (Local.rlock ⟨⟨true, 0⟩, ∅, []⟩ rfl)
    exact (((ReflTransGen.refl.tail h1).tail h2).tail h3).tail h4
  · intro h
    simpa [Pc.isAccess] using h [] (.accessW op) [.accessR] rfl rfl .accessR (by simp)

/-! ## §5 The registry -/

/-- **The task registry.** In `TaskMapFixed`, over any number of threads and
any interleaving: no write access overlaps another access; at a quiescent
state the map holds exactly the keys whose last returned write was an
`Upsert`; and a `Count` returns the map's length at a state between its call
and its return. The unlocked `Count` of `TaskMapBuggy` and of `panic_demo`'s
`TaskMap` reaches an overlap. -/
theorem taskMap_count_under_rlock :
    (∀ s, Reachable taskMapFixed s → Exclusive s) ∧
    (∀ s, Reachable taskMapFixed s → Quiescent s →
      ∀ k, k ∈ s.shared.m ↔ ∃ v, lastWrite k s.shared.done = some (.upsert k v)) ∧
    (∀ (s s' : Registry) (i n : Nat), ReflTransGen (Step taskMapFixed) s s' → s.threads[i]? = some .acquireR →
      s'.threads[i]? = some (.releaseR n) →
      ∃ t, ReflTransGen (Step taskMapFixed) s t ∧ ReflTransGen (Step taskMapFixed) t s' ∧
        t.shared.m.len = n) ∧
    (∃ s, Reachable taskMapBuggy s ∧ ¬ Exclusive s) ∧
    (∃ s, Reachable taskMapPanicDemo s ∧ ¬ Exclusive s) :=
  ⟨fun _ h => (lockInv_reachable h).exclusive,
   fun _ h hq _ => by rw [(lockInv_reachable h).quiescent_map hq, mem_replay],
   fun _ _ _ _ hss hi hr => count_returns_seen_len hss hi hr,
   unlocked_breaks_exclusion,
   unlocked_breaks_exclusion⟩

end VsphereCsi.Volume
