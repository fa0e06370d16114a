import VsphereCsi.FeatureStates.Replication

/-!
VsphereCsi.FeatureStates.ReplicationTheorems — what the pass does to the
pending map and the CRs, alone and among the enqueue threads.

  §1 The pending map — after any run of events, the entry at a namespace is
     the list of the most recent enqueue for it (`lookup_replayEvents`).
  §2 One iteration — the reset is reached only after `NotFound`, or after a
     successful write of the list read (`syncNamespace_some`). An iteration
     touches only its own namespace.
  §3 One pass — when every call succeeds, a non-empty entry is written to its
     CR and cleared (`processPendingCRUpdates_syncs`). An empty entry is never
     written, whatever the replies (`processPendingCRUpdates_skips_empty`).
     The pass of §3 is a run of the pass thread of the interleaving system
     (`passNext_runs`).
  §4 Lock invariant — `PassInv`: the lock flag counts the threads inside a
     critical section, and a pass thread's entry still holds the list it read.
     `passInv_step` keeps it, so every reachable state has it.
-/

namespace VsphereCsi.FeatureStates

open Relation

/-! ## §1 The pending map -/

/-- The spec of the pending map: the list the most recent enqueue for `ns`
in `events` carried, or `acc` if none of them enqueued for `ns`. -/
def lastEnqueued (cfg : ServiceConfig) (ns : String) (acc : Option (List FeatureState)) :
    List Event → Option (List FeatureState)
  | [] => acc
  | e :: events =>
    lastEnqueued cfg ns
      (match e.enqueued cfg with
       | some c => if ns ∈ c.namespaces then some c.featurestates else acc
       | none => acc) events

theorem lookup_enqueueAll (ns : String) (featurestates : List FeatureState) :
    ∀ (namespaces : List String) (p : PendingMap),
      (enqueueCRUpdatesForAllWorkloadNamespaces p featurestates namespaces).lookup ns =
        if ns ∈ namespaces then some featurestates else p.lookup ns
  | [], _ => by simp [enqueueCRUpdatesForAllWorkloadNamespaces]
  | n :: namespaces, p => by
    have ih := lookup_enqueueAll ns featurestates namespaces (p.insert n featurestates)
    simp only [enqueueCRUpdatesForAllWorkloadNamespaces, List.foldl_cons] at ih ⊢
    rw [ih]
    by_cases h : ns = n
    · subst h; simp
    · simp [h, AList.lookup_insert_ne h]

theorem EnqueueCall.lookup_apply (c : EnqueueCall) (p : PendingMap) (ns : String) :
    (c.apply p).lookup ns = if ns ∈ c.namespaces then some c.featurestates else p.lookup ns := by
  cases c with
  | allWorkloadNamespaces featurestates namespaces => exact lookup_enqueueAll _ _ _ _
  | newWorkloadNamespace n featurestates =>
    by_cases h : ns = n
    · subst h
      simp [EnqueueCall.apply, enqueueCRUpdatesForNewWorkloadNamespace,
        EnqueueCall.namespaces, EnqueueCall.featurestates]
    · simp [h, EnqueueCall.apply, enqueueCRUpdatesForNewWorkloadNamespace,
        EnqueueCall.namespaces, AList.lookup_insert_ne h]

/-- **The pending map holds the latest enqueue**: after any events, the
entry at `ns` is the list of the most recent enqueue for `ns`, or what it was
before if none enqueued for it. -/
theorem lookup_replayEvents (cfg : ServiceConfig) (ns : String) :
    ∀ (events : List Event) (p : PendingMap),
      (replayEvents cfg events p).lookup ns = lastEnqueued cfg ns (p.lookup ns) events
  | [], _ => rfl
  | e :: events, p => by
    have ih := lookup_replayEvents cfg ns events (e.apply cfg p)
    simp only [replayEvents, List.foldl_cons] at ih ⊢
    rw [ih, lastEnqueued]
    congr 1
    unfold Event.apply
    cases e.enqueued cfg with
    | none => rfl
    | some c => exact c.lookup_apply p ns

/-! ## §2 One iteration -/

@[simp] theorem writeCR_apply (crs : CrStore) (ns n : String) (featurestates : List FeatureState) :
    writeCR crs ns featurestates n = if n = ns then some featurestates else crs n :=
  Function.update_apply _ _ _ _

theorem lookup_eq_read {p : PendingMap} {ns : String} (h : p.read ns ≠ []) :
    p.lookup ns = some (p.read ns) := by
  unfold PendingMap.read at h ⊢
  revert h
  cases p.lookup ns <;> simp

@[simp] theorem read_insert (p : PendingMap) (ns n : String) (featurestates : List FeatureState) :
    PendingMap.read (p.insert ns featurestates) n =
      if n = ns then featurestates else p.read n := by
  by_cases h : n = ns
  · subst h; simp [PendingMap.read]
  · simp [h, PendingMap.read, AList.lookup_insert_ne h]

/-- **The reset is reached only after a write or a `NotFound`**: either the
namespace `Get` reported `NotFound` and no CR changed, or the namespace
exists and the `Create` or `Update` of exactly `featurestates` succeeded. -/
theorem syncNamespace_some {crs crs' : CrStore} {ns : String} {featurestates : List FeatureState}
    {r : ApiReplies} {how : Synced} (h : syncNamespace crs ns featurestates r = some (crs', how)) :
    (r.namespaceGet = some .notFound ∧ how = .namespaceGone ∧ crs' = crs) ∨
      (r.namespaceGet = none ∧ r.crWrite = none ∧ how ≠ .namespaceGone ∧
        crs' = writeCR crs ns featurestates) := by
  obtain ⟨g, c, w⟩ := r
  rcases g with _ | _ | _ <;> rcases c with _ | _ | _ <;> rcases w with _ | _ <;>
    simp only [syncNamespace, isNamespacePresent, Option.some.injEq, Prod.mk.injEq,
      reduceCtorEq] at h <;>
    obtain ⟨rfl, rfl⟩ := h <;> simp

theorem syncNamespace_of_allSucceed {r : ApiReplies} (hr : r.AllSucceed) (crs : CrStore)
    (ns : String) (featurestates : List FeatureState) :
    ∃ how, syncNamespace crs ns featurestates r = some (writeCR crs ns featurestates, how) := by
  obtain ⟨g, c, w⟩ := r
  obtain ⟨rfl, hc, rfl⟩ := hr
  rcases c with _ | _ | _
  · exact ⟨.updated, rfl⟩
  · exact ⟨.created, rfl⟩
  · exact absurd rfl hc

theorem processNamespace_of_read_nil (replies : String → ApiReplies) {st : PendingMap × CrStore}
    {ns : String} (h : st.1.read ns = []) : processNamespace replies st ns = st := by
  simp [processNamespace, h]

/-- An iteration at `ns` leaves every other namespace's entry and CR as they were. -/
theorem processNamespace_of_ne (replies : String → ApiReplies) (st : PendingMap × CrStore)
    {ns n : String} (hn : n ≠ ns) :
    (processNamespace replies st ns).1.lookup n = st.1.lookup n ∧
      (processNamespace replies st ns).2 n = st.2 n := by
  dsimp only [processNamespace]
  split
  · split
    · exact ⟨rfl, rfl⟩
    · next crs how h =>
      refine ⟨AList.lookup_insert_ne hn, ?_⟩
      rcases syncNamespace_some h with ⟨-, -, rfl⟩ | ⟨-, -, -, rfl⟩
      · rfl
      · simp [hn]
  · exact ⟨rfl, rfl⟩

theorem processNamespace_of_allSucceed {replies : String → ApiReplies} {ns : String}
    (hr : (replies ns).AllSucceed) {st : PendingMap × CrStore} (h : st.1.read ns ≠ []) :
    processNamespace replies st ns = (st.1.insert ns [], writeCR st.2 ns (st.1.read ns)) := by
  obtain ⟨how, hs⟩ := syncNamespace_of_allSucceed hr st.2 ns (st.1.read ns)
  simp [processNamespace, h, hs]

/-! ## §3 One pass -/

theorem processPendingCRUpdates_cons (replies : String → ApiReplies) (ns : String)
    (order : List String) (st : PendingMap × CrStore) :
    processPendingCRUpdates replies (ns :: order) st =
      processPendingCRUpdates replies order (processNamespace replies st ns) := rfl

theorem processPendingCRUpdates_append (replies : String → ApiReplies) (l₁ l₂ : List String)
    (st : PendingMap × CrStore) :
    processPendingCRUpdates replies (l₁ ++ l₂) st =
      processPendingCRUpdates replies l₂ (processPendingCRUpdates replies l₁ st) :=
  List.foldl_append _ _ _ _

/-- A namespace the range does not visit keeps its entry and its CR. -/
theorem processPendingCRUpdates_of_not_mem (replies : String → ApiReplies) {ns : String} :
    ∀ {order : List String} (st : PendingMap × CrStore), ns ∉ order →
      (processPendingCRUpdates replies order st).1.lookup ns = st.1.lookup ns ∧
        (processPendingCRUpdates replies order st).2 ns = st.2 ns
  | [], _, _ => ⟨rfl, rfl⟩
  | n :: order, st, h => by
    rw [List.mem_cons, not_or] at h
    obtain ⟨h₁, h₂⟩ := processNamespace_of_ne replies st h.1
    rw [processPendingCRUpdates_cons, ← h₁, ← h₂]
    exact processPendingCRUpdates_of_not_mem replies _ h.2

/-- **A pass in which every call succeeds replicates every non-empty entry**:
its CR then holds exactly the entry, and the entry is cleared. -/
theorem processPendingCRUpdates_syncs {replies : String → ApiReplies}
    (hr : ∀ n, (replies n).AllSucceed) {order : List String} (st : PendingMap × CrStore)
    (hperm : order.Perm st.1.keys) {ns : String} (h : st.1.read ns ≠ []) :
    (processPendingCRUpdates replies order st).1.lookup ns = some [] ∧
      (processPendingCRUpdates replies order st).2 ns = some (st.1.read ns) := by
  have hmem : ns ∈ order :=
    hperm.mem_iff.2 (AList.mem_keys.1 (AList.lookup_isSome.1 (by simp [lookup_eq_read h])))
  obtain ⟨l₁, l₂, rfl⟩ := List.append_of_mem hmem
  have hnd : ns ∉ l₁ ++ l₂ :=
    (List.nodup_cons.1 (List.nodup_middle.1 (hperm.nodup_iff.2 st.1.keys_nodup))).1
  rw [List.mem_append, not_or] at hnd
  obtain ⟨h₁, h₂⟩ := processPendingCRUpdates_of_not_mem replies st hnd.1
  have hread : (processPendingCRUpdates replies l₁ st).1.read ns = st.1.read ns := by
    rw [PendingMap.read, h₁]; rfl
  rw [processPendingCRUpdates_append, processPendingCRUpdates_cons,
    processNamespace_of_allSucceed (hr ns) (hread ▸ h)]
  obtain ⟨h₃, h₄⟩ := processPendingCRUpdates_of_not_mem replies _ hnd.2
  rw [h₃, h₄]
  simp [hread]

/-- **Every non-empty latest enqueue is replicated**: after any events from
the empty map of the service's start, a pass in which every call succeeds
leaves, in each namespace whose most recent enqueue carried a non-empty `X`,
the CR holding `X` and nothing pending. -/
theorem processPendingCRUpdates_replicates_last_enqueue (cfg : ServiceConfig)
    (events : List Event) (crs : CrStore) {replies : String → ApiReplies}
    (hr : ∀ n, (replies n).AllSucceed) {order : List String}
    (hperm : order.Perm (replayEvents cfg events ∅).keys) {ns : String} {X : List FeatureState}
    (hX : lastEnqueued cfg ns none events = some X) (hne : X ≠ []) :
    (processPendingCRUpdates replies order (replayEvents cfg events ∅, crs)).2 ns = some X ∧
      (processPendingCRUpdates replies order (replayEvents cfg events ∅, crs)).1.read ns = [] := by
  have hread : (replayEvents cfg events ∅).read ns = X := by
    rw [PendingMap.read, lookup_replayEvents, AList.lookup_empty, hX]; rfl
  obtain ⟨h₁, h₂⟩ :=
    processPendingCRUpdates_syncs hr (replayEvents cfg events ∅, crs) hperm (hread ▸ hne)
  exact ⟨h₂.trans (congrArg some hread), by rw [PendingMap.read, h₁]; rfl⟩

theorem start_then_pass_replicates :
    let st := processPendingCRUpdates (fun _ => ⟨none, some .notFound, none⟩) ["ns-2", "ns-1"]
      (replayEvents ⟨"csi-feature-states", "vmware-system-csi"⟩
        [.start [⟨"volume-extend", true⟩] ["ns-1", "ns-2"]] ∅, fun _ => none)
    st.2 "ns-1" = some [⟨"volume-extend", true⟩] ∧ st.1.read "ns-1" = [] :=
  processPendingCRUpdates_replicates_last_enqueue _ _ _ (fun _ => ⟨rfl, by decide, rfl⟩)
    (by decide) (by decide) (by decide)

/-- Emptying the supervisor ConfigMap's `Data` leaves the CRs with the feature
states of before. The latest enqueue for `ns-1` carries `[]`, every call of
both passes succeeds, and yet the CR in `ns-1` still holds `volume-extend`. -/
theorem configMapUpdated_empty_data_keeps_stale_cr :
    let cfg : ServiceConfig := ⟨"csi-feature-states", "vmware-system-csi"⟩
    let cm : ConfigMap := ⟨"csi-feature-states", "vmware-system-csi", [("volume-extend", "true")]⟩
    let added := Event.addConfigMap (some cm) ["ns-1"]
    let emptied := Event.updateConfigMap (some cm) (some { cm with data := [] }) ["ns-1"]
    -- the first pass finds no CR in `ns-1` and creates it
    let st₁ := processPendingCRUpdates (fun _ => ⟨none, some .notFound, none⟩) ["ns-1"]
      (replayEvents cfg [added] ∅, fun _ => none)
    -- the second pass would find the CR and update it
    let st₂ := processPendingCRUpdates (fun _ => ⟨none, none, none⟩) ["ns-1"]
      (emptied.apply cfg st₁.1, st₁.2)
    lastEnqueued cfg "ns-1" none [added, emptied] = some [] ∧
      st₂.2 "ns-1" = some [⟨"volume-extend", true⟩] := by
  decide

/-! ## §4 Lock invariant -/

/-- What a thread inside the pass knows about the entry it works on: the
entry still holds the non-empty list it read, and after the API calls the CR
holds that list unless the namespace `Get` reported `NotFound`. -/
def Pc.Fresh (p : PendingMap) (crs : CrStore) : Pc → Prop
  | .passSync ns featurestates _ => p.lookup ns = some featurestates ∧ featurestates ≠ []
  | .passReset ns featurestates _ namespaceGet =>
    p.lookup ns = some featurestates ∧ featurestates ≠ [] ∧
      (namespaceGet = some .notFound ∨ crs ns = some featurestates)
  | _ => True

/-- The lock bookkeeping of the service, and what the lock protects. -/
structure PassInv (s : Service) : Prop where
  holders : s.threads.countP Pc.holdsLock = if s.shared.locked then 1 else 0
  fresh : ∀ pc ∈ s.threads, pc.Fresh s.shared.pending s.shared.crs

theorem Pc.fresh_of_not_holdsLock {pc : Pc} (h : pc.holdsLock = false) (p : PendingMap)
    (crs : CrStore) : pc.Fresh p crs := by
  cases pc <;> simp_all [Pc.holdsLock, Pc.Fresh]

theorem fresh_of_countP_eq_zero {l : List Pc} (h : l.countP Pc.holdsLock = 0) (p : PendingMap)
    (crs : CrStore) : ∀ q ∈ l, q.Fresh p crs :=
  fun q hq => Pc.fresh_of_not_holdsLock (by simpa using List.countP_eq_zero.1 h q hq) p crs

theorem passInv_init (crs : CrStore) (n : Nat) : PassInv (Service.init crs n) :=
  ⟨by simp [Service.init, List.countP_replicate, Pc.holdsLock],
   fun pc hpc => by
    simp only [Service.init, List.mem_cons, List.mem_replicate] at hpc
    rcases hpc with rfl | ⟨-, rfl⟩ <;> trivial⟩

theorem countP_holdsLock_mid (pre post : List Pc) (pc : Pc) :
    (pre ++ pc :: post).countP Pc.holdsLock =
      (pre ++ post).countP Pc.holdsLock + if pc.holdsLock then 1 else 0 := by
  simp only [List.countP_append, List.countP_cons]; omega

/-- `PassInv` with the thread at `pc` taken out of the thread list. -/
theorem passInv_mid {sh : Shared} {pre post : List Pc} {pc : Pc} :
    PassInv ⟨sh, pre ++ pc :: post⟩ ↔
      (pre ++ post).countP Pc.holdsLock + (if pc.holdsLock then 1 else 0) =
          (if sh.locked then 1 else 0) ∧
        (∀ q ∈ pre ++ post, q.Fresh sh.pending sh.crs) ∧ pc.Fresh sh.pending sh.crs := by
  constructor
  · rintro ⟨hc, hf⟩
    refine ⟨(countP_holdsLock_mid pre post pc).symm.trans hc, fun q hq => hf q ?_, hf pc (by simp)⟩
    exact List.mem_append.2 ((List.mem_append.1 hq).imp id (List.mem_cons_of_mem _))
  · rintro ⟨hc, hq, hp⟩
    refine ⟨(countP_holdsLock_mid pre post pc).trans hc, fun q hmem => ?_⟩
    rcases List.mem_append.1 hmem with h | h
    · exact hq q (List.mem_append_left _ h)
    · rcases List.mem_cons.1 h with rfl | h
      · exact hp
      · exact hq q (List.mem_append_right _ h)

/-- A thread inside a critical section is the only one: the lock is held. -/
theorem countP_others_eq_zero {pre post : List Pc} {pc : Pc} {b : Bool}
    (hc : (pre ++ post).countP Pc.holdsLock + (if pc.holdsLock then 1 else 0) = if b then 1 else 0)
    (hpc : pc.holdsLock = true) :
    (pre ++ post).countP Pc.holdsLock = 0 ∧ b = true := by
  rw [hpc] at hc
  cases b <;> simp_all

/-- **Step lemma**: every step of the service keeps `PassInv`. -/
theorem passInv_step {s s' : Service} (h : Step s s') (hi : PassInv s) : PassInv s' := by
  obtain ⟨pre, post, hl⟩ := h
  rw [passInv_mid] at hi ⊢
  obtain ⟨hc, hq, hp⟩ := hi
  cases hl with
  | call => exact ⟨hc, hq, trivial⟩
  | lockEnqueue _ _ h => exact ⟨by simpa [h, Pc.holdsLock] using hc, hq, trivial⟩
  | write =>
    exact ⟨hc, fresh_of_countP_eq_zero (countP_others_eq_zero hc rfl).1 _ _, trivial⟩
  | unlockEnqueue =>
    exact ⟨by simpa [Pc.holdsLock] using (countP_others_eq_zero hc rfl).1, hq, trivial⟩
  | lockPass _ _ h => exact ⟨by simpa [h, Pc.holdsLock] using hc, hq, trivial⟩
  | visit _ _ _ h =>
    have hne := fun h' => h (List.length_eq_zero.2 h')
    exact ⟨hc, hq, lookup_eq_read hne, hne⟩
  | skip => exact ⟨hc, hq, trivial⟩
  | syncFail => exact ⟨hc, hq, trivial⟩
  | syncOk ns featurestates _ sh _ crs how h =>
    refine ⟨hc, fresh_of_countP_eq_zero (countP_others_eq_zero hc rfl).1 _ _, hp.1, hp.2, ?_⟩
    rcases syncNamespace_some h with ⟨hg, -, -⟩ | ⟨-, -, -, rfl⟩
    · exact .inl hg
    · exact .inr (by simp)
  | reset =>
    exact ⟨hc, fresh_of_countP_eq_zero (countP_others_eq_zero hc rfl).1 _ _, trivial⟩
  | unlockPass =>
    exact ⟨by simpa [Pc.holdsLock] using (countP_others_eq_zero hc rfl).1, hq, trivial⟩

/-- **Run lemma**: every reachable state of the service has `PassInv`. -/
theorem passInv_reachable {s : Service} (h : Reachable s) : PassInv s := by
  obtain ⟨crs, n, hr⟩ := h
  induction hr with
  | refl => exact passInv_init crs n
  | tail _ hs ih => exact passInv_step hs ih

theorem two_le_countP {α : Type} (p : α → Bool) {l : List α} {a b : α} (ha : a ∈ l) (hb : b ∈ l)
    (hab : a ≠ b) (hpa : p a = true) (hpb : p b = true) : 2 ≤ l.countP p := by
  obtain ⟨l₁, l₂, rfl⟩ := List.append_of_mem ha
  have hb' : b ∈ l₁ ++ l₂ := by
    rcases List.mem_append.1 hb with h | h
    · exact List.mem_append_left _ h
    · exact List.mem_append_right _ ((List.mem_cons.1 h).resolve_left (Ne.symm hab))
  have hpos := List.countP_pos_iff.2 ⟨b, hb', hpb⟩
  simp only [List.countP_append, List.countP_cons, hpa, if_true] at hpos ⊢
  omega

/-- While a pass is inside its lock, no enqueue method is inside its own. -/
theorem PassInv.exclusive {s : Service} (hi : PassInv s) {a b : Pc} (ha : a ∈ s.threads)
    (hb : b ∈ s.threads) (hpa : a.inPass = true) (hpb : b.inEnqueue = true) : False := by
  have hab : a ≠ b := by rintro rfl; cases a <;> simp_all [Pc.inPass, Pc.inEnqueue]
  have h2 := two_le_countP Pc.holdsLock ha hb hab (by cases a <;> simp_all [Pc.inPass, Pc.holdsLock])
    (by cases b <;> simp_all [Pc.inEnqueue, Pc.holdsLock])
  have h1 := hi.holders
  split at h1 <;> omega

/-- **A pass clears only what it has replicated, and never overlaps an
enqueue.** In every reachable state, no enqueue method is inside its lock
while a pass is inside its own. A step that changes `pendingCRUpdate[ns]` is
one of two things. It is an enqueue writing its list there. Or it is a pass
resetting an entry that still holds the exact non-empty list the pass read;
the CR in `ns` then holds that list, unless the namespace was reported
`NotFound`. -/
theorem processPendingCRUpdates_clears_only_replicated :
    (∀ s : Service, Reachable s →
        ¬ ((∃ a ∈ s.threads, a.inPass = true) ∧ (∃ b ∈ s.threads, b.inEnqueue = true))) ∧
    (∀ s s' : Service, Reachable s → Step s s' → ∀ ns : String,
        s'.shared.pending.lookup ns ≠ s.shared.pending.lookup ns →
        (∃ rest featurestates, Pc.enqueueing (ns :: rest) featurestates ∈ s.threads ∧
            s'.shared.pending.lookup ns = some featurestates) ∨
        (∃ featurestates todo namespaceGet,
            Pc.passReset ns featurestates todo namespaceGet ∈ s.threads ∧
            s.shared.pending.lookup ns = some featurestates ∧ featurestates ≠ [] ∧
            s'.shared.pending.lookup ns = some [] ∧
            (namespaceGet = some .notFound ∨ s'.shared.crs ns = some featurestates))) := by
  refine ⟨fun s hs ⟨⟨a, ha, hpa⟩, ⟨b, hb, hpb⟩⟩ => (passInv_reachable hs).exclusive ha hb hpa hpb, ?_⟩
  intro s s' hs h ns hne
  have hi := passInv_reachable hs
  obtain ⟨pre, post, hl⟩ := h
  cases hl with
  | write n rest featurestates sh =>
    by_cases hn : ns = n
    · subst hn; exact .inl ⟨rest, featurestates, by simp, AList.lookup_insert _⟩
    · exact (hne (AList.lookup_insert_ne hn)).elim
  | reset n featurestates todo namespaceGet sh =>
    by_cases hn : ns = n
    · subst hn
      obtain ⟨h₁, h₂, h₃⟩ := hi.fresh (.passReset ns featurestates todo namespaceGet) (by simp)
      exact .inr ⟨featurestates, todo, namespaceGet, by simp, h₁, h₂, AList.lookup_insert _, h₃⟩
    · exact (hne (AList.lookup_insert_ne hn)).elim
  | _ => exact (hne rfl).elim

theorem pass_clears_entry_it_created :
    ∃ s s' : Service, Reachable s ∧ Step s s' ∧
      s'.shared.pending.lookup "ns-1" ≠ s.shared.pending.lookup "ns-1" ∧
      ¬ ((∃ a ∈ s.threads, a.inPass = true) ∧ (∃ b ∈ s.threads, b.inEnqueue = true)) ∧
      ((∃ rest featurestates, Pc.enqueueing ("ns-1" :: rest) featurestates ∈ s.threads ∧
          s'.shared.pending.lookup "ns-1" = some featurestates) ∨
        (∃ featurestates todo namespaceGet,
          Pc.passReset "ns-1" featurestates todo namespaceGet ∈ s.threads ∧
          s.shared.pending.lookup "ns-1" = some featurestates ∧ featurestates ≠ [] ∧
          s'.shared.pending.lookup "ns-1" = some [] ∧
          (namespaceGet = some .notFound ∨ s'.shared.crs "ns-1" = some featurestates))) := by
  let fs : List FeatureState := [⟨"volume-extend", true⟩]
  let p : PendingMap := (∅ : PendingMap).insert "ns-1" fs
  let crs : CrStore := writeCR (fun _ => none) "ns-1" fs
  let s : Service := ⟨⟨true, p, crs⟩, [.passReset "ns-1" fs [] none, .idle]⟩
  -- an enqueue for `ns-1`, then a pass that creates its CR, up to the reset
  have hr : Reachable s := ⟨fun _ => none, 1,
    .tail (.tail (.tail (.tail (.tail (.tail (.single
      (.thread [.passWait] [] (.call (.newWorkloadNamespace "ns-1" fs) ⟨false, ∅, fun _ => none⟩)))
      (.thread [.passWait] [] (.lockEnqueue _ _ rfl)))
      (.thread [.passWait] [] (.write "ns-1" [] fs _)))
      (.thread [.passWait] [] (.unlockEnqueue fs _)))
      (.thread [] [.idle] (.lockPass ["ns-1"] _ rfl (by decide))))
      (.thread [] [.idle] (.visit "ns-1" [] _ (by decide))))
      (.thread [] [.idle] (.syncOk "ns-1" fs [] _ ⟨none, some .notFound, none⟩ crs .created rfl))⟩
  have hs : Step s ⟨⟨true, p.insert "ns-1" [], crs⟩, [.passNext [], .idle]⟩ :=
    .thread [] [.idle] (.reset "ns-1" fs [] none _)
  have hne : AList.lookup "ns-1" (p.insert "ns-1" []) ≠ p.lookup "ns-1" := by decide
  exact ⟨s, _, hr, hs, hne, processPendingCRUpdates_clears_only_replicated.1 s hr,
    processPendingCRUpdates_clears_only_replicated.2 s _ hr hs "ns-1" hne⟩

/-- **The pass of §3 is a run of the service**: a pass thread inside its lock
can run the rest of its range to `passNext []` while every other thread stands
still, and it reaches the map and the CRs that `processPendingCRUpdates`
computes. -/
theorem passNext_runs (replies : String → ApiReplies) (pre post : List Pc) :
    ∀ (todo : List String) (sh : Shared),
      ReflTransGen Step ⟨sh, pre ++ .passNext todo :: post⟩
        ⟨⟨sh.locked, (processPendingCRUpdates replies todo (sh.pending, sh.crs)).1,
          (processPendingCRUpdates replies todo (sh.pending, sh.crs)).2⟩,
          pre ++ .passNext [] :: post⟩
  | [], _ => .refl
  | ns :: todo, sh => by
    rw [processPendingCRUpdates_cons]
    by_cases h : (sh.pending.read ns).length = 0
    · rw [processNamespace_of_read_nil replies (List.length_eq_zero.1 h)]
      exact .head (.thread pre post (.skip ns todo sh h)) (passNext_runs replies pre post todo sh)
    · have visit := Step.thread pre post (Local.visit ns todo sh h)
      cases hs : syncNamespace sh.crs ns (sh.pending.read ns) (replies ns) with
      | none =>
        have hp : processNamespace replies (sh.pending, sh.crs) ns = (sh.pending, sh.crs) := by
          simp [processNamespace, h, hs]
        rw [hp]
        exact .head visit (.head (.thread pre post (.syncFail ns _ todo sh _ hs))
          (passNext_runs replies pre post todo sh))
      | some r =>
        obtain ⟨crs, how⟩ := r
        have hp : processNamespace replies (sh.pending, sh.crs) ns =
            (sh.pending.insert ns [], crs) := by
          simp [processNamespace, h, hs]
        rw [hp]
        exact .head visit (.head (.thread pre post (.syncOk ns _ todo sh _ crs how hs))
          (.head (.thread pre post (.reset ns _ todo _ _))
            (passNext_runs replies pre post todo ⟨sh.locked, sh.pending.insert ns [], crs⟩)))

/-- **A whole pass is a run of the service**: from a free lock, the pass
goroutine takes the lock, visits the keys in any order the range may choose,
and lets go of the lock, leaving the state that `processPendingCRUpdates`
computes. -/
theorem processPendingCRUpdates_is_a_run (replies : String → ApiReplies) (pre post : List Pc)
    (sh : Shared) (hl : sh.locked = false) (order : List String)
    (hperm : order.Perm sh.pending.keys) :
    ReflTransGen Step ⟨sh, pre ++ .passWait :: post⟩
      ⟨⟨false, (processPendingCRUpdates replies order (sh.pending, sh.crs)).1,
        (processPendingCRUpdates replies order (sh.pending, sh.crs)).2⟩,
        pre ++ .passWait :: post⟩ :=
  .head (.thread pre post (.lockPass order sh hl hperm))
    ((passNext_runs replies pre post order { sh with locked := true }).tail
      (.thread pre post (.unlockPass _)))

theorem processPendingCRUpdates_is_a_run_one_key :
    let sh : Shared := ⟨false, (∅ : PendingMap).insert "ns-1" [⟨"volume-extend", true⟩],
      fun _ => none⟩
    sh.locked = false ∧ ["ns-1"].Perm sh.pending.keys ∧
      ReflTransGen Step ⟨sh, [.passWait]⟩
        ⟨⟨false, (processPendingCRUpdates (fun _ => ⟨none, some .notFound, none⟩) ["ns-1"]
            (sh.pending, sh.crs)).1,
          (processPendingCRUpdates (fun _ => ⟨none, some .notFound, none⟩) ["ns-1"]
            (sh.pending, sh.crs)).2⟩, [.passWait]⟩ :=
  ⟨rfl, by decide, processPendingCRUpdates_is_a_run _ [] [] _ rfl _ (by decide)⟩

end VsphereCsi.FeatureStates
