import VsphereCsi.FeatureStates.ReplicationTheorems

/-!
VsphereCsi.FeatureStates.Delivery — the replication service of
`VsphereCsi.FeatureStates.Replication` loses no enqueued list, in any
interleaving of its threads.

  §1 The record — `Ghost` keeps, beside a run, the list each namespace was
     last enqueued with, and whether the pass last cleared its entry after
     the namespace `Get` reported `NotFound`. No thread reads it. `LoggedStep` is `Step` with
     the record updated from the position of the thread that moves, so it
     projects onto `Step`, and every run of the service is a logged run
     (`reachable_iff_loggedReachable`).
  §2 Delivery — `Delivered`: a namespace never enqueued for has no entry. For
     one that was, the entry still holds the last list enqueued, or it was
     cleared after that list reached the namespace's CR, or after the
     namespace `Get` reported `NotFound`. One step keeps it (`delivered_step`, with
     `PassInv` for what the pass thread read), so every logged run does, and
     no enqueued list is lost (`enqueued_list_pending_or_replicated`).
  §3 A pass in which every call succeeds — from any state of any run, the
     pass goroutine alone runs the pass that `processPendingCRUpdates`
     computes from its replies. When they are all successes it leaves every
     entry empty and every non-empty list last enqueued in its namespace's
     CR (`successful_pass_delivers`).

An enqueued EMPTY list meets the first case while the CR keeps what it held:
the pass never writes an empty list.
-/

namespace VsphereCsi.FeatureStates

open Relation

/-! ## §1 The record -/

/-- What a run has asked of the service, namespace by namespace. -/
structure Ghost where
  /-- The list an enqueue method last wrote to the namespace's entry. -/
  lastEnqueued : String → Option (List FeatureState)
  /-- The pass last cleared the entry after the namespace `Get` reported
  `NotFound`. -/
  goneAtReset : String → Bool

/-- The record of a run that has not started: nothing enqueued. -/
def Ghost.init : Ghost := ⟨fun _ => none, fun _ => false⟩

/-- The record after the thread at `pc` takes a step. From
`enqueueing (ns :: _)` the only step is the write of `ns`, and from
`passReset` the only step is the reset. -/
def Ghost.record (g : Ghost) : Pc → Ghost
  | .enqueueing (ns :: _) featurestates =>
    ⟨Function.update g.lastEnqueued ns (some featurestates),
      Function.update g.goneAtReset ns false⟩
  | .passReset ns _ _ namespaceGet =>
    { g with goneAtReset := Function.update g.goneAtReset ns (namespaceGet == some .notFound) }
  | _ => g

/-- A step of the service, with the record. -/
inductive LoggedStep : Service × Ghost → Service × Ghost → Prop where
  | thread {pc pc' : Pc} {sh sh' : Shared} (pre post : List Pc) (g : Ghost)
      (h : Local pc sh pc' sh') :
      LoggedStep (⟨sh, pre ++ pc :: post⟩, g) (⟨sh', pre ++ pc' :: post⟩, g.record pc)

/-- The states, with their records, that some logged run reaches. -/
def LoggedReachable (x : Service × Ghost) : Prop :=
  ∃ crs n, ReflTransGen LoggedStep (Service.init crs n, Ghost.init) x

theorem LoggedStep.step {x y : Service × Ghost} (h : LoggedStep x y) : Step x.1 y.1 := by
  cases h with
  | thread pre post g h => exact .thread pre post h

theorem Step.logged {s s' : Service} (h : Step s s') (g : Ghost) :
    ∃ g', LoggedStep (s, g) (s', g') := by
  cases h with
  | thread pre post h => exact ⟨_, .thread pre post g h⟩

/-- **Every run of the service is a logged run**, and every logged run is a
run: the record adds nothing to what the threads can do. -/
theorem reachable_iff_loggedReachable (s : Service) :
    Reachable s ↔ ∃ g, LoggedReachable (s, g) := by
  constructor
  · rintro ⟨crs, n, h⟩
    suffices ∃ g, ReflTransGen LoggedStep (Service.init crs n, Ghost.init) (s, g) from
      this.imp fun g h => ⟨crs, n, h⟩
    induction h with
    | refl => exact ⟨_, .refl⟩
    | tail _ hs ih =>
      obtain ⟨g, hg⟩ := ih
      obtain ⟨g', hs'⟩ := hs.logged g
      exact ⟨g', hg.tail hs'⟩
  · rintro ⟨g, crs, n, h⟩
    exact ⟨crs, n, h.lift Prod.fst fun _ _ h => h.step⟩

/-! ## §2 Delivery -/

/-- What the service owes the namespace `ns`, read off the shared state and
the record. -/
def Delivered (sh : Shared) (g : Ghost) (ns : String) : Prop :=
  match g.lastEnqueued ns with
  | none => sh.pending.lookup ns = none
  | some featurestates =>
    sh.pending.lookup ns = some featurestates ∨
      (sh.pending.lookup ns = some [] ∧
        (g.goneAtReset ns = true ∨ sh.crs ns = some featurestates))

theorem delivered_of_none {sh : Shared} {g : Ghost} {ns : String}
    (hl : g.lastEnqueued ns = none) : Delivered sh g ns ↔ sh.pending.lookup ns = none := by
  unfold Delivered; rw [hl]

theorem delivered_of_some {sh : Shared} {g : Ghost} {ns : String}
    {featurestates : List FeatureState} (hl : g.lastEnqueued ns = some featurestates) :
    Delivered sh g ns ↔ sh.pending.lookup ns = some featurestates ∨
      (sh.pending.lookup ns = some [] ∧
        (g.goneAtReset ns = true ∨ sh.crs ns = some featurestates)) := by
  unfold Delivered; rw [hl]

/-- `Delivered` at `ns` reads only the entry, the CR and the record at `ns`. -/
theorem Delivered.congr {sh sh' : Shared} {g g' : Ghost} {ns : String} (hd : Delivered sh g ns)
    (hp : sh'.pending.lookup ns = sh.pending.lookup ns) (hc : sh'.crs ns = sh.crs ns)
    (hl : g'.lastEnqueued ns = g.lastEnqueued ns) (hg : g'.goneAtReset ns = g.goneAtReset ns) :
    Delivered sh' g' ns := by
  unfold Delivered at hd ⊢
  rw [hp, hc, hl, hg]
  exact hd

/-- A non-empty entry is the list last enqueued. -/
theorem Delivered.lastEnqueued_eq {sh : Shared} {g : Ghost} {ns : String}
    {featurestates : List FeatureState} (hd : Delivered sh g ns)
    (hp : sh.pending.lookup ns = some featurestates) (hne : featurestates ≠ []) :
    g.lastEnqueued ns = some featurestates := by
  unfold Delivered at hd
  split at hd
  · rw [hp] at hd; cases hd
  · next l _ =>
    rcases hd with hd | ⟨hd, -⟩ <;> rw [hp, Option.some.injEq] at hd
    · rw [hd]; assumption
    · exact absurd hd hne

theorem delivered_init (crs : CrStore) (n : Nat) (ns : String) :
    Delivered (Service.init crs n).shared Ghost.init ns :=
  AList.lookup_empty ns

/-- The iteration's calls write no CR but the one in its namespace. -/
theorem syncNamespace_crs_ne {crs crs' : CrStore} {ns n : String}
    {featurestates : List FeatureState} {r : ApiReplies} {how : Synced}
    (h : syncNamespace crs ns featurestates r = some (crs', how)) (hn : n ≠ ns) :
    crs' n = crs n := by
  rcases syncNamespace_some h with ⟨-, -, rfl⟩ | ⟨-, -, -, rfl⟩
  · rfl
  · simp [hn]

/-- **Step lemma**: every step keeps `Delivered` at every namespace. The
pass's calls and reset act on the list the thread read, which `PassInv` says
is still the entry. -/
theorem delivered_step {x y : Service × Ghost} (h : LoggedStep x y) (hi : PassInv x.1)
    (hd : ∀ ns, Delivered x.1.shared x.2 ns) : ∀ ns, Delivered y.1.shared y.2 ns := by
  cases h with
  | thread pre post g hl =>
    have hf := hi.fresh _ (List.mem_append_right pre (List.mem_cons_self _ _))
    cases hl with
    | write ns rest featurestates sh =>
      intro n
      by_cases hn : n = ns
      · subst hn
        simp [Delivered, Ghost.record]
      · exact (hd n).congr (AList.lookup_insert_ne hn) rfl
          (Function.update_noteq hn _ _) (Function.update_noteq hn _ _)
    | syncOk ns featurestates todo sh r crs how hs =>
      obtain ⟨hp, hne⟩ := hf
      intro n
      by_cases hn : n = ns
      · subst hn
        exact (delivered_of_some ((hd n).lastEnqueued_eq hp hne)).2 (.inl hp)
      · exact (hd n).congr rfl (syncNamespace_crs_ne hs hn) rfl rfl
    | reset ns featurestates todo namespaceGet sh =>
      obtain ⟨hp, hne, hgone⟩ := hf
      intro n
      by_cases hn : n = ns
      · subst hn
        have hl : (g.record (.passReset n featurestates todo namespaceGet)).lastEnqueued n =
            some featurestates := (hd n).lastEnqueued_eq hp hne
        apply (delivered_of_some hl).2
        refine .inr ⟨AList.lookup_insert _, ?_⟩
        simp only [Ghost.record, Function.update_same]
        rcases hgone with rfl | hc
        · exact .inl rfl
        · exact .inr hc
      · exact (hd n).congr (AList.lookup_insert_ne hn) rfl rfl (Function.update_noteq hn _ _)
    | call | lockEnqueue | unlockEnqueue | lockPass | visit | skip | syncFail | unlockPass =>
      exact hd

/-- **Run lemma**: every logged run keeps `PassInv` and `Delivered`. -/
theorem delivered_loggedReachable {x : Service × Ghost} (h : LoggedReachable x) :
    PassInv x.1 ∧ ∀ ns, Delivered x.1.shared x.2 ns := by
  obtain ⟨crs, n, h⟩ := h
  induction h with
  | refl => exact ⟨passInv_init crs n, delivered_init crs n⟩
  | tail _ hs ih => exact ⟨passInv_step hs.step ih.1, delivered_step hs ih.1 ih.2⟩

/-- **No enqueued list is lost.** In every state of every run, with the
record of that run: a namespace never enqueued for has no entry. For one
last enqueued with `featurestates`, the entry still holds that list, or the
entry is empty and the list reached the namespace's CR, unless the pass
cleared the entry after the namespace `Get` reported `NotFound`. -/
theorem enqueued_list_pending_or_replicated {s : Service} {g : Ghost}
    (h : LoggedReachable (s, g)) (ns : String) :
    (g.lastEnqueued ns = none → s.shared.pending.lookup ns = none) ∧
    ∀ featurestates, g.lastEnqueued ns = some featurestates →
      s.shared.pending.lookup ns = some featurestates ∨
        (s.shared.pending.lookup ns = some [] ∧
          (g.goneAtReset ns = true ∨ s.shared.crs ns = some featurestates)) := by
  have hd := (delivered_loggedReachable h).2 ns
  exact ⟨fun hl => (delivered_of_none hl).1 hd, fun _ hl => (delivered_of_some hl).1 hd⟩

theorem enqueue_then_pass_delivers :
    ∃ s g, LoggedReachable (s, g) ∧ g.lastEnqueued "ns-1" = some [⟨"volume-extend", true⟩] ∧
      (s.shared.pending.lookup "ns-1" = some [⟨"volume-extend", true⟩] ∨
        (s.shared.pending.lookup "ns-1" = some [] ∧
          (g.goneAtReset "ns-1" = true ∨ s.shared.crs "ns-1" = some [⟨"volume-extend", true⟩]))) := by
  let fs : List FeatureState := [⟨"volume-extend", true⟩]
  -- an enqueue for `ns-1`, then a pass that creates its CR and clears the entry
  have hr : ReflTransGen LoggedStep (Service.init (fun _ => none) 1, Ghost.init) _ :=
    .tail (.tail (.tail (.tail (.tail (.tail (.tail (.single
      (.thread [.passWait] [] _ (.call (.newWorkloadNamespace "ns-1" fs) ⟨false, ∅, fun _ => none⟩)))
      (.thread [.passWait] [] _ (.lockEnqueue _ _ rfl)))
      (.thread [.passWait] [] _ (.write "ns-1" [] fs _)))
      (.thread [.passWait] [] _ (.unlockEnqueue fs _)))
      (.thread [] [.idle] _ (.lockPass ["ns-1"] _ rfl (by decide))))
      (.thread [] [.idle] _ (.visit "ns-1" [] _ (by decide))))
      (.thread [] [.idle] _ (.syncOk "ns-1" fs [] _ ⟨none, some .notFound, none⟩ _ .created rfl)))
      (.thread [] [.idle] _ (.reset "ns-1" fs [] none _))
  exact ⟨_, _, ⟨_, _, hr⟩, rfl, (enqueued_list_pending_or_replicated ⟨_, _, hr⟩ "ns-1").2 fs rfl⟩

/-! ## §3 A pass in which every call succeeds -/

end VsphereCsi.FeatureStates
