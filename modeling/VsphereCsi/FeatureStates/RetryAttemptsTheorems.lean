import VsphereCsi.FeatureStates.RetryAttempts
import VsphereCsi.FeatureStates.ReplicationTheorems

/-!
VsphereCsi.FeatureStates.RetryAttemptsTheorems — what the first version of
the replication service does with its nil map and its CR writes.

  §1 The nil map — no call makes the map. Every run therefore keeps it nil,
     and every retry pass does nothing (`startRetryAttempts_never_runs`). A
     run dies exactly when one of its calls reaches an assignment to the map
     (`runCalls_panics_iff_assigns`): the start does as soon as a workload
     namespace is listed and the ConfigMap parses.
  §2 CR writes — a CR `Get` that reports `NotFound` is never followed by a
     `Create`. From the start, the CR of a namespace is written only by a
     `createFeatureStatesCRInWorkLoadNamespace` for that namespace, or after a
     CR `Get` there that did not report `NotFound` (`runCalls_crs_written_by`).
  §3 `configMapUpdated` — the loop it starts writes the feature states of the
     object the informer passed as the old one, and nothing else
     (`configMapUpdated_pushes_old_data`).
-/

namespace VsphereCsi.FeatureStates.RetryAttempts

/-! ## §1 The nil map -/

@[simp] theorem assign_none (ns : String) (cr : Option FeatureStatesCR) :
    assign none ns cr = .error .assignmentToEntryInNilMap := rfl

/-- On the nil map, the loop over namespaces panics at the first one. -/
theorem updateNamespaces_nil_map (featurestates : List FeatureState)
    (replies : String → ApiReplies) (ns : String) (namespaces : List String) (crs : CrStore) :
    (updateNamespaces featurestates replies (ns :: namespaces) ⟨none, crs⟩).1 =
      .panic .assignmentToEntryInNilMap := rfl

theorem updateNamespaces_pending_nil (featurestates : List FeatureState)
    (replies : String → ApiReplies) (namespaces : List String) (crs : CrStore) :
    (updateNamespaces featurestates replies namespaces ⟨none, crs⟩).2.pending = none := by
  cases namespaces <;> rfl

/-- **Step lemma**: no call makes the map. -/
theorem Call.run_pending_nil (crs : CrStore) : ∀ c : Call, (c.run ⟨none, crs⟩).2.pending = none
  | .updateAll featurestates namespacesList configMapGet replies => by
    simp only [Call.run, updateFeatureStatesCRInAllWorkLoadNamespaces]
    split
    · rfl
    · split
      · rfl
      · exact updateNamespaces_pending_nil _ _ _ _
  | .create ns configMapGet createErr => by
    simp only [Call.run, createFeatureStatesCRInWorkLoadNamespace]
    split
    · rfl
    · split <;> rfl
  | .retry _ _ => rfl

/-- **Run lemma**: every run from a nil map keeps it nil. -/
theorem runCalls_pending_nil : ∀ (calls : List Call) (crs : CrStore),
    (runCalls ⟨none, crs⟩ calls).2.pending = none
  | [], _ => rfl
  | c :: calls, crs => by
    have hc := Call.run_pending_nil crs c
    simp only [runCalls]
    split
    · next p svc' heq => rw [heq] at hc; exact hc
    · next o svc' _ heq =>
      rw [heq] at hc
      obtain ⟨p, crs'⟩ := svc'
      subst hc
      exact runCalls_pending_nil calls crs'

/-- Does the call reach an assignment to `pendingCRUpdate`? An update does
once its namespace `List` returned a namespace and it has its feature states
(given, or parsed from the ConfigMap): each namespace's iteration assigns the
entry or nil. A create does when its `Create` failed. -/
def Call.assigns : Call → Bool
  | .updateAll featurestates namespacesList configMapGet _ =>
    match namespacesList,
        (if featurestates.length = 0 then getFeatureStates configMapGet else .ok featurestates) with
    | .ok (_ :: _), .ok _ => true
    | _, _ => false
  | .create _ configMapGet createErr =>
    match getFeatureStates configMapGet, createErr with
    | .ok _, some _ => true
    | _, _ => false
  | .retry _ _ => false

/-- **Step lemma**: on the nil map, a call panics exactly when it reaches an
assignment. -/
theorem Call.run_panics_iff (crs : CrStore) :
    ∀ c : Call, (c.run ⟨none, crs⟩).1 = .panic .assignmentToEntryInNilMap ↔ c.assigns = true
  | .updateAll featurestates namespacesList configMapGet replies => by
    simp only [Call.run, updateFeatureStatesCRInAllWorkLoadNamespaces, Call.assigns]
    generalize (if featurestates.length = 0 then getFeatureStates configMapGet
      else .ok featurestates) = featureStates
    rcases namespacesList with _ | _ | ⟨ns, namespaces⟩ <;> rcases featureStates with _ | _ <;>
      simp [updateNamespaces, updateNamespaces_nil_map]
  | .create ns configMapGet createErr => by
    simp only [Call.run, createFeatureStatesCRInWorkLoadNamespace, Call.assigns]
    split
    · simp_all
    · cases createErr <;> simp_all
  | .retry _ _ => by simp [Call.run, Call.assigns]

/-- **The service dies exactly when a call touches the map.** The map is
never made, so a run from the start, with any calls and any replies, ends in
`assignment to entry in nil map` exactly when one of its calls reaches an
assignment: an update that lists a workload namespace and has its feature
states, or a create whose `Create` fails. The start is the first such
update, with no feature states of its own. -/
theorem runCalls_panics_iff_assigns (crs : CrStore) :
    ∀ calls : List Call,
      (runCalls ⟨none, crs⟩ calls).1 = .panic .assignmentToEntryInNilMap ↔
        calls.any Call.assigns = true
  | [] => by simp [runCalls]
  | c :: calls => by
    have hc := Call.run_pending_nil crs c
    have hp := Call.run_panics_iff crs c
    simp only [runCalls, List.any_cons, Bool.or_eq_true]
    split
    · next p svc' heq =>
      rw [heq] at hp
      cases p
      exact iff_of_true rfl (.inl (hp.1 rfl))
    · next o svc' hne heq =>
      rw [heq] at hc hp
      obtain ⟨p, crs'⟩ := svc'
      subst hc
      have hnp : c.assigns = false := by
        cases o with
        | panic p => exact (hne p rfl).elim
        | _ => simpa using hp
      rw [runCalls_panics_iff_assigns crs' calls, hnp]
      simp

/-- **The retry routine never retries**: in every run from the start the map
is still nil, so every pass of `startRetryAttempts`, then or later, ranges
over nothing and changes nothing. -/
theorem startRetryAttempts_never_runs (crs : CrStore) (calls : List Call)
    (replies : String → ApiReplies) (order : List String) :
    (runCalls ⟨none, crs⟩ calls).2.pending = none ∧
      startRetryAttempts replies order (runCalls ⟨none, crs⟩ calls).2 =
        (runCalls ⟨none, crs⟩ calls).2 := by
  have h := runCalls_pending_nil calls crs
  exact ⟨h, by simp [startRetryAttempts, h]⟩

/-! ## §2 CR writes -/

/-- The calls that can write the CR of `ns` while the map is nil: an update
whose CR `Get` in `ns` did not report `NotFound`, and a create for `ns`. -/
def Call.mayWriteCR (ns : String) : Call → Prop
  | .updateAll _ _ _ replies => (replies ns).crGet ≠ some .notFound
  | .create n _ _ => n = ns
  | .retry _ _ => False

/-- `putCR` writes only the CR it is given, and never after `NotFound`. -/
theorem putCR_changed {crs : CrStore} {cr : FeatureStatesCR} {r : ApiReplies} {ns : String}
    (h : (putCR crs cr r).2 ns ≠ crs ns) : ns = cr.ns ∧ r.crGet ≠ some .notFound := by
  obtain ⟨g, c, w⟩ := r
  rcases c with _ | _ | _ <;> rcases w with _ | _ <;> simp only [putCR] at h ⊢ <;>
    first | exact absurd rfl h | skip
  all_goals
    refine ⟨?_, by simp⟩
    by_contra hn
    exact h (by simp [writeCR_apply, hn])

theorem updateNamespaces_changed {featurestates : List FeatureState}
    {replies : String → ApiReplies} {ns : String} :
    ∀ {namespaces : List String} {svc : Svc},
      (updateNamespaces featurestates replies namespaces svc).2.crs ns ≠ svc.crs ns →
        (replies ns).crGet ≠ some .notFound
  | [], _, h => absurd rfl h
  | n :: namespaces, svc, h => by
    simp only [updateNamespaces] at h
    split at h
    · exact (putCR_changed h).1 ▸ (putCR_changed h).2
    · by_cases hput : (putCR svc.crs ⟨svFeatureStateCRName, n, featurestates⟩ (replies n)).2 ns =
          svc.crs ns
      · exact updateNamespaces_changed (hput ▸ h)
      · exact (putCR_changed hput).1 ▸ (putCR_changed hput).2

/-- **Step lemma**: from a nil map, a call that changes the CR of `ns` is one
that may write it. -/
theorem Call.run_changed {crs : CrStore} {ns : String} :
    ∀ {c : Call}, (c.run ⟨none, crs⟩).2.crs ns ≠ crs ns → c.mayWriteCR ns
  | .updateAll featurestates namespacesList configMapGet replies, h => by
    simp only [Call.run, updateFeatureStatesCRInAllWorkLoadNamespaces] at h
    split at h
    · exact absurd rfl h
    · split at h
      · exact absurd rfl h
      · exact updateNamespaces_changed h
  | .create n configMapGet createErr, h => by
    simp only [Call.run, createFeatureStatesCRInWorkLoadNamespace] at h
    split at h
    · exact absurd rfl h
    · split at h
      · show n = ns
        by_contra hn
        exact h (by simp [writeCR_apply, Ne.symm hn])
      · exact absurd rfl h
  | .retry _ _, h => absurd rfl h

/-- **Who writes a CR**: from the start, the CR of a namespace changes only
through a `createFeatureStatesCRInWorkLoadNamespace` for it, or through an
update whose CR `Get` there did not report `NotFound`. An update whose CR
`Get` reports `NotFound` writes nothing there, and the retries never run. -/
theorem runCalls_crs_written_by (ns : String) : ∀ (calls : List Call) (crs : CrStore),
    (runCalls ⟨none, crs⟩ calls).2.crs ns ≠ crs ns → ∃ c ∈ calls, c.mayWriteCR ns
  | [], _, h => absurd rfl h
  | c :: calls, crs, h => by
    have hp := Call.run_pending_nil crs c
    simp only [runCalls] at h
    split at h
    · next p svc' heq => exact ⟨c, List.mem_cons_self _ _, Call.run_changed (heq ▸ h)⟩
    · next o svc' _ heq =>
      rw [heq] at hp
      obtain ⟨p, crs'⟩ := svc'
      subst hp
      by_cases hc : crs' ns = crs ns
      · obtain ⟨c', hc', hw⟩ := runCalls_crs_written_by ns calls crs' (hc ▸ h)
        exact ⟨c', List.mem_cons_of_mem _ hc', hw⟩
      · exact ⟨c, List.mem_cons_self _ _, Call.run_changed (by rw [heq]; exact hc)⟩

theorem namespaceAdded_creates_missing_cr :
    (runCalls ⟨none, fun _ => none⟩
        [.create "ns-1" (.ok [("volume-extend", "true")]) none]).2.crs "ns-1" ≠ none ∧
      ∃ c ∈ [Call.create "ns-1" (.ok [("volume-extend", "true")]) none], c.mayWriteCR "ns-1" :=
  ⟨by decide, runCalls_crs_written_by "ns-1" _ (fun _ => none) (by decide)⟩

/-! ## §3 `configMapUpdated` -/

/-- What `configMapUpdated` goes on to push is parsed from `oldObj`, the
object the informer says was replaced, and only when its `Data` differs from
`newObj`'s. -/
theorem configMapUpdated_updateForever {cfg : ServiceConfig} {oldObj newObj : ConfigMap}
    {featureStates : List FeatureState}
    (h : configMapUpdated cfg (some oldObj) (some newObj) = .updateForever featureStates) :
    cfg.isSupervisorConfigMap oldObj = true ∧ ¬ oldObj.data.Perm newObj.data ∧
      parseFeatureStates oldObj.data = .ok featureStates := by
  simp only [configMapUpdated] at h
  split at h
  · split at h
    · cases h
    · next hperm =>
      split at h
      · cases h
      · next fs hfs => cases h; exact ⟨‹_›, hperm, hfs⟩
  · cases h

/-- `putCR` leaves a CR as it was, or writes the CR it is given. -/
theorem putCR_at (crs : CrStore) (cr : FeatureStatesCR) (r : ApiReplies) (ns : String) :
    (putCR crs cr r).2 ns = crs ns ∨ (putCR crs cr r).2 ns = some cr.featureStates := by
  obtain ⟨g, c, w⟩ := r
  by_cases hn : ns = cr.ns <;> rcases c with _ | _ | _ <;> rcases w with _ | _ <;>
    simp [putCR, hn]

/-- **Step lemma**: one update leaves each CR as it was, or writes the list it
pushes. -/
theorem updateNamespaces_crs_at (featurestates : List FeatureState) (replies : String → ApiReplies)
    (ns : String) : ∀ (namespaces : List String) (svc : Svc),
      (updateNamespaces featurestates replies namespaces svc).2.crs ns = svc.crs ns ∨
        (updateNamespaces featurestates replies namespaces svc).2.crs ns = some featurestates
  | [], _ => .inl rfl
  | n :: namespaces, svc => by
    have hput := putCR_at svc.crs ⟨svFeatureStateCRName, n, featurestates⟩ (replies n) ns
    simp only [updateNamespaces]
    split
    · exact hput
    · rcases updateNamespaces_crs_at featurestates replies ns namespaces ⟨_, _⟩ with h | h
      · rw [h]; exact hput
      · exact .inr h

/-- **Run lemma**: the updates of a loop that pushes a non-empty list leave
each CR as it was, or holding that list. -/
theorem runCalls_updateAll_crs_at {featurestates : List FeatureState} (hne : featurestates ≠ [])
    (ns : String) :
    ∀ (iterations : List (Except K8sError (List String) ×
        Except K8sError (List (String × String)) × (String → ApiReplies))) (svc : Svc),
      (runCalls svc (iterations.map fun it => .updateAll featurestates it.1 it.2.1 it.2.2)).2.crs ns =
          svc.crs ns ∨
        (runCalls svc (iterations.map fun it => .updateAll featurestates it.1 it.2.1 it.2.2)).2.crs ns =
          some featurestates
  | [], _ => .inl rfl
  | it :: iterations, svc => by
    have hc : (Call.run svc (.updateAll featurestates it.1 it.2.1 it.2.2)).2.crs ns = svc.crs ns ∨
        (Call.run svc (.updateAll featurestates it.1 it.2.1 it.2.2)).2.crs ns = some featurestates := by
      simp only [Call.run, updateFeatureStatesCRInAllWorkLoadNamespaces]
      split
      · exact .inl rfl
      · rw [if_neg (mt List.length_eq_zero.1 hne)]
        exact updateNamespaces_crs_at _ _ _ _ _
    simp only [List.map_cons, runCalls]
    split
    · next p svc' heq => rw [heq] at hc; exact hc
    · next o svc' _ heq =>
      rw [heq] at hc
      rcases runCalls_updateAll_crs_at hne ns iterations svc' with h | h
      · rw [h]; exact hc
      · exact .inr h

/-- **A ConfigMap update writes the replaced feature states.** When
`configMapUpdated` goes on to its endless loop of updates, what it pushes is
parsed from `oldObj`, the object the informer says was replaced, and the new
`Data` differs from it. After any number of iterations of that loop, with any
replies, from any state, each namespace's CR is as it was or holds the old
object's feature states: the new `Data` is never what the loop writes. -/
theorem configMapUpdated_pushes_old_data {cfg : ServiceConfig} {oldObj newObj : ConfigMap}
    {featureStates : List FeatureState}
    (h : configMapUpdated cfg (some oldObj) (some newObj) = .updateForever featureStates)
    (hne : featureStates ≠ [])
    (iterations : List (Except K8sError (List String) ×
      Except K8sError (List (String × String)) × (String → ApiReplies)))
    (svc : Svc) (ns : String) :
    parseFeatureStates oldObj.data = .ok featureStates ∧ ¬ oldObj.data.Perm newObj.data ∧
      ((runCalls svc (iterations.map fun it => .updateAll featureStates it.1 it.2.1 it.2.2)).2.crs ns =
          svc.crs ns ∨
        (runCalls svc (iterations.map fun it => .updateAll featureStates it.1 it.2.1 it.2.2)).2.crs ns =
          some featureStates) :=
  ⟨(configMapUpdated_updateForever h).2.2, (configMapUpdated_updateForever h).2.1,
    runCalls_updateAll_crs_at hne ns iterations svc⟩

/-- `Data` going from `volume-extend: true` to `false`, and one iteration of
the loop on a cluster with one workload namespace. -/
theorem configMapUpdated_pushes_stale_value :
    let cm : List (String × String) → ConfigMap :=
      fun data => ⟨"csi-feature-states", "vmware-system-csi", data⟩
    let fs : List FeatureState := [⟨"volume-extend", true⟩]
    let iterations : List (Except K8sError (List String) ×
        Except K8sError (List (String × String)) × (String → ApiReplies)) :=
      [(.ok ["ns-1"], .ok [], fun _ => ⟨none, none, none⟩)]
    let crsAfter := (runCalls ⟨none, fun _ => none⟩
      (iterations.map fun it => .updateAll fs it.1 it.2.1 it.2.2)).2.crs
    configMapUpdated ⟨"csi-feature-states", "vmware-system-csi"⟩
        (some (cm [("volume-extend", "true")])) (some (cm [("volume-extend", "false")])) =
      .updateForever fs ∧ fs ≠ [] ∧
      parseFeatureStates (cm [("volume-extend", "true")]).data = .ok fs ∧
        ¬ (cm [("volume-extend", "true")]).data.Perm (cm [("volume-extend", "false")]).data ∧
        (crsAfter "ns-1" = none ∨ crsAfter "ns-1" = some fs) := by
  intro cm fs iterations crsAfter
  have h : configMapUpdated ⟨"csi-feature-states", "vmware-system-csi"⟩
      (some (cm [("volume-extend", "true")])) (some (cm [("volume-extend", "false")])) =
    .updateForever fs := by decide
  exact ⟨h, by simp [fs], configMapUpdated_pushes_old_data h (by simp [fs]) iterations _ "ns-1"⟩

end VsphereCsi.FeatureStates.RetryAttempts
