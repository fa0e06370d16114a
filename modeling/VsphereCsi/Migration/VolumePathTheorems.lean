import VsphereCsi.Migration.Service

/-!
VsphereCsi.Migration.VolumePathTheorems — what `RegisterVolume` extracts
from an in-tree volume path `[D] P`.

The datastore name comes out right for every bracket-free `D`
(`extractDatastore_datastoreName`). The vmdk path does NOT in general:
`strings.Trim(volumePath, datastoreName)` treats `"[D]"` as a set of runes,
so it also strips every trailing rune of `P` that occurs in `D` or is a
bracket, and — when `D` holds a space — leading runes of `P` as well.
`extractDatastore_vmdkPath` gives the conditions under which `P` survives;
`cnsVolumeCreateSpec_trims_vmdk` is a path for which it does not.
-/

namespace VsphereCsi.Migration

open VsphereCsi.Go

theorem dropWhile_of_forall_not {p : Char → Bool} :
    ∀ {l : List Char}, (∀ c ∈ l, p c = false) → l.dropWhile p = l
  | [], _ => rfl
  | c :: cs, h => by simp [List.dropWhile_cons, h c (List.mem_cons_self c cs)]

theorem rdropWhile_of_forall_not {p : Char → Bool} {l : List Char} (h : ∀ c ∈ l, p c = false) :
    l.rdropWhile p = l :=
  List.rdropWhile_eq_self_iff.mpr fun hl => by simp [h _ (List.getLast_mem hl)]

theorem inTreePath_data (D P : String) :
    ("[" ++ D ++ "] " ++ P).data = '[' :: D.data ++ ']' :: ' ' :: P.data := by
  simp only [String.data_append]
  simp

/-- `RegisterVolume` reads the datastore name of `[D] P` as `D`, for every
`D` without brackets and every `P`. -/
theorem extractDatastore_datastoreName {D : String} (hD : ∀ c ∈ D.data, c ≠ '[' ∧ c ≠ ']')
    (P : String) :
    (extractDatastore ("[" ++ D ++ "] " ++ P)).map Prod.fst = some D := by
  have hfind : findBracketed ("[" ++ D ++ "] " ++ P).data = some ('[' :: D.data ++ [']']) := by
    rw [inTreePath_data]; exact findBracketed_open hD _
  have hl : (trimLeft (trimRight ⟨'[' :: D.data ++ [']']⟩ "[") "[").data = D.data ++ [']'] := by
    rw [trimLeft_data, trimRight_data]
    simp only [List.cons_append]
    rw [← List.cons_append, List.rdropWhile_concat_neg _ _ _ (by decide), List.cons_append,
      List.dropWhile_cons]
    simp only [show inCutset "[" '[' = true from rfl, if_true]
    exact dropWhile_of_forall_not fun c hc => by
      rcases List.mem_append.mp hc with hc | hc
      · simpa [inCutset] using (hD c hc).1
      · simp at hc; subst hc; decide
  have hr : (trim (trim ⟨'[' :: D.data ++ [']']⟩ "[") "]").data = D.data := by
    rw [trim, trimLeft_data, trimRight_data, trim, hl,
      List.rdropWhile_concat_pos _ _ _ (by decide)]
    have hD' : ∀ c ∈ D.data, inCutset "]" c = false := fun c hc => by
      simpa [inCutset] using (hD c hc).2
    rw [rdropWhile_of_forall_not hD', dropWhile_of_forall_not hD']
  simp only [extractDatastore, hfind, Option.map_some', Option.some.injEq]
  exact String.ext hr

theorem extractDatastore_datastoreName_ds1 :
    (∀ c ∈ "ds1".data, c ≠ '[' ∧ c ≠ ']') ∧
      (extractDatastore ("[" ++ "ds1" ++ "] " ++ "kubevols/a.vmdk")).map Prod.fst = some "ds1" :=
  ⟨by decide, extractDatastore_datastoreName (by decide) _⟩

/-- `RegisterVolume` reads the vmdk path of `[D] P` as `P` when `D` holds no
space, `P` has no leading or trailing white space, and the last rune of `P`
is neither a rune of `D` nor a bracket. -/
theorem extractDatastore_vmdkPath {D P : String} (hD : ∀ c ∈ D.data, c ≠ '[' ∧ c ≠ ']')
    (hsp : ' ' ∉ D.data) (hP : trimSpace P = P) {x : Char} (hx : P.data.getLast? = some x)
    (hxD : x ∉ D.data) (hxb : x ≠ '[' ∧ x ≠ ']') :
    (extractDatastore ("[" ++ D ++ "] " ++ P)).map Prod.snd = some P := by
  obtain ⟨init, hinit⟩ := List.getLast?_eq_some_iff.mp hx
  have hfind : findBracketed ("[" ++ D ++ "] " ++ P).data = some ('[' :: D.data ++ [']']) := by
    rw [inTreePath_data]; exact findBracketed_open hD _
  have hright : ('[' :: D.data ++ ']' :: ' ' :: P.data).rdropWhile
      (inCutset ⟨'[' :: D.data ++ [']']⟩) = '[' :: D.data ++ ']' :: ' ' :: P.data := by
    rw [hinit, show '[' :: D.data ++ ']' :: ' ' :: (init ++ [x]) =
      ('[' :: D.data ++ ']' :: ' ' :: init) ++ [x] by simp]
    exact List.rdropWhile_concat_neg _ _ _ (by simp [inCutset, hxD, hxb.1, hxb.2])
  have htrim : trim ("[" ++ D ++ "] " ++ P) ⟨'[' :: D.data ++ [']']⟩ = ⟨' ' :: P.data⟩ := by
    refine String.ext ?_
    have hsp' : inCutset ⟨'[' :: D.data ++ [']']⟩ ' ' = false := by simp [inCutset, hsp]
    rw [trim, trimLeft_data, trimRight_data, inTreePath_data, hright,
      show '[' :: D.data ++ ']' :: ' ' :: P.data = ('[' :: D.data ++ [']']) ++ ' ' :: P.data by simp,
      List.dropWhile_append_of_pos fun c hc => by simpa [inCutset] using hc,
      List.dropWhile_cons, hsp']
    rfl
  have hspace : trimSpace ⟨' ' :: P.data⟩ = P := by
    refine String.ext ?_
    rw [trimSpace_data, List.dropWhile_cons, if_pos (show isSpace ' ' = true from rfl),
      ← trimSpace_data, hP]
  simp only [extractDatastore, hfind, Option.map_some', Option.some.injEq]
  rw [htrim, hspace]

theorem extractDatastore_vmdkPath_ds1 :
    (∀ c ∈ "ds1".data, c ≠ '[' ∧ c ≠ ']') ∧ ' ' ∉ "ds1".data ∧
      trimSpace "kubevols/a.vmdk" = "kubevols/a.vmdk" ∧
      "kubevols/a.vmdk".data.getLast? = some 'k' ∧ 'k' ∉ "ds1".data ∧ ('k' ≠ '[' ∧ 'k' ≠ ']') ∧
      (extractDatastore ("[" ++ "ds1" ++ "] " ++ "kubevols/a.vmdk")).map Prod.snd =
        some "kubevols/a.vmdk" :=
  ⟨by decide, by decide, by decide, by decide, by decide, by decide,
    extractDatastore_vmdkPath (x := 'k') (by decide) (by decide) (by decide) (by decide) (by decide)
      (by decide)⟩

/-- The path `[disk] kubevols/vol.vmdk`: the trailing `k` and `d` of `.vmdk`
are runes of `disk`, so the backing URL names `kubevols/vol.vm`. -/
theorem cnsVolumeCreateSpec_trims_vmdk :
    cnsVolumeCreateSpec "uuid-1" ⟨"10.0.0.1", ["dc1"]⟩ ⟨"cluster-1", fun _ => some "admin"⟩
        "[disk] kubevols/vol.vmdk" =
      .ok ⟨"uuid-1", blockVolumeType, ⟨"cluster-1", "admin", cnsClusterFlavorVanilla⟩,
        "https://10.0.0.1/folder/kubevols/vol.vm?dcPath=dc1&dsName=disk"⟩ := by
  decide

end VsphereCsi.Migration
