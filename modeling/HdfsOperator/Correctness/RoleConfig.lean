import HdfsOperator.Models.StatefulSets
import Mathlib.Logic.Function.Iterate

/-!
# Defaults of role groups

Filling in defaults must keep what the user chose. Two choices are followed from the settings
to the pod: the size of the data volume, and the absence of CPU or memory settings.
-/

namespace HdfsOperator

open RoleNodeConfig

/-- The size of the data volume: the one that is set, or the default of the role. -/
def requestedCapacity (r : Role) (cfg : ConfigSpec) : Option Quantity :=
  ((cfg.resources.bind ResourcesSpec.storage).or (getContainerResource r).storage).map
    StorageResource.capacity

/-- The size of the data volume is the only part of the resources that is set. -/
def StorageOnly (cfg : ConfigSpec) : Prop :=
  ∃ m, cfg.resources = some m ∧ m.cpu = none ∧ m.memory = none ∧ m.storage ≠ none

/-- With the defaults filled in, a size is set and the claim for data asks for the right one. -/
def DataVolumeRight (b : StatefulSetBuilder) (r : Role) (cfg : ConfigSpec) : Prop :=
  let config := (defaultRoleConfig r).mergeDefaultConfig cfg
  (config.resources.bind ResourcesSpec.storage).isSome ∧
    ∃ q, requestedCapacity r cfg = some q ∧
      { b with config }.createDataPvcTemplate r = .ok (StatefulSetBuilder.dataClaim q)

/-- The defaults of a role are the resources of its containers. -/
theorem defaultRoleConfig_eq (r : Role) :
    (defaultRoleConfig r).resources = getContainerResource r := by
  cases r with
  | nameNode => rfl
  | dataNode => rfl
  | journalNode => rfl

/-- Once a size is set, the claims of all roles ask for it. -/
theorem createDataPvcTemplate_of_storage {b : StatefulSetBuilder} {m : ResourcesSpec}
    {s : StorageResource} (hm : b.config.resources = some m) (hs : m.storage = some s) (r : Role) :
    b.createDataPvcTemplate r = .ok (StatefulSetBuilder.dataClaim s.capacity) := by
  obtain ⟨spec, hspec, hresources⟩ := Option.bind_eq_some_iff.mp hm
  cases r with
  | dataNode =>
    simp only [StatefulSetBuilder.createDataPvcTemplate,
      StatefulSetBuilder.createDataNodeDataPvcTemplate, hspec, hresources, hs, deref_some,
      Go.ok_bind]
    rfl
  | nameNode | journalNode =>
    simp only [StatefulSetBuilder.createDataPvcTemplate,
      StatefulSetBuilder.createDefaultedDataPvcTemplate, hspec, hresources, hs, deref_some,
      Go.ok_bind, Option.bind_some]
    rfl

/-- The merge keeps the size that is set and fills in the default, unless nothing but a size is
set. -/
theorem mergeResources_storage (n : RoleNodeConfig) {cfg : ConfigSpec} (h : ¬StorageOnly cfg) :
    (n.mergeResources cfg.resources).storage =
      (cfg.resources.bind ResourcesSpec.storage).or n.resources.storage := by
  cases hm : cfg.resources with
  | none => rfl
  | some m =>
    by_cases hset : m.cpu = none ∧ m.memory = none
    · have hstorage : m.storage = none := by
        by_contra hne
        exact h ⟨m, hm, hset.1, hset.2, hne⟩
      rw [mergeResources_of_unset n hset.1 hset.2]
      simp [hstorage]
    · rw [mergeResources_of_set n hset]
      rfl

/-- When nothing but a size is set, the merge drops it. -/
theorem mergeResources_storage_of_storageOnly (n : RoleNodeConfig) {cfg : ConfigSpec}
    (h : StorageOnly cfg) : (n.mergeResources cfg.resources).storage = none := by
  obtain ⟨m, hm, hcpu, hmemory, hstorage⟩ := h
  rw [hm, mergeResources_of_unset n hcpu hmemory]
  exact if_neg hstorage

/-- The data volume has the size that the user set, or the default size, exactly when the size is
not the only part of the resources that is set. -/
theorem dataVolumeRight_iff (b : StatefulSetBuilder) (r : Role) (cfg : ConfigSpec) :
    DataVolumeRight b r cfg ↔ ¬StorageOnly cfg := by
  constructor
  · rintro ⟨hset, -⟩ h
    rw [mergeDefaultConfig_resources, Option.bind_some,
      mergeResources_storage_of_storageOnly _ h] at hset
    cases hset
  · intro h
    obtain ⟨cpu, memory, storage, hdefault, -, -⟩ := defaultRoleConfig_resources r
    -- The default fills the gap, so some size is set.
    obtain ⟨s, hs⟩ : ∃ s, (cfg.resources.bind ResourcesSpec.storage).or
        (defaultRoleConfig r).resources.storage = some s := by
      rw [hdefault]
      cases cfg.resources.bind ResourcesSpec.storage with
      | none => exact ⟨storage, rfl⟩
      | some s => exact ⟨s, rfl⟩
    have hmerged := (mergeResources_storage (defaultRoleConfig r) h).trans hs
    refine ⟨?_, s.capacity, ?_, ?_⟩
    · rw [mergeDefaultConfig_resources, Option.bind_some, hmerged]
      rfl
    · rw [requestedCapacity, ← defaultRoleConfig_eq, hs]
      rfl
    · exact createDataPvcTemplate_of_storage
        (b := { b with config := (defaultRoleConfig r).mergeDefaultConfig cfg })
        (mergeDefaultConfig_resources _ _) hmerged r

/-- The settings of a user who sets the size of the data volume only. -/
def fiveGibi : ConfigSpec where
  roleGroupConfigSpec := some { resources := some { storage := some { capacity := .gibi 5 } } }

/-- DataNodes panic on such settings, and the other roles ask for a size that nobody chose. -/
theorem createDataPvcTemplate_fiveGibi :
    (oneGroupEach.statefulSetBuilder .dataNode "default"
        ((defaultRoleConfig .dataNode).mergeDefaultConfig fiveGibi)).createDataPvcTemplate
          .dataNode = .error (.panic .nilDereference) ∧
      (oneGroupEach.statefulSetBuilder .nameNode "default"
        ((defaultRoleConfig .nameNode).mergeDefaultConfig fiveGibi)).createDataPvcTemplate
          .nameNode = .ok (StatefulSetBuilder.dataClaim (.gibi 10)) :=
  ⟨rfl, rfl⟩

/-- The merge is done once: doing it again changes nothing, and a part that the user removed stays
removed however often it is done. -/
structure MergesOnce (n : RoleNodeConfig) (cfg : ConfigSpec) : Prop where
  idempotent : n.mergeDefaultConfig (n.mergeDefaultConfig cfg) = n.mergeDefaultConfig cfg
  noCpu : ∀ m cpu, cfg.resources = some m → m.cpu = some cpu → cpu.isZero = true → ∀ k,
    (n.mergeDefaultConfig^[k + 1] cfg).resources.bind ResourcesSpec.cpu = none
  noMemory : ∀ m memory, cfg.resources = some m → m.memory = some memory →
    memory.isZero = true → ∀ k,
      (n.mergeDefaultConfig^[k + 1] cfg).resources.bind ResourcesSpec.memory = none

/-- The resources are not set, or have a CPU or memory part and no part that is zero. -/
def NothingRemoved (cfg : ConfigSpec) : Prop :=
  ∀ m, cfg.resources = some m → ¬(m.cpu = none ∧ m.memory = none) ∧
    m.cpu.all (!CPUResource.isZero ·) ∧ m.memory.all (!MemoryResource.isZero ·)

theorem nothingRemoved_iff {cfg : ConfigSpec} {m : ResourcesSpec} (hm : cfg.resources = some m) :
    NothingRemoved cfg ↔ ¬(m.cpu = none ∧ m.memory = none) ∧
      m.cpu.all (!CPUResource.isZero ·) ∧ m.memory.all (!MemoryResource.isZero ·) := by
  constructor
  · intro h
    exact h m hm
  · intro h m' hm'
    rw [Option.some.inj (hm'.symm.trans hm)]
    exact h

/-- Merging settings twice comes down to merging their resources twice. -/
theorem mergeDefaultConfig_twice_iff (n : RoleNodeConfig) (cfg : ConfigSpec) :
    n.mergeDefaultConfig (n.mergeDefaultConfig cfg) = n.mergeDefaultConfig cfg ↔
      n.mergeResources (some (n.mergeResources cfg.resources)) =
        n.mergeResources cfg.resources := by
  constructor
  · intro h
    have hresources := congrArg ConfigSpec.resources h
    simpa only [mergeDefaultConfig_resources, Option.some.injEq] using hresources
  · intro h
    have hspec : (n.mergeDefaultConfig (n.mergeDefaultConfig cfg)).roleGroupConfigSpec =
        (n.mergeDefaultConfig cfg).roleGroupConfigSpec := by
      rw [mergeDefaultConfig_roleGroupConfigSpec, mergeDefaultConfig_roleGroupConfigSpec n cfg,
        mergeDefaultConfig_resources, mergeDefaultConfig_logging, h]
    exact ConfigSpec.ext hspec (mergeDefaultConfig_listenerClass_twice n cfg)

section Twice

variable {n : RoleNodeConfig} {cpu : CPUResource} {memory : MemoryResource}
  {storage : StorageResource}

/-- Without CPU and memory settings, a second merge changes whether a size is set. -/
theorem mergeResources_twice_of_unset (hn : n.resources = ⟨some cpu, some memory, some storage⟩)
    {m : ResourcesSpec} (hcpu : m.cpu = none) (hmemory : m.memory = none) :
    n.mergeResources (some (n.mergeResources (some m))) ≠ n.mergeResources (some m) := by
  intro h
  have hstorage := congrArg ResourcesSpec.storage h
  rw [mergeResources_of_unset n hcpu hmemory, mergeResources_of_unset n rfl rfl, hn] at hstorage
  cases hs : m.storage with
  | none => simp [hs] at hstorage
  | some s => simp [hs] at hstorage

/-- With CPU or memory settings, a second merge changes nothing exactly when no part is zero. -/
theorem mergeResources_twice_iff_of_set
    (hn : n.resources = ⟨some cpu, some memory, some storage⟩) (hcpu : cpu.isZero = false)
    (hmemory : memory.isZero = false) {m : ResourcesSpec}
    (hset : ¬(m.cpu = none ∧ m.memory = none)) :
    n.mergeResources (some (n.mergeResources (some m))) = n.mergeResources (some m) ↔
      m.cpu.all (!CPUResource.isZero ·) ∧ m.memory.all (!MemoryResource.isZero ·) := by
  rw [mergeResources_of_set n hset, hn]
  by_cases hremoved : mergePart CPUResource.isZero (some cpu) m.cpu = none ∧
      mergePart MemoryResource.isZero (some memory) m.memory = none
  · -- Both parts were removed: the second merge takes this for "not set" and drops the size.
    rw [mergeResources_of_unset n hremoved.1 hremoved.2]
    have hzero := any_of_mergePart_eq_none hremoved.1
    constructor
    · intro h
      have hstorage := congrArg ResourcesSpec.storage h
      cases hs : m.storage with
      | none => simp [hs] at hstorage
      | some s => simp [hs] at hstorage
    · rintro ⟨hall, -⟩
      rw [all_not_isZero, hzero] at hall
      cases hall
  · rw [mergeResources_of_set n hremoved, hn, ResourcesSpec.mk.injEq,
      mergePart_mergePart_iff hcpu, mergePart_mergePart_iff hmemory]
    simp

end Twice

/-- A second merge changes nothing exactly when no part of the resources is removed. -/
theorem mergeDefaultConfig_idempotent_iff (r : Role) (cfg : ConfigSpec) :
    (defaultRoleConfig r).mergeDefaultConfig ((defaultRoleConfig r).mergeDefaultConfig cfg) =
      (defaultRoleConfig r).mergeDefaultConfig cfg ↔ NothingRemoved cfg := by
  obtain ⟨cpu, memory, storage, hdefault, hcpu, hmemory⟩ := defaultRoleConfig_resources r
  rw [mergeDefaultConfig_twice_iff]
  cases hm : cfg.resources with
  | none =>
    have hself : (defaultRoleConfig r).mergeResources (some (defaultRoleConfig r).resources) =
        (defaultRoleConfig r).resources := by
      rw [hdefault, mergeResources_of_set _ (by simp), mergePart_of_not_isZero hcpu,
        mergePart_of_not_isZero hmemory]
      rfl
    simp [NothingRemoved, hm, hself]
  | some m =>
    rw [nothingRemoved_iff hm]
    by_cases hset : m.cpu = none ∧ m.memory = none
    · exact iff_of_false (mergeResources_twice_of_unset hdefault hset.1 hset.2) fun h => h.1 hset
    · rw [mergeResources_twice_iff_of_set hdefault hcpu hmemory hset]
      exact (and_iff_right hset).symm

/-- Defaults can be filled in again and again exactly when no part of the resources is removed:
the result does not tell a part that was removed from one that was never set. -/
theorem mergesOnce_iff (r : Role) (cfg : ConfigSpec) :
    MergesOnce (defaultRoleConfig r) cfg ↔ NothingRemoved cfg := by
  constructor
  · intro h
    exact (mergeDefaultConfig_idempotent_iff r cfg).mp h.idempotent
  · intro h
    have hidempotent := (mergeDefaultConfig_idempotent_iff r cfg).mpr h
    have hruns : ∀ k, (defaultRoleConfig r).mergeDefaultConfig^[k + 1] cfg =
        (defaultRoleConfig r).mergeDefaultConfig cfg := by
      intro k
      rw [Function.iterate_succ_apply]
      exact Function.iterate_fixed hidempotent k
    refine ⟨hidempotent, ?_, ?_⟩
    · intro m cpu hm hcpu hzero k
      rw [hruns, mergeDefaultConfig_resources, hm, mergeResources_of_set _ (by simp [hcpu]), hcpu,
        mergePart_of_isZero hzero]
      rfl
    · intro m memory hm hmemory hzero k
      rw [hruns, mergeDefaultConfig_resources, hm, mergeResources_of_set _ (by simp [hmemory]),
        hmemory, mergePart_of_isZero hzero]
      rfl

/-- The settings of a user who removes the CPU part and limits the memory. -/
def noCpu : ConfigSpec where
  roleGroupConfigSpec := some
    { resources := some
        { cpu := some { min := { value := 0 }, max := { value := 0 } }
          memory := some { limit := .gibi 1 } } }

/-- The first merge removes the CPU part, and the second one fills in the default. -/
theorem mergeDefaultConfig_noCpu :
    ((defaultRoleConfig .nameNode).mergeDefaultConfig noCpu).resources.bind ResourcesSpec.cpu =
        none ∧
      ((defaultRoleConfig .nameNode).mergeDefaultConfig
        ((defaultRoleConfig .nameNode).mergeDefaultConfig noCpu)).resources.bind
          ResourcesSpec.cpu = (getContainerResource .nameNode).cpu :=
  ⟨rfl, rfl⟩

end HdfsOperator
