import HdfsOperator.Correctness.RoleConfig
import Mathlib.Algebra.Group.Nat.Even
import Mathlib.Data.List.TakeWhile

/-!
# Registered role groups

The loop over the groups of a role merges, completes and registers their settings. Groups
without settings of their own share the object of the role, which the defaults are written into
once for each of them, so what a group is built with depends on the other groups and, for groups
with settings of their own, on the order of the visit. The resources of `zkfc`, which has a
default of its own, are followed through the loop.
-/

namespace HdfsOperator

open RoleNodeConfig

section Settings

variable {merge : MergeConfig} {r : Role} {spec : RoleSpec} {o : RangeOrder} {s : Registration}
  {g : String} {group : RoleGroupSpec}

/-- The visit of a role group, between what is visited before it and after it. -/
theorem range_eq_append (hg : spec.roleGroups.lookup g = some group) (o : RangeOrder) :
    ∃ pre post, spec.roleGroups.range o = pre ++ (g, group) :: post ∧
      (spec.roleGroups.range o).takeWhile (fun e => e.1 != g) = pre ∧
      g ∉ pre.map Prod.fst ∧ g ∉ post.map Prod.fst := by
  obtain ⟨pre, post, hsplit⟩ := List.append_of_mem (GoMap.mem_range (o := o) |>.mpr hg)
  have hnodup := GoMap.range_keys_nodup spec.roleGroups o
  rw [hsplit, List.map_append, List.map_cons, List.nodup_append, List.nodup_cons] at hnodup
  obtain ⟨-, ⟨hpost, -⟩, hdisjoint⟩ := hnodup
  have hpre : g ∉ pre.map Prod.fst := fun hmem => hdisjoint g hmem g List.mem_cons_self rfl
  have hne : ∀ e ∈ pre, (e.1 != g) = true := by
    intro e he
    rw [bne_iff_ne]
    rintro rfl
    exact hpre (List.mem_map_of_mem he)
  refine ⟨pre, post, hsplit, ?_, hpre, hpost⟩
  rw [hsplit, List.takeWhile_append_of_pos hne, List.takeWhile_cons_of_neg (by simp),
    List.append_nil]

/-- Every loop visits the groups without settings once. -/
theorem unsetCount_eq (spec : RoleSpec) (o : RangeOrder) :
    spec.unsetCount = (spec.roleGroups.range o).countP fun e => e.2.config.isNone := by
  rw [(GoMap.range_perm_entries spec.roleGroups o).countP_eq, List.countP_map]
  rfl

/-- The step that registers a role group, and what it leaves for the rest of the loop. -/
theorem exists_step (h : spec.registerResources merge r o = .ok s)
    (hg : spec.roleGroups.lookup g = some group) :
    ∃ s₁ s₂, s₁.config = spec.config.map (completed r)^[spec.unsetBefore o g] ∧
      Registration.step merge r s₁ (g, group) = .ok s₂ ∧
      s.roleGroups.lookup g = s₂.roleGroups.lookup g := by
  obtain ⟨pre, post, hsplit, hbefore, -, hpost⟩ := range_eq_append hg o
  rw [RoleSpec.registerResources, hsplit, List.foldlM_append] at h
  obtain ⟨s₁, hpre, h⟩ := Go.bind_eq_ok.mp h
  rw [List.foldlM_cons] at h
  obtain ⟨s₂, hstep, hrun⟩ := Go.bind_eq_ok.mp h
  refine ⟨s₁, s₂, ?_, hstep, Registration.run_lookup hrun hpost⟩
  rw [RoleSpec.unsetBefore, hbefore]
  exact Registration.run_config hpre

/-- After the loop the object of the role was completed once for each group without settings. -/
theorem registered_config (h : spec.registerResources merge r o = .ok s) :
    s.config = spec.config.map (completed r)^[spec.unsetCount] := by
  rw [Registration.run_config h, unsetCount_eq spec o]

/-- A role group without settings counts itself. -/
theorem unsetCount_pos (hg : spec.roleGroups.lookup g = some group) (hgroup : group.config = none) :
    0 < spec.unsetCount :=
  List.countP_pos_iff.mpr ⟨⟨g, group⟩, AList.mem_lookup_iff.mp hg, by rw [hgroup]; rfl⟩

/-- A role group is built with the settings of its role, as they were left by earlier rounds, merged
with its own and completed. -/
theorem settings_eq (h : spec.registerResources merge r o = .ok s)
    (hg : spec.roleGroups.lookup g = some group) :
    ∃ merged, mergeObject merge
        (spec.config.map (completed r)^[spec.earlierRounds o g group]) group.config = .ok merged ∧
      s.settings g = some (completed r (merged.getD {})) := by
  obtain ⟨s₁, s₂, hconfig, hstep, hlookup⟩ := exists_step h hg
  rw [Registration.settings, hlookup]
  rcases Registration.step_cases hstep with ⟨_, hsome, hunset, rfl⟩ | ⟨merged, hmerged, hown, rfl⟩
  · -- The object of the role is shared: the group sees it as it is after the loop.
    obtain ⟨role, hrole⟩ : ∃ role, spec.config = some role := by
      rw [hconfig, Option.map_eq_some_iff] at hsome
      exact hsome.imp fun _ => And.left
    have hrounds : spec.earlierRounds o g group + 1 = spec.unsetCount := by
      rw [RoleSpec.earlierRounds, if_pos hunset]
      exact Nat.sub_add_cancel (unsetCount_pos hg hunset)
    refine ⟨some ((completed r)^[spec.earlierRounds o g group] role), ?_, ?_⟩
    · rw [show group.config = none from hunset, hrole]
      rfl
    · rw [AList.lookup_insert, Option.bind_some, registered_config h, hrole, ← hrounds]
      exact congrArg some (Function.iterate_succ_apply' _ _ _)
  · refine ⟨merged, ?_, by rw [AList.lookup_insert]; rfl⟩
    cases hrole : spec.config with
    | none => rwa [hconfig, hrole] at hmerged
    | some role =>
      have hset : group.config ≠ none := fun hunset => hown ⟨by rw [hconfig, hrole]; rfl, hunset⟩
      rwa [RoleSpec.earlierRounds, if_neg hset, ← hrole, ← hconfig]

end Settings

/-- The CPU and memory settings of a role or of a role group. -/
def ConfigSpec.parts (cfg : ConfigSpec) : Option CPUResource × Option MemoryResource :=
  (cfg.cpu, cfg.memory)

section Completed

variable {n : RoleNodeConfig} {cpu : CPUResource} {memory : MemoryResource}
  {storage : StorageResource} {cfg : ConfigSpec}

/-- The CPU and memory settings are filled in together. -/
theorem mergeResources_parts (hn : n.resources = ⟨some cpu, some memory, some storage⟩)
    (m : ResourcesSpec) :
    ((n.mergeResources (some m)).cpu, (n.mergeResources (some m)).memory) =
      mergeParts CPUResource.isZero MemoryResource.isZero cpu memory (m.cpu, m.memory) := by
  by_cases h : m.cpu = none ∧ m.memory = none
  · rw [mergeResources_of_unset n h.1 h.2, h.1, h.2]
    rfl
  · rw [mergeResources_of_set n h, hn]
    cases hc : m.cpu with
    | some c => rfl
    | none =>
      cases hm : m.memory with
      | none => exact absurd ⟨hc, hm⟩ h
      | some y => rfl

/-- One merge with the defaults of a role, as far as the resources are concerned. -/
theorem completed_resources (r : Role) (cfg : ConfigSpec) :
    (completed r cfg).resources = some ((defaultRoleConfig r).mergeResources cfg.resources) :=
  mergeDefaultConfig_resources _ _

@[simp] theorem completed_logging (r : Role) (cfg : ConfigSpec) :
    (completed r cfg).logging = cfg.logging := mergeDefaultConfig_logging _ _

/-- Completing settings leaves the log settings as they are. -/
theorem iterate_completed_logging (r : Role) (cfg : ConfigSpec) (k : Nat) :
    ((completed r)^[k] cfg).logging = cfg.logging := by
  induction k with
  | zero => rfl
  | succ k ih => rw [Function.iterate_succ_apply', completed_logging, ih]

/-- The settings that a role group of the role `r` is built with are given ones that were completed
once or more. -/
def Completes (r : Role) (cfg settings : ConfigSpec) : Prop :=
  ∃ k, settings = (completed r)^[k + 1] cfg

theorem completes_completed (r : Role) (cfg : ConfigSpec) : Completes r cfg (completed r cfg) :=
  ⟨0, rfl⟩

/-- The defaults leave the logging settings. -/
theorem Completes.logging {r : Role} {settings : ConfigSpec} (h : Completes r cfg settings) :
    settings.logging = cfg.logging := by
  obtain ⟨k, rfl⟩ := h
  exact iterate_completed_logging r cfg (k + 1)

/-- A config that was completed has its common part. -/
theorem Completes.roleGroupConfigSpec {r : Role} {settings : ConfigSpec}
    (h : Completes r cfg settings) : ∃ spec, settings.roleGroupConfigSpec = some spec := by
  obtain ⟨k, rfl⟩ := h
  rw [Function.iterate_succ_apply']
  exact ⟨_, mergeDefaultConfig_roleGroupConfigSpec _ _⟩

/-- Once there are resources, completing settings fills in their CPU and memory parts. -/
theorem iterate_completed_parts {r : Role}
    (hn : (defaultRoleConfig r).resources = ⟨some cpu, some memory, some storage⟩)
    (hcfg : cfg.resources ≠ none) (k : Nat) :
    ((completed r)^[k] cfg).resources ≠ none ∧ ((completed r)^[k] cfg).parts =
      (mergeParts CPUResource.isZero MemoryResource.isZero cpu memory)^[k] cfg.parts := by
  induction k with
  | zero => exact ⟨hcfg, rfl⟩
  | succ k ih =>
    obtain ⟨m, hm⟩ := Option.ne_none_iff_exists'.mp ih.1
    rw [Function.iterate_succ_apply', Function.iterate_succ_apply', ← ih.2]
    refine ⟨by rw [completed_resources]; exact Option.some_ne_none _, ?_⟩
    simp only [ConfigSpec.parts, ConfigSpec.cpu, ConfigSpec.memory, completed_resources, hm,
      Option.bind_some]
    exact mergeResources_parts hn m

/-- Settings without resources get the defaults, which stay. -/
theorem iterate_completed_of_unset {r : Role}
    (hn : (defaultRoleConfig r).resources = ⟨some cpu, some memory, some storage⟩)
    (hcpu : cpu.isZero = false) (hmemory : memory.isZero = false) (hcfg : cfg.resources = none)
    (k : Nat) : ((completed r)^[k + 1] cfg).parts = (some cpu, some memory) := by
  have hfirst : (completed r cfg).resources = some (defaultRoleConfig r).resources := by
    rw [completed_resources, hcfg, mergeResources_none]
  have hparts : (completed r cfg).parts = (some cpu, some memory) := by
    simp only [ConfigSpec.parts, ConfigSpec.cpu, ConfigSpec.memory, hfirst, hn, Option.bind_some]
  have hfixed : mergeParts CPUResource.isZero MemoryResource.isZero cpu memory
      (some cpu, some memory) = (some cpu, some memory) := by
    rw [mergeParts_of_fst, mergePart_of_not_isZero hcpu, mergePart_of_not_isZero hmemory]
  rw [Function.iterate_succ_apply,
    (iterate_completed_parts hn (by rw [hfirst]; exact Option.some_ne_none _) k).2, hparts,
    Function.iterate_fixed hfixed k]

/-- Settings drift when they are completed again and again. -/
theorem drifts_completed (r : Role) (cfg : ConfigSpec) (k : Nat) :
    Drifts CPUResource.isZero MemoryResource.isZero cfg.parts
      ((completed r)^[k + 1] cfg).parts := by
  obtain ⟨cpu, memory, storage, hdefault, hcpu, hmemory⟩ := defaultRoleConfig_resources r
  by_cases hcfg : cfg.resources = none
  · have hparts : cfg.parts = (none, none) := by
      simp only [ConfigSpec.parts, ConfigSpec.cpu, ConfigSpec.memory, hcfg, Option.bind_none]
    rw [iterate_completed_of_unset hdefault hcpu hmemory hcfg k, hparts]
    exact drifts_of_none hcpu hmemory
  · rw [(iterate_completed_parts hdefault hcfg (k + 1)).2]
    exact drifts_iterate hcpu hmemory cfg.parts k

end Completed

/-- What is assumed of the merge: it succeeds, and treats each part of the resources on its own. The
part of the group comes first; quantities may be rewritten, but not to zero or from it. Log settings
depend on the log settings of both sides only. -/
structure MergeConfig.Lawful (merge : MergeConfig) : Prop where
  merged : ∀ role group, ∃ m, merge role group = .ok m
  resources : ∀ {role group m}, merge role group = .ok m →
    (m.resources.isSome ↔ role.resources.isSome ∨ group.resources.isSome)
  cpu : ∃ canon : CPUResource → CPUResource, (∀ cpu, (canon cpu).isZero = cpu.isZero) ∧
    ∀ {role group m}, merge role group = .ok m → m.cpu = (group.cpu.or role.cpu).map canon
  memory : ∃ canon : MemoryResource → MemoryResource,
    (∀ memory, (canon memory).isZero = memory.isZero) ∧
    ∀ {role group m}, merge role group = .ok m → m.memory = (group.memory.or role.memory).map canon
  storage : ∀ {role group m}, merge role group = .ok m →
    (m.storage.isSome ↔ role.storage.isSome ∨ group.storage.isSome)
  logging : ∀ {role role' group m m'}, role.logging = role'.logging →
    merge role group = .ok m → merge role' group = .ok m' → m.logging = m'.logging

/-- Settings have resources. -/
def SetsResources (cfg : Option ConfigSpec) : Prop := (cfg.bind ConfigSpec.resources).isSome

/-- Resources follow those that are configured: a part that is set is taken over, and a zero means
that there is none. -/
structure ResourcesSpec.Follows (resources configured : ResourcesSpec) : Prop where
  cpu : ∀ cpu, configured.cpu = some cpu →
    resources.cpu = if cpu.isZero then none else some cpu
  memory : ∀ memory, configured.memory = some memory →
    resources.memory = if memory.isZero then none else some memory

/-- Whatever the order of the visit, the `zkfc` container of a NameNode group gets its own default
when neither the role nor the group sets resources, and those that are configured otherwise. -/
def ZkfcResourcesRight (merge : MergeConfig) (c : HdfsCluster) (g : String) (spec : RoleSpec)
    (group : RoleGroupSpec) : Prop :=
  ∀ o, ∃ cfg, c.registeredConfig merge .nameNode o g = .ok cfg ∧
    ∃ zkfc ∈ (c.statefulSetBuilder .nameNode g cfg).getMainContainers .nameNode,
      zkfc.name = zkfcContainer ∧
      (¬(SetsResources spec.config ∨ SetsResources group.config) →
        zkfc.resources = some zkfcDefaultResources) ∧
      (SetsResources spec.config ∨ SetsResources group.config →
        ∃ merged configured resources,
          mergeObject merge spec.config group.config = .ok (some merged) ∧
            merged.resources = some configured ∧ zkfc.resources = some resources ∧
              resources.Follows configured)

/-- Another group of the role has no settings of its own. -/
def OtherUnset (spec : RoleSpec) (g : String) : Prop :=
  ∃ g' group', g' ≠ g ∧ spec.roleGroups.lookup g' = some group' ∧ group'.config = none

/-- The role removes the CPU part, and the group leaves it at that. -/
def RoleRemovesCpu (role group : Option ConfigSpec) : Prop :=
  (role.bind ConfigSpec.cpu).any CPUResource.isZero = true ∧ group.bind ConfigSpec.cpu = none

@[inherit_doc RoleRemovesCpu]
def RoleRemovesMemory (role group : Option ConfigSpec) : Prop :=
  (role.bind ConfigSpec.memory).any MemoryResource.isZero = true ∧
    group.bind ConfigSpec.memory = none

section Merged

variable {merge : MergeConfig} {role own base : ConfigSpec}

/-- The settings of a role are merged into some. -/
theorem mergeObject_some_left {group m : Option ConfigSpec}
    (h : mergeObject merge (some role) group = .ok m) : ∃ base, m = some base := by
  cases group with
  | none => exact ⟨role, (Except.ok.inj h).symm⟩
  | some own =>
    cases hm : merge role own with
    | error err =>
      rw [mergeObject, hm] at h
      cases h
    | ok base =>
      rw [mergeObject, hm] at h
      exact ⟨base, (Except.ok.inj h).symm⟩

/-- With both configs given, the merge of the objects is that of their values. -/
theorem merge_of_mergeObject (h : mergeObject merge (some role) (some own) = .ok (some base)) :
    merge role own = .ok base := by
  cases hm : merge role own with
  | error err =>
    rw [mergeObject, hm] at h
    cases h
  | ok m =>
    rw [mergeObject, hm] at h
    cases h
    rfl

end Merged

/-- Completing settings leaves neither CPU nor memory settings: both are missing, or both are set to
zero. -/
def Cleared (cfg : ConfigSpec) : Prop :=
  cfg.resources ≠ none ∧ (cfg.parts = (none, none) ∨
    cfg.cpu.any CPUResource.isZero = true ∧ cfg.memory.any MemoryResource.isZero = true)

/-- After `k` rounds, the settings have neither CPU nor memory settings. -/
def BareAfter : Nat → ConfigSpec → Prop
  | 0, cfg => cfg.parts = (none, none)
  | _ + 1, cfg => Cleared cfg

/-- After `k` rounds, the settings have no size for the data volume. -/
def SizelessAfter : Nat → ConfigSpec → Prop
  | 0, cfg => cfg.storage = none
  | k + 1, cfg => Cleared cfg ∧ (StorageOnly cfg ↔ Even k)

/-- The settings of a role, after `k` rounds, and those of a group set a size for the data volume
and no other resources, so that completing them drops it. -/
def DropsSize (k : Nat) : Option ConfigSpec → Option ConfigSpec → Prop
  | none, group => StorageOnly (group.getD {})
  | some role, none => BareAfter k role ∧ ¬SizelessAfter k role
  | some role, some own => own.parts = (none, none) ∧ BareAfter k role ∧
    (own.storage ≠ none ∨ ¬SizelessAfter k role)

section Size

variable {cfg : ConfigSpec}

theorem storageOnly_iff : StorageOnly cfg ↔ cfg.parts = (none, none) ∧ cfg.storage ≠ none := by
  cases h : cfg.resources with
  | none => simp [StorageOnly, ConfigSpec.parts, ConfigSpec.storage, h]
  | some m =>
    simp [StorageOnly, ConfigSpec.parts, ConfigSpec.cpu, ConfigSpec.memory, ConfigSpec.storage, h,
      and_assoc]

/-- A config that asks for storage only is merged without cpu and memory. -/
theorem StorageOnly.cleared (h : StorageOnly cfg) : Cleared cfg := by
  refine ⟨?_, .inl (storageOnly_iff.mp h).1⟩
  obtain ⟨m, hm, -⟩ := h
  rw [hm]
  exact Option.some_ne_none m

/-- Completing settings drops a size exactly when nothing else is set. -/
theorem completed_storage_eq_none_iff (r : Role) (cfg : ConfigSpec) :
    (completed r cfg).storage = none ↔ StorageOnly cfg := by
  rw [ConfigSpec.storage, completed_resources, Option.bind_some]
  by_cases h : StorageOnly cfg
  · exact iff_of_true (mergeResources_storage_of_storageOnly _ h) h
  · refine iff_of_false ?_ h
    obtain ⟨cpu, memory, storage, hdefault, -, -⟩ := defaultRoleConfig_resources r
    rw [mergeResources_storage _ h, hdefault, Option.or_eq_none_iff]
    exact fun hnone => Option.some_ne_none storage hnone.2

/-- Rounds with the defaults end without cpu and memory under one condition on the start. -/
theorem iterate_completed_parts_iff (r : Role) (cfg : ConfigSpec) (k : Nat) :
    ((completed r)^[k] cfg).parts = (none, none) ↔ BareAfter k cfg := by
  cases k with
  | zero => rfl
  | succ k =>
    obtain ⟨cpu, memory, storage, hdefault, hcpu, hmemory⟩ := defaultRoleConfig_resources r
    by_cases hcfg : cfg.resources = none
    · rw [iterate_completed_of_unset hdefault hcpu hmemory hcfg k]
      exact iff_of_false (by simp) fun h => h.1 hcfg
    · rw [(iterate_completed_parts hdefault hcfg (k + 1)).2,
        iterate_mergeParts_eq_none_iff hcpu hmemory]
      exact (and_iff_right hcfg).symm

/-- Without CPU and memory settings, every round sets the size if it is missing and drops it if it
is there. -/
theorem iterate_completed_storage_iff (r : Role) (cfg : ConfigSpec) (k : Nat) :
    ((completed r)^[k] cfg).storage = none ↔ SizelessAfter k cfg := by
  cases k with
  | zero => rfl
  | succ k =>
    induction k with
    | zero =>
      rw [Function.iterate_one, completed_storage_eq_none_iff]
      have hzero : Even 0 := ⟨0, rfl⟩
      exact ⟨fun h => ⟨h.cleared, iff_of_true h hzero⟩, fun h => h.2.mpr hzero⟩
    | succ k ih =>
      rw [Function.iterate_succ_apply', completed_storage_eq_none_iff, storageOnly_iff,
        iterate_completed_parts_iff, ne_eq, ih]
      simp only [BareAfter, SizelessAfter, Nat.even_add_one]
      tauto

/-- What a role and a group set is only a size exactly when completing it drops the size. -/
theorem storageOnly_merged_iff {merge : MergeConfig} (hmerge : merge.Lawful) {r : Role} {k : Nat}
    {role group m : Option ConfigSpec}
    (hm : mergeObject merge (role.map (completed r)^[k]) group = .ok m) :
    StorageOnly (m.getD {}) ↔ DropsSize k role group := by
  cases role with
  | none =>
    have hsame : m = group := by cases group <;> exact (Except.ok.inj hm).symm
    rw [hsame]
    rfl
  | some role =>
    obtain ⟨base, rfl⟩ := mergeObject_some_left hm
    rw [Option.getD_some, storageOnly_iff]
    cases group with
    | none =>
      cases hm
      rw [iterate_completed_parts_iff, ne_eq, iterate_completed_storage_iff]
      rfl
    | some own =>
      have hm := merge_of_mergeObject hm
      obtain ⟨canonCpu, -, hcpu⟩ := hmerge.cpu
      obtain ⟨canonMemory, -, hmemory⟩ := hmerge.memory
      have hparts : base.parts = (none, none) ↔
          own.parts = (none, none) ∧ ((completed r)^[k] role).parts = (none, none) := by
        simp only [ConfigSpec.parts, hcpu hm, hmemory hm, Prod.mk.injEq, Option.map_eq_none_iff,
          Option.or_eq_none_iff]
        tauto
      have hstorage : base.storage ≠ none ↔
          own.storage ≠ none ∨ ¬((completed r)^[k] role).storage = none := by
        rw [← Option.isSome_iff_ne_none, hmerge.storage hm, Option.isSome_iff_ne_none,
          Option.isSome_iff_ne_none, or_comm]
      rw [hparts, hstorage, iterate_completed_parts_iff, iterate_completed_storage_iff, and_assoc]
      rfl

end Size

/-- The log settings of a group do not depend on how often those of its role were completed. -/
theorem mergeObject_logging {merge : MergeConfig} (hmerge : merge.Lawful) {r : Role} {k : Nat}
    {role group m merged : Option ConfigSpec}
    (hm : mergeObject merge (role.map (completed r)^[k]) group = .ok m)
    (hmerged : mergeObject merge role group = .ok merged) :
    (m.getD {}).logging = (merged.getD {}).logging := by
  cases role with
  | none => rw [Except.ok.inj (hm.symm.trans hmerged)]
  | some role =>
    obtain ⟨base, rfl⟩ := mergeObject_some_left hm
    obtain ⟨written, rfl⟩ := mergeObject_some_left hmerged
    cases group with
    | none =>
      cases hm
      cases hmerged
      exact iterate_completed_logging r role k
    | some own =>
      exact hmerge.logging (iterate_completed_logging r role k) (merge_of_mergeObject hm)
        (merge_of_mergeObject hmerged)

section Zkfc

variable {merge : MergeConfig} {c : HdfsCluster} {o : RangeOrder} {g : String} {spec : RoleSpec}
  {group : RoleGroupSpec} {role own base merged cfg : ConfigSpec}

/-- The settings that a loop registers are those of the cluster. -/
theorem registeredConfig_eq_ok {r : Role} (hspec : c.role r = some spec) :
    c.registeredConfig merge r o g = .ok cfg ↔
      ∃ s, spec.registerResources merge r o = .ok s ∧ s.settings g = some cfg := by
  rw [HdfsCluster.registeredConfig, hspec, deref_some, Go.ok_bind, Go.bind_eq_ok]
  simp only [deref_eq_ok]

/-- A role group is registered with its settings, as the earlier rounds have left them. -/
theorem exists_registeredConfig (hmerge : merge.Lawful) {r : Role} (hspec : c.role r = some spec)
    (hgroup : spec.roleGroups.lookup g = some group) (o : RangeOrder) :
    ∃ m, mergeObject merge (spec.config.map (completed r)^[spec.earlierRounds o g group])
        group.config = .ok m ∧
      c.registeredConfig merge r o g = .ok (completed r (m.getD {})) := by
  obtain ⟨s, hs⟩ := Registration.run_ok (r := r) hmerge.merged (spec.roleGroups.range o)
    { config := spec.config }
  obtain ⟨m, hm, hsettings⟩ := settings_eq hs hgroup
  exact ⟨m, hm, (registeredConfig_eq_ok hspec).mpr ⟨s, hs, hsettings⟩⟩

/-- With the defaults filled in there are resources, so `zkfc` is given those. -/
theorem makeZkfcContainer_resources (b : StatefulSetBuilder) {r : Role}
    (hb : b.config = completed r cfg) :
    b.makeZkfcContainer.resources =
      some ((defaultRoleConfig r).mergeResources cfg.resources) := by
  rw [StatefulSetBuilder.makeZkfcContainer, StatefulSetBuilder.makeContainer, buildWithComponent,
    hb, completed, mergeDefaultConfig_roleGroupConfigSpec]
  rfl

/-- `zkfc` is the only container of NameNode pods with its name. -/
theorem eq_makeZkfcContainer {b : StatefulSetBuilder} {k : Container}
    (hk : k ∈ b.getMainContainers .nameNode) (hname : k.name = zkfcContainer) :
    k = b.makeZkfcContainer := by
  rcases List.mem_pair.mp hk with rfl | rfl
  · exact absurd hname (by decide : nameNodeContainer ≠ zkfcContainer)
  · rfl

/-- A merge of settings follows them. -/
theorem follows_mergeResources (n : RoleNodeConfig) (m : ResourcesSpec) :
    (n.mergeResources (some m)).Follows m := by
  constructor
  · intro cpu hcpu
    rw [mergeResources_of_set n (by simp [hcpu]), hcpu]
    rfl
  · intro memory hmemory
    rw [mergeResources_of_set n (by simp [hmemory]), hmemory]
    rfl

/-- What is completed follows what is written down exactly when the parts that it has are those that
the merge of parts leaves. -/
theorem follows_iff_parts {r : Role} {cpu : CPUResource} {memory : MemoryResource}
    {storage : StorageResource} {configured m : ResourcesSpec}
    (hn : (defaultRoleConfig r).resources = ⟨some cpu, some memory, some storage⟩)
    (hmerged : merged.resources = some configured) (hbase : base.resources = some m) :
    ((defaultRoleConfig r).mergeResources base.resources).Follows configured ↔
      FollowsPart CPUResource.isZero merged.cpu
          (mergeParts CPUResource.isZero MemoryResource.isZero cpu memory base.parts).1 ∧
        FollowsPart MemoryResource.isZero merged.memory
          (mergeParts CPUResource.isZero MemoryResource.isZero cpu memory base.parts).2 := by
  have hparts := mergeResources_parts hn m
  have hm : base.parts = (m.cpu, m.memory) := by
    simp only [ConfigSpec.parts, ConfigSpec.cpu, ConfigSpec.memory, hbase, Option.bind_some]
  rw [hbase, hm, ← hparts, ConfigSpec.cpu, ConfigSpec.memory, hmerged]
  exact ⟨fun h => ⟨h.cpu, h.memory⟩, fun h => ⟨h.1, h.2⟩⟩

/-- After earlier rounds, the settings that a group ends up with follow what is written down exactly
when what the role removes and the group leaves comes together. -/
theorem follows_iff_of_rounds (hmerge : merge.Lawful) {r : Role} {group : Option ConfigSpec}
    {configured : ResourcesSpec} (k : Nat) (hconfigured : merged.resources = some configured)
    (hmerged : mergeObject merge (some role) group = .ok (some merged))
    (hbase : mergeObject merge (some ((completed r)^[k + 1] role)) group = .ok (some base)) :
    ((defaultRoleConfig r).mergeResources base.resources).Follows configured ↔
      (RoleRemovesCpu (some role) group ↔ RoleRemovesMemory (some role) group) := by
  obtain ⟨cpu, memory, storage, hdefault, hcpu, hmemory⟩ := defaultRoleConfig_resources r
  have hdrifts := drifts_completed r role k
  have hset : ((completed r)^[k + 1] role).resources ≠ none := by
    rw [Function.iterate_succ_apply', completed_resources]
    exact Option.some_ne_none _
  cases group with
  | none =>
    cases hmerged
    cases hbase
    obtain ⟨m, hm⟩ := Option.ne_none_iff_exists'.mp hset
    have hiff := followsParts_iff_of_drifts hcpu hmemory hdrifts
      (show ∀ x, CPUResource.isZero (id x) = CPUResource.isZero x from fun _ => rfl)
      (show ∀ y, MemoryResource.isZero (id y) = MemoryResource.isZero y from fun _ => rfl) none none
    rw [follows_iff_parts hdefault hconfigured hm]
    simpa [RoleRemovesCpu, RoleRemovesMemory, ConfigSpec.parts] using hiff
  | some own =>
    obtain ⟨canonCpu, hcanonCpu, hmergedCpu⟩ := hmerge.cpu
    obtain ⟨canonMemory, hcanonMemory, hmergedMemory⟩ := hmerge.memory
    have hbase := merge_of_mergeObject hbase
    have hmerged := merge_of_mergeObject hmerged
    obtain ⟨m, hm⟩ := Option.isSome_iff_exists.mp ((hmerge.resources hbase).mpr
      (.inl (Option.isSome_iff_ne_none.mpr hset)))
    have hparts : base.parts =
        ((own.cpu.or ((completed r)^[k + 1] role).parts.1).map canonCpu,
          (own.memory.or ((completed r)^[k + 1] role).parts.2).map canonMemory) :=
      Prod.ext (hmergedCpu hbase) (hmergedMemory hbase)
    rw [follows_iff_parts hdefault hconfigured hm, hparts, hmergedCpu hmerged,
      hmergedMemory hmerged]
    exact followsParts_iff_of_drifts hcpu hmemory hdrifts hcanonCpu hcanonMemory _ _

/-- Settings that are written down somewhere are merged into some. -/
theorem mergeObject_setsResources (hmerge : merge.Lawful) {role group : Option ConfigSpec}
    (h : SetsResources role ∨ SetsResources group) :
    ∃ merged configured, mergeObject merge role group = .ok (some merged) ∧
      merged.resources = some configured := by
  cases role with
  | none =>
    cases group with
    | none =>
      rcases h with h | h
      · cases h
      · cases h
    | some own =>
      have hown : own.resources.isSome := h.resolve_left (by rintro ⟨⟩)
      exact ⟨own, _, rfl, (Option.some_get hown).symm⟩
  | some role =>
    cases group with
    | none =>
      have hrole : role.resources.isSome := h.resolve_right (by rintro ⟨⟩)
      exact ⟨role, _, rfl, (Option.some_get hrole).symm⟩
    | some own =>
      obtain ⟨m, hm⟩ := hmerge.merged role own
      refine ⟨m, _, by rw [mergeObject, hm]; rfl, (Option.some_get ?_).symm⟩
      exact (hmerge.resources hm).mpr h

/-- Without resources in the settings of a role or a group there is no size to drop. -/
theorem not_dropsSize_of_unset {role group : Option ConfigSpec} (hrole : ¬SetsResources role)
    (hgroup : ¬SetsResources group) (k : Nat) : ¬DropsSize k role group := by
  have hsize {cfg : ConfigSpec} (hcfg : cfg.resources = none) : cfg.storage = none := by
    rw [ConfigSpec.storage, hcfg, Option.bind_none]
  cases role with
  | none =>
    rintro ⟨m, hm, -⟩
    cases group with
    | none => cases hm
    | some own => exact hgroup (Option.isSome_iff_exists.mpr ⟨m, hm⟩)
  | some role =>
    have hunset : role.resources = none := Option.not_isSome_iff_eq_none.mp hrole
    have hbare : BareAfter k role → SizelessAfter k role := by
      cases k with
      | zero => exact fun _ => hsize hunset
      | succ k => exact fun h => absurd hunset h.1
    cases group with
    | none => exact fun h => h.2 (hbare h.1)
    | some own =>
      rintro ⟨-, h, hown | hsized⟩
      · exact hown (hsize (Option.not_isSome_iff_eq_none.mp hgroup))
      · exact hsized (hbare h)

/-- Without resources in the settings, a size is set by default, which `zkfc` does not have. -/
theorem mergeResources_ne_zkfcDefaultResources {cfg : ConfigSpec} (h : ¬StorageOnly cfg) :
    (defaultRoleConfig .nameNode).mergeResources cfg.resources ≠ zkfcDefaultResources := by
  intro heq
  have hstorage := congrArg ResourcesSpec.storage heq
  rw [mergeResources_storage _ h] at hstorage
  obtain ⟨cpu, memory, storage, hdefault, -, -⟩ := defaultRoleConfig_resources .nameNode
  rw [hdefault, Option.or_eq_none_iff.mp (hstorage.trans rfl) |>.1] at hstorage
  cases hstorage

/-- Another group without settings is one that the loop visits. -/
theorem otherUnset_iff (o : RangeOrder) : OtherUnset spec g ↔
    ∃ e ∈ spec.roleGroups.range o, e.1 ≠ g ∧ e.2.config = none := by
  constructor
  · rintro ⟨g', group', hne, hlookup, hunset⟩
    exact ⟨(g', group'), GoMap.mem_range.mpr hlookup, hne, hunset⟩
  · rintro ⟨⟨g', group'⟩, he, hne, hunset⟩
    exact ⟨g', group', hne, GoMap.mem_range.mp he, hunset⟩

/-- A group without settings is completed after the other groups without settings. -/
theorem unsetCount_sub_one_ne_zero_iff (hg : spec.roleGroups.lookup g = some group)
    (hunset : group.config = none) : spec.unsetCount - 1 ≠ 0 ↔ OtherUnset spec g := by
  obtain ⟨pre, post, hsplit, -, hpre, hpost⟩ := range_eq_append hg .stored
  have hcount : spec.unsetCount - 1 = (pre ++ post).countP fun e => e.2.config.isNone := by
    rw [unsetCount_eq spec .stored, hsplit, List.countP_append, List.countP_append,
      List.countP_cons_of_pos (by simp [hunset])]
    omega
  rw [hcount, ← Nat.pos_iff_ne_zero, List.countP_pos_iff, otherUnset_iff .stored, hsplit]
  constructor
  · rintro ⟨e, he, hnone⟩
    have hne : e.1 ≠ g := by
      rintro rfl
      exact (List.mem_append.mp he).elim (fun he => hpre (List.mem_map_of_mem he))
        fun he => hpost (List.mem_map_of_mem he)
    refine ⟨e, ?_, hne, Option.isNone_iff_eq_none.mp hnone⟩
    rw [List.mem_append, List.mem_cons]
    exact (List.mem_append.mp he).imp_right .inr
  · rintro ⟨e, he, hne, hnone⟩
    refine ⟨e, ?_, Option.isNone_iff_eq_none.mpr hnone⟩
    rw [List.mem_append, List.mem_cons] at he
    rw [List.mem_append]
    refine he.imp_right fun he => he.resolve_left ?_
    rintro rfl
    exact hne rfl

/-- The order that visits a group first visits it before any other. -/
theorem unsetBefore_first_ne_zero {g' : String} {group' : RoleGroupSpec} (hne : g' ≠ g)
    (hg' : spec.roleGroups.lookup g' = some group') (hunset : group'.config = none) :
    spec.unsetBefore (.first g') g ≠ 0 := by
  have hmem : g' ∈ spec.roleGroups.keys :=
    AList.mem_keys.mp (AList.lookup_isSome.mp (Option.isSome_iff_exists.mpr ⟨group', hg'⟩))
  have hrange : ∃ rest, spec.roleGroups.range (.first g') = (g', group') :: rest := by
    rw [GoMap.range, RangeOrder.first]
    simp only [if_pos hmem, List.filterMap_cons, hg', Option.map_some]
    exact ⟨_, rfl⟩
  obtain ⟨rest, hrange⟩ := hrange
  rw [RoleSpec.unsetBefore, hrange, List.takeWhile_cons_of_pos (by simpa using hne),
    List.countP_cons_of_pos (by simp [hunset])]
  exact Nat.succ_ne_zero _

/-- Some order of the visit completes the settings of the role before those of a group exactly when
another group has no settings. -/
theorem exists_earlierRounds_ne_zero_iff (hg : spec.roleGroups.lookup g = some group) :
    (∃ o, spec.earlierRounds o g group ≠ 0) ↔ OtherUnset spec g := by
  by_cases hunset : group.config = none
  · simp only [RoleSpec.earlierRounds, if_pos hunset]
    rw [← unsetCount_sub_one_ne_zero_iff hg hunset]
    exact ⟨fun ⟨_, h⟩ => h, fun h => ⟨.stored, h⟩⟩
  · simp only [RoleSpec.earlierRounds, if_neg hunset]
    constructor
    · rintro ⟨o, ho⟩
      obtain ⟨e, he, hnone⟩ := List.countP_pos_iff.mp (Nat.pos_of_ne_zero ho)
      exact (otherUnset_iff o).mpr ⟨e, List.takeWhile_subset _ he,
        by simpa using List.mem_takeWhile_imp he, Option.isNone_iff_eq_none.mp hnone⟩
    · rintro ⟨g', group', hne, hg', hnone⟩
      exact ⟨.first g', unsetBefore_first_ne_zero hne hg' hnone⟩

/-- The resources that a group ends up with follow what is written down, whatever the order of the
visit, exactly when no removal of a part by the role is lost. -/
theorem follows_forall_iff (hmerge : merge.Lawful) (r : Role)
    (hgroup : spec.roleGroups.lookup g = some group) {configured : ResourcesSpec}
    (hmerged : mergeObject merge spec.config group.config = .ok (some merged))
    (hconfigured : merged.resources = some configured) :
    (∀ o m, mergeObject merge (spec.config.map (completed r)^[spec.earlierRounds o g group])
        group.config = .ok m →
          ((defaultRoleConfig r).mergeResources (m.getD {}).resources).Follows configured) ↔
      (OtherUnset spec g → (RoleRemovesCpu spec.config group.config ↔
        RoleRemovesMemory spec.config group.config)) := by
  have hsame {m : Option ConfigSpec} (h : some merged = m) :
      ((defaultRoleConfig r).mergeResources (m.getD {}).resources).Follows configured := by
    rw [← h, Option.getD_some, hconfigured]
    exact follows_mergeResources _ configured
  cases hrole : spec.config with
  | none =>
    rw [hrole] at hmerged
    refine iff_of_true (fun o m hm => hsame (Except.ok.inj (hmerged.symm.trans hm))) fun _ => ?_
    simp [RoleRemovesCpu, RoleRemovesMemory]
  | some role =>
    rw [hrole] at hmerged
    constructor
    · intro hfollows hother
      obtain ⟨o, ho⟩ := (exists_earlierRounds_ne_zero_iff hgroup).mpr hother
      obtain ⟨k, hk⟩ := Nat.exists_eq_succ_of_ne_zero ho
      obtain ⟨m, hm⟩ := Registration.mergeObject_ok hmerge.merged
        (some ((completed r)^[k + 1] role)) group.config
      obtain ⟨base, rfl⟩ := mergeObject_some_left hm
      refine (follows_iff_of_rounds hmerge k hconfigured hmerged hm).mp (hfollows o (some base) ?_)
      rw [hk]
      exact hm
    · intro hremoves o m hm
      cases hrounds : spec.earlierRounds o g group with
      | zero =>
        rw [hrounds] at hm
        exact hsame (Except.ok.inj (hmerged.symm.trans hm))
      | succ k =>
        have hother := (exists_earlierRounds_ne_zero_iff hgroup).mp
          ⟨o, by rw [hrounds]; exact Nat.succ_ne_zero k⟩
        rw [hrounds, Option.map_some] at hm
        obtain ⟨base, rfl⟩ := mergeObject_some_left hm
        exact (follows_iff_of_rounds hmerge k hconfigured hmerged hm).mpr (hremoves hother)

/-- The `zkfc` container has the right resources exactly when the role or the group sets some, and
no removal of a part by the role is lost: its own default is never reached, and a part that only the
role removes comes back when another group without settings has been through the loop. -/
theorem zkfcResourcesRight_iff (hmerge : merge.Lawful) (hspec : c.nameNode = some spec)
    (hgroup : spec.roleGroups.lookup g = some group) :
    ZkfcResourcesRight merge c g spec group ↔
      (SetsResources spec.config ∨ SetsResources group.config) ∧
        (OtherUnset spec g → (RoleRemovesCpu spec.config group.config ↔
          RoleRemovesMemory spec.config group.config)) := by
  have hreg := exists_registeredConfig (r := .nameNode) hmerge hspec hgroup
  -- The container of a right cluster is the one that is built from the registered settings.
  have hzkfc {o : RangeOrder} {m : Option ConfigSpec} {cfg : ConfigSpec} {k : Container}
      (hcfg : c.registeredConfig merge .nameNode o g = .ok (completed .nameNode (m.getD {})))
      (hok : c.registeredConfig merge .nameNode o g = .ok cfg)
      (hk : k ∈ (c.statefulSetBuilder .nameNode g cfg).getMainContainers .nameNode)
      (hname : k.name = zkfcContainer) : k.resources =
        some ((defaultRoleConfig .nameNode).mergeResources (m.getD {}).resources) := by
    obtain rfl := Except.ok.inj (hcfg.symm.trans hok)
    rw [eq_makeZkfcContainer hk hname, makeZkfcContainer_resources _ rfl]
  constructor
  · intro hright
    have hsets : SetsResources spec.config ∨ SetsResources group.config := by
      by_contra h
      obtain ⟨m, hm, hcfg⟩ := hreg .stored
      obtain ⟨cfg, hok, k, hk, hname, hunset, -⟩ := hright .stored
      have hdefault := (hzkfc hcfg hok hk hname).symm.trans (hunset h)
      refine mergeResources_ne_zkfcDefaultResources ?_ (Option.some.inj hdefault)
      rw [storageOnly_merged_iff hmerge hm]
      exact not_dropsSize_of_unset (fun hrole => h (.inl hrole)) (fun hown => h (.inr hown)) _
    obtain ⟨merged, configured, hmerged, hconfigured⟩ := mergeObject_setsResources hmerge hsets
    refine ⟨hsets, (follows_forall_iff hmerge .nameNode hgroup hmerged hconfigured).mp ?_⟩
    intro o m hm
    obtain ⟨m', hm', hcfg⟩ := hreg o
    obtain rfl := Except.ok.inj (hm.symm.trans hm')
    obtain ⟨cfg, hok, k, hk, hname, -, hset⟩ := hright o
    obtain ⟨merged', configured', resources, hmerged', hconfigured', hres, hfollows⟩ := hset hsets
    obtain rfl := Option.some.inj (Except.ok.inj (hmerged.symm.trans hmerged'))
    obtain rfl := Option.some.inj (hconfigured.symm.trans hconfigured')
    rwa [Option.some.inj (hres.symm.trans (hzkfc hcfg hok hk hname))] at hfollows
  · rintro ⟨hsets, hremoves⟩ o
    obtain ⟨m, hm, hcfg⟩ := hreg o
    obtain ⟨merged, configured, hmerged, hconfigured⟩ := mergeObject_setsResources hmerge hsets
    have hfollows := (follows_forall_iff hmerge .nameNode hgroup hmerged hconfigured).mpr hremoves
    refine ⟨_, hcfg, _, List.mem_pair.mpr (.inr rfl), rfl, fun h => absurd hsets h, fun _ => ?_⟩
    exact ⟨merged, configured, _, hmerged, hconfigured, makeZkfcContainer_resources _ rfl,
      hfollows o m hm⟩

end Zkfc

/-- A merge in which each setting of the role group comes before that of the role. -/
def mergeFields : MergeConfig := fun role group => .ok
  { roleGroupConfigSpec := some
      { resources :=
          if role.resources = none ∧ group.resources = none then none
          else some
            { cpu := group.cpu.or role.cpu
              memory := group.memory.or role.memory
              storage := group.storage.or role.storage }
        logging := group.logging.or role.logging }
    listenerClass := group.listenerClass.or role.listenerClass }

/-- The resources that this merge leaves, and their parts. -/
theorem mergeFields_resources {role group m : ConfigSpec} (h : mergeFields role group = .ok m) :
    (m.resources.isSome ↔ role.resources.isSome ∨ group.resources.isSome) ∧
      m.cpu = group.cpu.or role.cpu ∧ m.memory = group.memory.or role.memory ∧
        m.storage = group.storage.or role.storage := by
  cases h
  simp only [ConfigSpec.cpu, ConfigSpec.memory, ConfigSpec.storage]
  cases hrole : role.resources with
  | none =>
    cases hgroup : group.resources with
    | none => simp [ConfigSpec.resources]
    | some y => simp [ConfigSpec.resources]
  | some x => simp [ConfigSpec.resources]

/-- The merge is one of those that the operator framework may do. -/
theorem mergeFields_lawful : mergeFields.Lawful where
  merged := fun _ _ => ⟨_, rfl⟩
  resources := fun h => (mergeFields_resources h).1
  cpu := ⟨id, fun _ => rfl, fun h => by rw [(mergeFields_resources h).2.1, Option.map_id, id]⟩
  memory := ⟨id, fun _ => rfl, fun h => by rw [(mergeFields_resources h).2.2.1, Option.map_id, id]⟩
  storage := fun h => by
    rw [(mergeFields_resources h).2.2.2, Option.isSome_or, Bool.or_eq_true, or_comm]
  logging := fun hlogging h h' => by
    cases h
    cases h'
    simp only [ConfigSpec.logging, Option.bind_some] at hlogging ⊢
    rw [hlogging]

/-- NameNodes that limit the memory and have no CPU settings. -/
def limitedRole : RoleSpec where
  config := some noCpu
  roleGroups := .ofList [("default", {})]

/-- A cluster with such NameNodes. -/
def limitedNameNodes : HdfsCluster := { oneGroupEach with nameNode := some limitedRole }

theorem zkfcResourcesRight_limitedNameNodes :
    ZkfcResourcesRight mergeFields limitedNameNodes "default" limitedRole {} := by
  refine (zkfcResourcesRight_iff mergeFields_lawful rfl rfl).mpr ⟨.inl rfl, ?_⟩
  rintro ⟨g', group', hne, hg', -⟩
  have hmem := GoMap.mem_of_lookup_ofList hg'
  rw [List.mem_singleton, Prod.mk.injEq] at hmem
  exact absurd hmem.1 hne

/-- When nothing is configured, `zkfc` gets the resources of a NameNode. -/
theorem zkfc_gets_nameNode_resources :
    ∃ cfg, oneGroupEach.registeredConfig mergeFields .nameNode .stored "default" = .ok cfg ∧
      (oneGroupEach.statefulSetBuilder .nameNode "default" cfg).makeZkfcContainer.resources =
        some (getContainerResource .nameNode) ∧
      some (getContainerResource .nameNode) ≠ some zkfcDefaultResources :=
  ⟨_, rfl, rfl, by decide⟩

/-- A cluster whose NameNodes are in two groups that share the settings of their role. -/
def sharedNameNodes : HdfsCluster :=
  { oneGroupEach with nameNode := some ⟨some noCpu, .ofList [("a", {}), ("b", {})]⟩ }

-- The CPU part that the role removes is back after the second of the groups.
example : ∃ cfg, sharedNameNodes.registeredConfig mergeFields .nameNode .stored "a" = .ok cfg ∧
    cfg.cpu = (getContainerResource .nameNode).cpu := ⟨_, rfl, rfl⟩

end HdfsOperator
