import HdfsOperator.Core.Defaults
import HdfsOperator.Models.Cluster

/-!
# The settings of a role group

The settings of a role group are those of its role merged with its own by the operator
framework, and then completed with the defaults of the role. A missing part gets its default,
while a part that is set to zero is removed, so in the result a missing part means "none".
A group without settings of its own gets the very object of its role, and the defaults are
written into that object: the loop over the groups completes it once for each such group, and
all of them see it in its last state.
-/

namespace HdfsOperator

namespace Quantity

/-- The quantity `n` thousandths. -/
def milli (n : Int) : Quantity := { value := n, scale := -3 }

/-- The quantity `n` mebibytes. -/
def mebi (n : Int) : Quantity := { value := n * 2 ^ 20, format := .binarySI }

/-- The quantity `n` gibibytes. -/
def gibi (n : Int) : Quantity := { value := n * 2 ^ 30, format := .binarySI }

end Quantity

/-- CPU settings are zero when both bounds are. -/
def CPUResource.isZero (cpu : CPUResource) : Bool := cpu.max.isZero && cpu.min.isZero

/-- Memory settings are zero when the limit is. -/
def MemoryResource.isZero (memory : MemoryResource) : Bool := memory.limit.isZero

/-- The resources in the settings of a role or of a role group. -/
def ConfigSpec.resources (cfg : ConfigSpec) : Option ResourcesSpec :=
  cfg.roleGroupConfigSpec.bind RoleGroupConfigSpec.resources

/-- The CPU settings of a role or of a role group. -/
def ConfigSpec.cpu (cfg : ConfigSpec) : Option CPUResource := cfg.resources.bind ResourcesSpec.cpu

/-- The memory settings of a role or of a role group. -/
def ConfigSpec.memory (cfg : ConfigSpec) : Option MemoryResource :=
  cfg.resources.bind ResourcesSpec.memory

/-- The size of the data volume in the settings of a role or of a role group. -/
def ConfigSpec.storage (cfg : ConfigSpec) : Option StorageResource :=
  cfg.resources.bind ResourcesSpec.storage

/-- The log settings of a role or of a role group. -/
def ConfigSpec.logging (cfg : ConfigSpec) : Option LoggingSpec :=
  cfg.roleGroupConfigSpec.bind RoleGroupConfigSpec.logging

/-- The default resources of a role. -/
def getContainerResource : Role → ResourcesSpec
  | .nameNode =>
    { cpu := some { min := .milli 300, max := .milli 1000 }
      memory := some { limit := .mebi 1024 }
      storage := some { capacity := .gibi 1 } }
  | .dataNode =>
    { cpu := some { min := .milli 100, max := .milli 400 }
      memory := some { limit := .mebi 512 }
      storage := some { capacity := .gibi 2 } }
  | .journalNode =>
    { cpu := some { min := .milli 100, max := .milli 400 }
      memory := some { limit := .mebi 512 }
      storage := some { capacity := .gibi 1 } }

/-- The listener class of ports that are reached from inside the cluster. -/
def clusterInternal : String := "cluster-internal"

/-- The default settings of a role. -/
structure RoleNodeConfig where
  resources : ResourcesSpec
  listenerClass : String

/-- The default settings of each role. -/
def defaultRoleConfig : Role → RoleNodeConfig
  | .nameNode => ⟨getContainerResource .nameNode, clusterInternal⟩
  | .dataNode => ⟨getContainerResource .dataNode, clusterInternal⟩
  | .journalNode => ⟨getContainerResource .journalNode, ""⟩

namespace RoleNodeConfig

/-- The resources after the defaults were filled in. -/
def mergeResources (n : RoleNodeConfig) : Option ResourcesSpec → ResourcesSpec
  | none => n.resources
  | some mergedResource =>
    let resourceRes : ResourcesSpec :=
      -- The new value replaces the one that was given, with its storage.
      if mergedResource.cpu = none ∧ mergedResource.memory = none then
        { cpu := none, memory := none }
      else
        { mergedResource with
          cpu := mergePart CPUResource.isZero n.resources.cpu mergedResource.cpu
          memory := mergePart MemoryResource.isZero n.resources.memory mergedResource.memory }
    if mergedResource.storage = none then { resourceRes with storage := n.resources.storage }
    else resourceRes

/-- Fills in the defaults. -/
def mergeDefaultConfig (n : RoleNodeConfig) (mergedCfg : ConfigSpec) : ConfigSpec :=
  let spec := mergedCfg.roleGroupConfigSpec.getD {}
  { roleGroupConfigSpec := some { spec with resources := some (n.mergeResources spec.resources) }
    listenerClass :=
      if mergedCfg.listenerClass = none ∧ n.listenerClass ≠ "" then some n.listenerClass
      else mergedCfg.listenerClass }

variable (n : RoleNodeConfig) (cfg : ConfigSpec)

@[simp] theorem mergeResources_none : n.mergeResources none = n.resources := rfl

/-- Without CPU and memory settings, only the storage can be set afterwards. -/
theorem mergeResources_of_unset {m : ResourcesSpec} (hcpu : m.cpu = none)
    (hmemory : m.memory = none) :
    n.mergeResources (some m) =
      { storage := if m.storage = none then n.resources.storage else none } := by
  cases hstorage : m.storage with
  | none => simp [mergeResources, hcpu, hmemory, hstorage]
  | some s => simp [mergeResources, hcpu, hmemory, hstorage]

/-- With CPU or memory settings, each part is merged on its own. -/
theorem mergeResources_of_set {m : ResourcesSpec} (h : ¬(m.cpu = none ∧ m.memory = none)) :
    n.mergeResources (some m) =
      { cpu := mergePart CPUResource.isZero n.resources.cpu m.cpu
        memory := mergePart MemoryResource.isZero n.resources.memory m.memory
        storage := m.storage.or n.resources.storage } := by
  cases hstorage : m.storage with
  | none => simp [mergeResources, h, hstorage]
  | some s => simp [mergeResources, h, hstorage]

/-- After the merge the common part of the config is there, with resources. -/
theorem mergeDefaultConfig_roleGroupConfigSpec :
    (n.mergeDefaultConfig cfg).roleGroupConfigSpec =
      some { resources := some (n.mergeResources cfg.resources), logging := cfg.logging } := by
  cases h : cfg.roleGroupConfigSpec with
  | none => simp [mergeDefaultConfig, ConfigSpec.resources, ConfigSpec.logging, h]
  | some spec => simp [mergeDefaultConfig, ConfigSpec.resources, ConfigSpec.logging, h]

@[simp] theorem mergeDefaultConfig_resources :
    (n.mergeDefaultConfig cfg).resources = some (n.mergeResources cfg.resources) := by
  rw [ConfigSpec.resources, mergeDefaultConfig_roleGroupConfigSpec]
  rfl

/-- The merge leaves the logging settings. -/
@[simp] theorem mergeDefaultConfig_logging :
    (n.mergeDefaultConfig cfg).logging = cfg.logging := by
  rw [ConfigSpec.logging, mergeDefaultConfig_roleGroupConfigSpec]
  rfl

/-- The listener class is filled in once. -/
theorem mergeDefaultConfig_listenerClass_twice :
    (n.mergeDefaultConfig (n.mergeDefaultConfig cfg)).listenerClass =
      (n.mergeDefaultConfig cfg).listenerClass := by
  by_cases h : cfg.listenerClass = none ∧ n.listenerClass ≠ ""
  · simp [mergeDefaultConfig, h]
  · simp [mergeDefaultConfig, h]

/-- Every default is set, and no default is zero. -/
theorem defaultRoleConfig_resources (r : Role) :
    ∃ cpu memory storage,
      (defaultRoleConfig r).resources = ⟨some cpu, some memory, some storage⟩ ∧
        cpu.isZero = false ∧ memory.isZero = false := by
  cases r with
  | nameNode => exact ⟨_, _, _, rfl, by decide, by decide⟩
  | dataNode => exact ⟨_, _, _, rfl, by decide, by decide⟩
  | journalNode => exact ⟨_, _, _, rfl, by decide, by decide⟩

end RoleNodeConfig

/-- The settings of a role group of the role `r` after the defaults were filled in. -/
def completed (r : Role) (cfg : ConfigSpec) : ConfigSpec :=
  (defaultRoleConfig r).mergeDefaultConfig cfg

/-- How the operator framework merges the settings of a role with those of a role group when both
are there. The result is an object of its own. -/
abbrev MergeConfig := ConfigSpec → ConfigSpec → Except String ConfigSpec

/-- The settings of a role merged with those of a role group: a side that is missing leaves the
object of the other. -/
def mergeObject (merge : MergeConfig) :
    Option ConfigSpec → Option ConfigSpec → Except String (Option ConfigSpec)
  | role, none => .ok role
  | none, some group => .ok (some group)
  | some role, some group => (merge role group).map some

/-- Where the settings of a registered role group are. -/
inductive Registered
  /-- In the object of the role. -/
  | shared
  | own (config : ConfigSpec)
  deriving DecidableEq

/-- The settings of a role and of the role groups that have been registered. -/
structure Registration where
  config : Option ConfigSpec
  roleGroups : GoMap Registered := ∅

namespace Registration

/-- Registers one role group: its settings are merged, and then completed in place. -/
def step (merge : MergeConfig) (r : Role) (s : Registration) (e : String × RoleGroupSpec) :
    Go Registration :=
  match mergeObject merge s.config e.2.config with
  | .error err => .error (.error err)
  | .ok mergedConfig =>
    let config := completed r (mergedConfig.getD {})
    -- Without settings of the group the merged object is that of the role.
    if s.config.isSome ∧ e.2.config = none then
      return ⟨some config, s.roleGroups.insert e.1 .shared⟩
    else return ⟨s.config, s.roleGroups.insert e.1 (.own config)⟩

/-- The settings that a registered role group is built with. -/
def settings (s : Registration) (g : String) : Option ConfigSpec :=
  (s.roleGroups.lookup g).bind fun
    | .shared => s.config
    | .own config => some config

end Registration

/-- The loop over the role groups of a role `r`. -/
def RoleSpec.registerResources (merge : MergeConfig) (r : Role) (spec : RoleSpec)
    (o : RangeOrder) : Go Registration :=
  (spec.roleGroups.range o).foldlM (Registration.step merge r) { config := spec.config }

/-- The settings of the role group `g` of the role `r`, once all groups have been registered. -/
def HdfsCluster.registeredConfig (c : HdfsCluster) (merge : MergeConfig) (r : Role)
    (o : RangeOrder) (g : String) : Go ConfigSpec := do
  let spec ← deref (c.role r)
  let s ← spec.registerResources merge r o
  deref (s.settings g)

/-- The number of role groups without settings of their own. -/
def RoleSpec.unsetCount (spec : RoleSpec) : Nat :=
  spec.roleGroups.entries.countP fun e => e.2.config.isNone

/-- The number of those that the loop visits before the role group `g`. -/
def RoleSpec.unsetBefore (spec : RoleSpec) (o : RangeOrder) (g : String) : Nat :=
  ((spec.roleGroups.range o).takeWhile fun e => e.1 != g).countP fun e => e.2.config.isNone

/-- How often the settings of the role have been completed before those that the role group `g` ends
up with are completed for the last time. -/
def RoleSpec.earlierRounds (spec : RoleSpec) (o : RangeOrder) (g : String)
    (group : RoleGroupSpec) : Nat :=
  if group.config = none then spec.unsetCount - 1 else spec.unsetBefore o g

namespace Registration

variable {merge : MergeConfig} {r : Role} {s s' : Registration} {e : String × RoleGroupSpec}
  {l : List (String × RoleGroupSpec)}

/-- What one step does: it completes the object of the role, or makes one for the group. -/
theorem step_cases (h : step merge r s e = .ok s') :
    (∃ role, s.config = some role ∧ e.2.config = none ∧
      s' = ⟨some (completed r role), s.roleGroups.insert e.1 .shared⟩) ∨
    ∃ merged, mergeObject merge s.config e.2.config = .ok merged ∧
      ¬(s.config.isSome ∧ e.2.config = none) ∧
      s' = ⟨s.config, s.roleGroups.insert e.1 (.own (completed r (merged.getD {})))⟩ := by
  unfold step at h
  split at h
  · cases h
  · next merged hmerged =>
    split_ifs at h with hshared
    · obtain ⟨role, hrole⟩ := Option.isSome_iff_exists.mp hshared.1
      rw [hrole, hshared.2, mergeObject] at hmerged
      cases hmerged
      cases h
      exact .inl ⟨role, hrole, hshared.2, rfl⟩
    · cases h
      exact .inr ⟨merged, hmerged, hshared, rfl⟩

/-- A step completes the object of the role exactly when the group has no settings. -/
theorem step_config (h : step merge r s e = .ok s') :
    s'.config = s.config.map (completed r)^[if e.2.config.isNone then 1 else 0] := by
  rcases step_cases h with ⟨role, hrole, hunset, rfl⟩ | ⟨merged, -, hown, rfl⟩
  · rw [hrole, hunset]
    rfl
  · cases hconfig : s.config with
    | none => rfl
    | some role =>
      have hset : e.2.config ≠ none := fun hunset => hown ⟨by rw [hconfig]; rfl, hunset⟩
      rw [Option.isNone_eq_false_iff.mpr (Option.isSome_iff_ne_none.mpr hset)]
      rfl

/-- A step leaves the other groups where they are. -/
theorem step_lookup (h : step merge r s e = .ok s') {g : String} (hg : g ≠ e.1) :
    s'.roleGroups.lookup g = s.roleGroups.lookup g := by
  rcases step_cases h with ⟨role, -, -, rfl⟩ | ⟨merged, -, -, rfl⟩
  · exact AList.lookup_insert_ne hg
  · exact AList.lookup_insert_ne hg

/-- A run completes the object of the role once for each group without settings. -/
theorem run_config (h : l.foldlM (step merge r) s = .ok s') :
    s'.config = s.config.map (completed r)^[l.countP fun e => e.2.config.isNone] := by
  induction l generalizing s with
  | nil =>
    cases h
    simp
  | cons e l ih =>
    rw [List.foldlM_cons] at h
    obtain ⟨s₁, hstep, hrun⟩ := Go.bind_eq_ok.mp h
    rw [ih hrun, step_config hstep, Option.map_map, ← Function.iterate_add, List.countP_cons]

/-- A run leaves the groups that it does not visit where they are. -/
theorem run_lookup (h : l.foldlM (step merge r) s = .ok s') {g : String}
    (hg : g ∉ l.map Prod.fst) : s'.roleGroups.lookup g = s.roleGroups.lookup g := by
  induction l generalizing s with
  | nil =>
    cases h
    rfl
  | cons e l ih =>
    rw [List.map_cons, List.mem_cons, not_or] at hg
    rw [List.foldlM_cons] at h
    obtain ⟨s₁, hstep, hrun⟩ := Go.bind_eq_ok.mp h
    rw [ih hrun hg.2, step_lookup hstep hg.1]

/-- Merging with a side that is missing succeeds. -/
theorem mergeObject_ok (hmerge : ∀ role group, ∃ m, merge role group = .ok m)
    (role group : Option ConfigSpec) : ∃ merged, mergeObject merge role group = .ok merged := by
  cases group with
  | none => exact ⟨role, by cases role <;> rfl⟩
  | some group =>
    cases role with
    | none => exact ⟨some group, rfl⟩
    | some role =>
      obtain ⟨m, hm⟩ := hmerge role group
      exact ⟨some m, by rw [mergeObject, hm]; rfl⟩

/-- A run succeeds when every merge does. -/
theorem run_ok (hmerge : ∀ role group, ∃ m, merge role group = .ok m)
    (l : List (String × RoleGroupSpec)) (s : Registration) :
    ∃ s', l.foldlM (step merge r) s = .ok s' := by
  induction l generalizing s with
  | nil => exact ⟨s, rfl⟩
  | cons e l ih =>
    obtain ⟨s₁, hstep⟩ : ∃ s₁, step merge r s e = .ok s₁ := by
      obtain ⟨merged, hmerged⟩ := mergeObject_ok hmerge s.config e.2.config
      unfold step
      rw [hmerged]
      dsimp only
      split_ifs
      · exact ⟨_, rfl⟩
      · exact ⟨_, rfl⟩
    obtain ⟨s', hrun⟩ := ih s₁
    exact ⟨s', by rw [List.foldlM_cons, hstep]; exact hrun⟩

end Registration

end HdfsOperator
