import HdfsOperator.Models.Cluster

/-!
# The component registry

`populateClusterComponents` copies the role groups of the three roles into maps that the
generators read. The maps are filled by loops over the role group maps of the resource,
and every later lookup sees exactly what `HdfsCluster.component` says, in whatever order
the loops ran.
-/

namespace HdfsOperator

/-- What the registry holds about a role group. -/
structure ComponentInfo where
  groupName : String
  replicas : Int32
  roleGroupInfo : RoleGroupInfo
  deriving DecidableEq

/-- The registry of all role groups. -/
structure ClusterComponentsInfo where
  nameNode : GoMap ComponentInfo := ∅
  dataNode : GoMap ComponentInfo := ∅
  journalNode : GoMap ComponentInfo := ∅

/-- The part of the registry for one role. -/
def ClusterComponentsInfo.role (info : ClusterComponentsInfo) : Role → GoMap ComponentInfo
  | .nameNode => info.nameNode
  | .dataNode => info.dataNode
  | .journalNode => info.journalNode

/-- The entry that is made for one role group. -/
def componentInfo (clusterName : String) (r : Role) (groupName : String) (spec : RoleGroupSpec) :
    Go ComponentInfo := do
  let replicas ← deref spec.replicas
  return ⟨groupName, replicas, ⟨clusterName, r.text, groupName⟩⟩

/-- The loop over the role groups of one role. -/
def populateRole (clusterName : String) (r : Role) (o : RangeOrder) :
    Option RoleSpec → GoMap ComponentInfo → Go (GoMap ComponentInfo)
  | some spec, m => GoMap.collectM (componentInfo clusterName r) (spec.roleGroups.range o) m
  | none, m => .ok m

/-- Filling a registry from the resource, with an iteration order for the loop of each role. -/
def populateClusterComponents (instance' : HdfsCluster) (componentsInfo : ClusterComponentsInfo)
    (clusterName : String) (o : Role → RangeOrder) : Go ClusterComponentsInfo := do
  let nameNode ← populateRole clusterName .nameNode (o .nameNode) instance'.nameNode
    componentsInfo.nameNode
  let dataNode ← populateRole clusterName .dataNode (o .dataNode) instance'.dataNode
    componentsInfo.dataNode
  let journalNode ← populateRole clusterName .journalNode (o .journalNode) instance'.journalNode
    componentsInfo.journalNode
  return ⟨nameNode, dataNode, journalNode⟩

/-- The registry that `RegisterResources` makes for a cluster. -/
def clusterComponents (c : HdfsCluster) (o : Role → RangeOrder) : Go ClusterComponentsInfo :=
  populateClusterComponents c {} c.name.val o

/-- The loop that adds up the replicas of the entries with a given group name. -/
def totalReplicas (m : GoMap ComponentInfo) (groupName : String) (o : RangeOrder) : Int32 :=
  (m.range o).foldl
    (fun total e => if e.2.groupName = groupName then total + e.2.replicas else total) 0

namespace ClusterComponentsInfo

/-- The replicas of the NameNode groups with a given name. -/
def getNameNodeReplicas (c : ClusterComponentsInfo) (groupName : String) (o : RangeOrder) :
    Int32 := totalReplicas c.nameNode groupName o

/-- The service names of all JournalNode groups. -/
def getJournalNodeServiceNames (c : ClusterComponentsInfo) (o : RangeOrder) : List String :=
  (c.journalNode.range o).map fun e => e.2.roleGroupInfo.getFullName

/-- The JournalNode services with the journal port. -/
def getJournalNodeServicesForSharedEdits (c : ClusterComponentsInfo) (o : RangeOrder) :
    List String :=
  (c.getJournalNodeServiceNames o).map fun serviceName => serviceName ++ ":8485"

end ClusterComponentsInfo

/-- The entry of a role group in a filled registry. -/
def HdfsCluster.component (c : HdfsCluster) (r : Role) (g : String) : Option ComponentInfo :=
  (c.groups r).lookup g |>.bind fun s => s.replicas.map fun n =>
    ⟨g, n, ⟨c.name.val, r.text, g⟩⟩

/-- The registry holds the role groups of the cluster. -/
def ClusterComponentsInfo.Populated (info : ClusterComponentsInfo) (c : HdfsCluster) : Prop :=
  ∀ r g, (info.role r).lookup g = c.component r g

/-- The replica counts of a role are all set. -/
def HdfsCluster.ReplicasSet (c : HdfsCluster) (r : Role) : Prop :=
  ∀ g s, (c.groups r).lookup g = some s → s.replicas ≠ none

/-- A replica count that is not negative is set. -/
theorem HdfsCluster.Sized.replicasSet {c : HdfsCluster} {r : Role} (h : c.Sized r) :
    c.ReplicasSet r := by
  intro g s hs hnone
  obtain ⟨n, hn, -⟩ := h g s hs
  rw [hn] at hnone
  cases hnone

/-- The replica counts of a small cluster are those that it was made from. -/
private theorem ofReplicas_lookup {clusterConfig : ClusterConfigSpec}
    {nn dn jn : List (String × Int32)} {r : Role} {g : String} {s : RoleGroupSpec}
    (h : ((HdfsCluster.ofReplicas clusterConfig nn dn jn).groups r).lookup g = some s) :
    ∃ e ∈ nn ++ dn ++ jn, s.replicas = some e.2 := by
  obtain ⟨l, hl, hsub⟩ : ∃ l : List (String × Int32),
      (HdfsCluster.ofReplicas clusterConfig nn dn jn).groups r =
        .ofList (l.map fun e => (e.1, { replicas := some e.2 })) ∧ l ⊆ nn ++ dn ++ jn := by
    cases r with
    | nameNode => exact ⟨nn, rfl, by simp⟩
    | dataNode => exact ⟨dn, rfl, by simp⟩
    | journalNode => exact ⟨jn, rfl, by simp⟩
  rw [hl] at h
  obtain ⟨e, he, hes⟩ := List.mem_map.mp (GoMap.mem_of_lookup_ofList h)
  exact ⟨e, hsub he, by rw [← (Prod.mk.inj hes).2]⟩

theorem HdfsCluster.ofReplicas_replicasSet (clusterConfig : ClusterConfigSpec)
    (nn dn jn : List (String × Int32)) (r : Role) :
    (HdfsCluster.ofReplicas clusterConfig nn dn jn).ReplicasSet r := by
  intro g s hs
  obtain ⟨e, -, he⟩ := ofReplicas_lookup hs
  rw [he]
  exact Option.some_ne_none _

/-- A small cluster has replica counts that are not negative if it was made from such. -/
theorem HdfsCluster.ofReplicas_sized (clusterConfig : ClusterConfigSpec)
    {nn dn jn : List (String × Int32)} (h : ∀ e ∈ nn ++ dn ++ jn, 0 ≤ e.2.toInt) (r : Role) :
    (HdfsCluster.ofReplicas clusterConfig nn dn jn).Sized r := by
  intro g s hs
  obtain ⟨e, he, hr⟩ := ofReplicas_lookup hs
  exact ⟨e.2, hr, h e he⟩

/-- What is recorded about a role group with a replica count. -/
theorem HdfsCluster.component_eq_some {c : HdfsCluster} {r : Role} {g : String}
    {i : ComponentInfo} : c.component r g = some i ↔
      ∃ s n, (c.groups r).lookup g = some s ∧ s.replicas = some n ∧
        i = ⟨g, n, ⟨c.name.val, r.text, g⟩⟩ := by
  simp only [HdfsCluster.component, Option.bind_eq_some_iff, Option.map_eq_some_iff]
  constructor
  · rintro ⟨s, hs, n, hn, rfl⟩
    exact ⟨s, n, hs, hn, rfl⟩
  · rintro ⟨s, n, hs, hn, rfl⟩
    exact ⟨s, hs, n, hn, rfl⟩

/-- The record of a role group needs its replica count. -/
theorem componentInfo_eq_ok {clusterName g : String} {r : Role} {s : RoleGroupSpec}
    {i : ComponentInfo} : componentInfo clusterName r g s = .ok i ↔
      ∃ n, s.replicas = some n ∧ i = ⟨g, n, ⟨clusterName, r.text, g⟩⟩ := by
  rw [componentInfo, Go.bind_eq_ok]
  refine exists_congr fun n => and_congr deref_eq_ok ⟨fun h => (Except.ok.inj h).symm, ?_⟩
  rintro rfl
  rfl

/-- A role that is not set has no groups to visit. -/
private theorem populateRole_eq (c : HdfsCluster) (r : Role) (o : RangeOrder) :
    populateRole c.name.val r o (c.role r) ∅ =
      GoMap.collectM (componentInfo c.name.val r) ((c.groups r).range o) ∅ := by
  unfold HdfsCluster.groups
  cases c.role r with
  | some spec => rfl
  | none =>
    rw [roleGroupsOf, GoMap.range_empty]
    rfl

/-- The loop of one role stores the entry of every role group. -/
theorem populateRole_lookup {c : HdfsCluster} {r : Role} {o : RangeOrder}
    {m : GoMap ComponentInfo} (h : populateRole c.name.val r o (c.role r) ∅ = .ok m)
    (g : String) : m.lookup g = c.component r g := by
  rw [populateRole_eq] at h
  obtain ⟨hvisited, hother⟩ := GoMap.collectM_lookup (GoMap.range_keys_nodup _ o) h
  cases hg : (c.groups r).lookup g with
  | none =>
    have hnot : g ∉ ((c.groups r).range o).map Prod.fst := by
      rintro hmem
      obtain ⟨⟨k, s⟩, hks, rfl⟩ := List.mem_map.mp hmem
      rw [GoMap.mem_range.mp hks] at hg
      cases hg
    rw [hother g hnot, HdfsCluster.component, hg]
    rfl
  | some s =>
    obtain ⟨i, hi, hm⟩ := hvisited g s (GoMap.mem_range.mpr hg)
    obtain ⟨n, hn, rfl⟩ := componentInfo_eq_ok.mp hi
    rw [hm, HdfsCluster.component, hg]
    simp [hn]

/-- All groups of a role are recorded if all replica counts are set. -/
theorem populateRole_ok {c : HdfsCluster} {r : Role} (h : c.ReplicasSet r) (o : RangeOrder) :
    ∃ m, populateRole c.name.val r o (c.role r) ∅ = .ok m := by
  rw [populateRole_eq]
  refine GoMap.collectM_ok (fun g s hgs => ?_) ∅
  obtain ⟨n, hn⟩ := Option.ne_none_iff_exists'.mp (h g s (GoMap.mem_range.mp hgs))
  exact ⟨_, componentInfo_eq_ok.mpr ⟨n, hn, rfl⟩⟩

/-- A loop that ended has found every replica count set. -/
theorem replicasSet_of_populateRole {c : HdfsCluster} {r : Role} {o : RangeOrder}
    {m : GoMap ComponentInfo} (h : populateRole c.name.val r o (c.role r) ∅ = .ok m) :
    c.ReplicasSet r := by
  rw [populateRole_eq] at h
  intro g s hs hnone
  obtain ⟨i, hi, -⟩ := (GoMap.collectM_lookup (GoMap.range_keys_nodup _ o) h).1 g s
    (GoMap.mem_range.mpr hs)
  obtain ⟨n, hn, -⟩ := componentInfo_eq_ok.mp hi
  rw [hnone] at hn
  cases hn

variable {c : HdfsCluster} {info : ClusterComponentsInfo} {o : Role → RangeOrder}

/-- The registry is made of the three roles. -/
private theorem clusterComponents_cases (h : clusterComponents c o = .ok info) (r : Role) :
    populateRole c.name.val r (o r) (c.role r) ∅ = .ok (info.role r) := by
  obtain ⟨nn, hnn, h⟩ := Go.bind_eq_ok.mp h
  obtain ⟨dn, hdn, h⟩ := Go.bind_eq_ok.mp h
  obtain ⟨jn, hjn, h⟩ := Go.bind_eq_ok.mp h
  cases h
  cases r with
  | nameNode => exact hnn
  | dataNode => exact hdn
  | journalNode => exact hjn

/-- The registry of a cluster holds its role groups, whatever the iteration orders. -/
theorem clusterComponents_populated (h : clusterComponents c o = .ok info) : info.Populated c :=
  fun r g => populateRole_lookup (clusterComponents_cases h r) g

/-- The registry can only be filled when every replica count is set. -/
theorem clusterComponents_replicasSet (h : clusterComponents c o = .ok info) (r : Role) :
    c.ReplicasSet r := replicasSet_of_populateRole (clusterComponents_cases h r)

/-- The registry is filled when every replica count is set. -/
theorem clusterComponents_ok (h : ∀ r, c.ReplicasSet r) (o : Role → RangeOrder) :
    ∃ info, clusterComponents c o = .ok info := by
  obtain ⟨nn, hnn⟩ := populateRole_ok (h .nameNode) (o .nameNode)
  obtain ⟨dn, hdn⟩ := populateRole_ok (h .dataNode) (o .dataNode)
  obtain ⟨jn, hjn⟩ := populateRole_ok (h .journalNode) (o .journalNode)
  refine ⟨⟨nn, dn, jn⟩, ?_⟩
  simp only [HdfsCluster.role] at hnn hdn hjn
  simp only [clusterComponents, populateClusterComponents, hnn, hdn, hjn, Go.ok_bind]
  rfl

/-- The only fault is a replica count that is not set. -/
private theorem populateRole_error {r : Role} {o : RangeOrder} {e : Fault}
    (h : populateRole c.name.val r o (c.role r) ∅ = .error e) : e = .panic .nilDereference := by
  rw [populateRole_eq] at h
  obtain ⟨g, s, -, hs⟩ := GoMap.collectM_error h
  cases hn : s.replicas with
  | none => simpa [componentInfo, hn, deref, eq_comm] using hs
  | some n => simp [componentInfo, hn, pure, Except.pure] at hs

/-- Filling the registry dereferences nil when a replica count is not set. -/
theorem clusterComponents_eq_error (h : ¬ ∀ r, c.ReplicasSet r) (o : Role → RangeOrder) :
    clusterComponents c o = .error (.panic .nilDereference) := by
  cases hc : clusterComponents c o with
  | ok info => exact absurd (clusterComponents_replicasSet hc) h
  | error e =>
    refine congrArg Except.error ?_
    rcases Go.bind_eq_error.mp hc with hnn | ⟨nn, -, hc⟩
    · exact populateRole_error (r := .nameNode) hnn
    rcases Go.bind_eq_error.mp hc with hdn | ⟨dn, -, hc⟩
    · exact populateRole_error (r := .dataNode) hdn
    rcases Go.bind_eq_error.mp hc with hjn | ⟨jn, -, hc⟩
    · exact populateRole_error (r := .journalNode) hjn
    cases hc

-- Group names are the keys, so at most one entry is added.
/-- The loop adds up the replicas of the groups of one name, of which there is at most one. -/
private theorem foldl_replicas {g : String} (l : List (String × ComponentInfo))
    (hn : (l.map Prod.fst).Nodup) (hname : ∀ e ∈ l, e.2.groupName = e.1) (total : Int32) :
    l.foldl (fun t e => if e.2.groupName = g then t + e.2.replicas else t) total =
      total + ((l.find? fun e => e.1 = g).map fun e => e.2.replicas).getD 0 := by
  induction l generalizing total with
  | nil => simp
  | cons e l ih =>
    rw [List.map_cons, List.nodup_cons] at hn
    rw [List.forall_mem_cons] at hname
    rw [List.foldl_cons, ih hn.2 hname.2, hname.1]
    by_cases heg : e.1 = g
    · have hnone : l.find? (fun e => e.1 = g) = none := by
        rw [List.find?_eq_none]
        intro x hx hxg
        exact hn.1 (List.mem_map.mpr ⟨x, hx, by simpa [heg] using hxg⟩)
      simp [heg, hnone]
    · simp [heg]

namespace ClusterComponentsInfo.Populated

/-- The registry has an entry for exactly the role groups of the cluster. -/
theorem keys_perm (h : info.Populated c) {r : Role} (hset : c.ReplicasSet r) :
    (info.role r).keys.Perm (c.groups r).keys := by
  rw [List.perm_ext_iff_of_nodup (info.role r).keys_nodup (c.groups r).keys_nodup]
  intro g
  rw [← AList.mem_keys, ← AList.mem_keys, ← AList.lookup_isSome, ← AList.lookup_isSome, h r g,
    HdfsCluster.component]
  cases hg : (c.groups r).lookup g with
  | none => rfl
  | some s =>
    obtain ⟨n, hn⟩ := Option.ne_none_iff_exists'.mp (hset g s hg)
    simp [hn]

/-- The JournalNode services are named after the groups, in the order of the loop. -/
theorem getJournalNodeServiceNames_eq (h : info.Populated c) (o : RangeOrder) :
    info.getJournalNodeServiceNames o =
      (o.visit info.journalNode.keys).map (c.fullName .journalNode) := by
  rw [getJournalNodeServiceNames, ← GoMap.range_keys, List.map_map]
  refine List.map_congr_left fun e he => ?_
  obtain ⟨s, n, -, -, hi⟩ := HdfsCluster.component_eq_some.mp
    ((h .journalNode e.1).symm.trans (GoMap.mem_range.mp he))
  rw [hi]
  rfl

/-- The sum over the entries with a given group name is the replica count of that group. -/
theorem totalReplicas_eq (h : info.Populated c) (r : Role) (g : String) (o : RangeOrder) :
    totalReplicas (info.role r) g o = ((c.component r g).map ComponentInfo.replicas).getD 0 := by
  have hname : ∀ e ∈ (info.role r).range o, e.2.groupName = e.1 := fun e he => by
    obtain ⟨s, n, -, -, hi⟩ := HdfsCluster.component_eq_some.mp
      ((h r e.1).symm.trans (GoMap.mem_range.mp he))
    rw [hi]
  rw [totalReplicas, foldl_replicas _ (GoMap.range_keys_nodup _ o) hname, Int32.zero_add,
    GoMap.range_find?, h r g, Option.map_map]
  rfl

end ClusterComponentsInfo.Populated

end HdfsOperator
