import HdfsOperator.Correctness.RoleGroupSite
import HdfsOperator.Models.Discovery
import HdfsOperator.Models.WaitForNameNodes

/-!
# The ids of the NameNodes

The discovery ConfigMap and the script of DataNode pods enumerate the NameNode pods of all
role groups. The `hdfs-site.xml` of a role group names the pods of one NameNode group only,
so it agrees with them exactly when all NameNode pods belong to that group.
-/

namespace HdfsOperator

open HdfsCluster

section Pods

variable {c : HdfsCluster}

/-- The names of all NameNode pods, in the order of a loop over the groups. -/
def HdfsCluster.podNames (c : HdfsCluster) (o : RangeOrder) : List String :=
  ((c.groups .nameNode).range o).flatMap fun e =>
    (List.range e.2.podCount).map (ordinalName (c.fullName .nameNode e.1))

/-- Different pods have different names. -/
theorem podName_injective (c : HdfsCluster) : Function.Injective c.podName := by
  rintro ⟨g, i⟩ ⟨g', i'⟩ h
  obtain ⟨hname, rfl⟩ := ordinalName_inj h
  obtain rfl := fullName_inj hname
  rfl

/-- The NameNode pods are the ordinals below the replica counts of the NameNode groups. -/
theorem mem_nameNodePods {p : Pod} : p ∈ c.nameNodePods ↔
    ∃ s, (c.groups .nameNode).lookup p.group = some s ∧ p.ordinal < s.podCount :=
  mem_pods

/-- Every loop over the groups enumerates the NameNode pods of the cluster. -/
theorem mem_podNames {o : RangeOrder} {x : String} :
    x ∈ c.podNames o ↔ x ∈ c.nameNodePods.map c.podName := by
  simp only [podNames, List.mem_flatMap, List.mem_map, List.mem_range]
  constructor
  · rintro ⟨⟨g, s⟩, he, i, hi, rfl⟩
    exact ⟨⟨g, i⟩, mem_nameNodePods.mpr ⟨s, GoMap.mem_range.mp he, hi⟩, rfl⟩
  · rintro ⟨p, hp, rfl⟩
    obtain ⟨s, hs, hi⟩ := mem_nameNodePods.mp hp
    exact ⟨(p.group, s), GoMap.mem_range.mpr hs, p.ordinal, hi, rfl⟩

/-- No pod is enumerated twice. -/
theorem podNames_nodup (c : HdfsCluster) (o : RangeOrder) : (c.podNames o).Nodup := by
  rw [podNames, List.nodup_flatMap]
  refine ⟨fun e _ => List.nodup_range.map (ordinalName_injective _), ?_⟩
  refine (List.pairwise_map.mp (GoMap.range_keys_nodup (c.groups .nameNode) o)).imp ?_
  intro e e' hne x hx hx'
  obtain ⟨i, -, rfl⟩ := List.mem_map.mp hx
  obtain ⟨i', -, hname⟩ := List.mem_map.mp hx'
  exact hne (fullName_inj (ordinalName_inj hname).1.symm)

/-- As many pods are enumerated as the replica counts ask for. -/
theorem length_podNames (c : HdfsCluster) (o : RangeOrder) :
    (c.podNames o).length = c.podTotal .nameNode := by
  have hperm := (GoMap.range_perm_entries (c.groups .nameNode) o).map fun e => e.2.podCount
  rw [podNames, List.length_flatMap]
  simp only [List.length_map, List.length_range]
  rw [hperm.sum_nat, List.map_map]
  rfl

/-- The order of the loop does not change which pods are named. -/
theorem podNames_perm (c : HdfsCluster) (o o' : RangeOrder) :
    (c.podNames o).Perm (c.podNames o') := by
  rw [List.perm_ext_iff_of_nodup (podNames_nodup c o) (podNames_nodup c o')]
  intro x
  rw [mem_podNames, mem_podNames]

/-- The discovery ConfigMap enumerates all NameNode pods. -/
theorem getPodNames_eq (c : HdfsCluster) (o : RangeOrder) :
    getPodNames c.name.val (c.groups .nameNode) o = c.podNames o := by
  have hname (g : String) : c.name.val ++ "-namenode-" ++ g = c.fullName .nameNode g := by
    simp only [fullName, RoleGroupInfo.getFullName, Role.text, String.append_assoc]
    rfl
  refine congrArg (List.flatMap · _) (funext fun e => ?_)
  cases hs : e.2.replicas with
  | none => simp [RoleGroupSpec.podCount, hs]
  | some n => simp only [hname, ordinals_podCount hs]

/-- The script of DataNode pods enumerates all NameNode pods, if every count is set and not
negative. -/
theorem nameNodePodNames_eq_ok {o : RangeOrder} {ids : List String} :
    nameNodePodNames c ((c.groups .nameNode).range o) = .ok ids ↔
      c.Sized .nameNode ∧ ids = c.podNames o := by
  have hsized : c.Sized .nameNode ↔ ∀ e ∈ (c.groups .nameNode).range o, e.2.Sized :=
    ⟨fun h e he => h e.1 e.2 (GoMap.mem_range.mp he),
      fun h g s hs => h (g, s) (GoMap.mem_range.mpr hs)⟩
  rw [hsized, podNames]
  clear hsized
  induction (c.groups .nameNode).range o generalizing ids with
  | nil => simp [nameNodePodNames, eq_comm]
  | cons e l ih =>
    rw [List.forall_mem_cons, List.flatMap_cons]
    constructor
    · intro h
      obtain ⟨n, hn, h⟩ := Go.bind_eq_ok.mp h
      obtain ⟨pods, hpods, h⟩ := Go.bind_eq_ok.mp h
      obtain ⟨rest, hrest, h⟩ := Go.bind_eq_ok.mp h
      obtain ⟨hpos, rfl⟩ := createPodNamesByReplicas_eq_ok.mp hpods
      obtain ⟨hall, rfl⟩ := ih.mp hrest
      have hreplicas : e.2.replicas = some n := deref_eq_ok.mp hn
      refine ⟨⟨⟨n, hreplicas, hpos⟩, hall⟩, ?_⟩
      rw [← Except.ok.inj h, ordinals_podCount hreplicas]
    · rintro ⟨⟨⟨n, hn, hpos⟩, hall⟩, rfl⟩
      have hpods : createPodNamesByReplicas n (c.fullName .nameNode e.1) = .ok _ :=
        createPodNamesByReplicas_eq_ok.mpr ⟨hpos, rfl⟩
      simp only [nameNodePodNames, hn, deref_some, Go.ok_bind, hpods, ih.mpr ⟨hall, rfl⟩,
        ordinals_podCount hn]
      rfl

/-- The ids in the script of DataNode pods. -/
theorem nameNodeIds_eq_ok {o : RangeOrder} {text : String} :
    nameNodeIds c o = .ok text ↔
      c.nameNode ≠ none ∧ c.Sized .nameNode ∧ text = " ".intercalate (c.podNames o) := by
  cases hspec : c.nameNode with
  | none => simp [nameNodeIds, hspec, deref]
  | some spec =>
    simp only [nameNodeIds, hspec, deref_some, Go.ok_bind, ← groups_nameNode hspec]
    constructor
    · intro h
      obtain ⟨ids, hids, h⟩ := Go.bind_eq_ok.mp h
      obtain ⟨hsized, rfl⟩ := nameNodePodNames_eq_ok.mp hids
      exact ⟨Option.some_ne_none _, hsized, (Except.ok.inj h).symm⟩
    · rintro ⟨-, hsized, rfl⟩
      rw [nameNodePodNames_eq_ok.mpr ⟨hsized, rfl⟩]
      rfl

/-- The discovery ConfigMap and the script of DataNode pods enumerate the same pods, as many as
the replica counts ask for, and no pod twice. -/
theorem podEnumerations_agree {spec : RoleSpec} (hspec : c.nameNode = some spec)
    (hsized : c.Sized .nameNode) (o o' : RangeOrder) :
    ∃ ids, nameNodePodNames c (spec.roleGroups.range o') = .ok ids ∧
      nameNodeIds c o' = .ok (" ".intercalate ids) ∧
      (getPodNames c.name.val spec.roleGroups o).Perm ids ∧
      (getPodNames c.name.val spec.roleGroups o).length = c.podTotal .nameNode ∧
      (getPodNames c.name.val spec.roleGroups o).Nodup ∧
      ∀ g g' i i', g ≠ g' → ordinalName (c.fullName .nameNode g) i ≠
        ordinalName (c.fullName .nameNode g') i' := by
  have hrole : c.nameNode ≠ none := by rw [hspec]; exact Option.some_ne_none _
  rw [← groups_nameNode hspec, getPodNames_eq]
  refine ⟨c.podNames o', nameNodePodNames_eq_ok.mpr ⟨hsized, rfl⟩,
    nameNodeIds_eq_ok.mpr ⟨hrole, hsized, rfl⟩, podNames_perm c o o', length_podNames c o,
    podNames_nodup c o, ?_⟩
  intro g g' i i' hne hname
  exact hne (fullName_inj (ordinalName_inj hname).1)

end Pods

/-- The ids that a document names for a cluster are exactly its NameNode pods. -/
def NamesAllPods (c : HdfsCluster) (text : String) : Prop :=
  ∃ ids : List String,
    documentValue text ("dfs.ha.namenodes." ++ c.name.val) = some (",".intercalate ids) ∧
      ∀ x, x ∈ ids ↔ x ∈ c.nameNodePods.map c.podName

/-- All NameNode pods belong to the group `g`, and XML can hold its name. -/
def OnlyGroup (c : HdfsCluster) (g : String) : Prop :=
  ∀ p ∈ c.nameNodePods, p.group = g ∧ Xml.XmlText g

section Document

variable {c : HdfsCluster} {o : RunOrders} {r : Role} {g text : String} {n : Int32}

/-- The pods of one group. -/
theorem mem_groupPodNames (hn : c.nameNodeReplicas g = some n) {x : String} :
    x ∈ (ordinals n).map (ordinalName (c.fullName .nameNode g)) ↔
      ∃ p ∈ c.nameNodePods, p.group = g ∧ c.podName p = x := by
  obtain ⟨s, hs, hr⟩ := Option.bind_eq_some_iff.mp hn
  rw [ordinals_podCount hr, List.mem_map]
  constructor
  · rintro ⟨i, hi, rfl⟩
    exact ⟨⟨g, i⟩, mem_nameNodePods.mpr ⟨s, hs, List.mem_range.mp hi⟩, rfl, rfl⟩
  · rintro ⟨p, hp, rfl, rfl⟩
    obtain ⟨s', hs', hi⟩ := mem_nameNodePods.mp hp
    obtain rfl : s = s' := Option.some.inj (hs.symm.trans hs')
    exact ⟨p.ordinal, List.mem_range.mpr hi, rfl⟩

/-- XML can hold the name of a pod exactly when it can hold the name of its group. -/
theorem xmlText_podName_iff (p : Pod) : Xml.XmlText (c.podName p) ↔ Xml.XmlText p.group := by
  constructor
  · intro h ch hch
    refine h ch ?_
    simp [podName, ordinalName, fullName, RoleGroupInfo.getFullName, hch]
  · intro h
    have hrole : Xml.XmlText Role.nameNode.text := by decide
    have hfull : Xml.XmlText (c.fullName .nameNode p.group) :=
      (((c.name.text.plainText.xmlText.append (by decide)).append hrole).append
        (by decide)).append h
    exact (hfull.append (by decide)).append (dnsText_decimal p.ordinal).plainText.xmlText

theorem podName_ne_empty (p : Pod) : c.podName p ≠ "" := by
  simp [podName, ordinalName]

/-- The names in a document are all NameNode pods only if no other group has a pod. -/
theorem onlyGroup_of_namesAllPods (h : c.hdfsSite o r g = .ok text) (hall : NamesAllPods c text) :
    OnlyGroup c g := by
  obtain ⟨n, hn, -, hvalue⟩ := documentValue_hosts h
  obtain ⟨ids, hids, hmem⟩ := hall
  have hjoin := Option.some.inj (hvalue.symm.trans hids)
  -- The text has just the length of the pods of the group, so there is no room for another pod.
  have hsub : ids ⊆ (ordinals n).map (ordinalName (c.fullName .nameNode g)) := by
    refine subset_of_length_intercalate_le (show ",".length = 1 from rfl)
      (List.nodup_range.map (ordinalName_injective _)) (fun x hx => ?_) (fun x hx => ?_) ?_
    · obtain ⟨p, hp, -, rfl⟩ := (mem_groupPodNames hn).mp hx
      exact (hmem _).mpr (List.mem_map_of_mem hp)
    · obtain ⟨p, -, rfl⟩ := List.mem_map.mp ((hmem x).mp hx)
      exact podName_ne_empty p
    · rw [← hjoin, Xml.length_replaceText]
  intro p hp
  have hid := (hmem _).mpr (List.mem_map_of_mem hp)
  obtain ⟨q, -, hq, hqp⟩ := (mem_groupPodNames hn).mp (hsub hid)
  obtain rfl := podName_injective c hqp
  have hxml : Xml.XmlText (",".intercalate ids) := hjoin ▸ Xml.xmlText_replaceText _
  refine ⟨hq, ?_⟩
  rw [← hq, ← xmlText_podName_iff (c := c)]
  exact fun ch hch => hxml ch (mem_intercalate_of_mem _ hid hch)

/-- If no other group has pods, all pods are named. -/
theorem namesAllPods_of_onlyGroup (h : c.hdfsSite o r g = .ok text) (honly : OnlyGroup c g) :
    NamesAllPods c text := by
  obtain ⟨n, hn, -, hvalue⟩ := documentValue_hosts h
  have hmem (x : String) : x ∈ (ordinals n).map (ordinalName (c.fullName .nameNode g)) ↔
      x ∈ c.nameNodePods.map c.podName := by
    rw [mem_groupPodNames hn, List.mem_map]
    exact ⟨fun ⟨p, hp, _, hx⟩ => ⟨p, hp, hx⟩, fun ⟨p, hp, hx⟩ => ⟨p, hp, (honly p hp).1, hx⟩⟩
  refine ⟨_, hvalue.trans (congrArg some (Xml.replaceText_of_xmlText fun ch hch => ?_)), hmem⟩
  rcases mem_intercalate hch with hsep | ⟨x, hx, hch⟩
  · exact (by decide : Xml.XmlText ",") ch hsep
  · obtain ⟨p, hp, rfl⟩ := List.mem_map.mp ((hmem x).mp hx)
    refine (xmlText_podName_iff p).mpr ?_ ch hch
    rw [(honly p hp).1]
    exact (honly p hp).2

/-- The file of a group names all pods exactly when no other group has any. -/
theorem namesAllPods_iff (h : c.hdfsSite o r g = .ok text) : NamesAllPods c text ↔ OnlyGroup c g :=
  ⟨onlyGroup_of_namesAllPods h, namesAllPods_of_onlyGroup h⟩

end Document

/-- The ids of the discovery ConfigMap and of the script of DataNode pods are always all NameNode
pods; those of a document are all NameNode pods exactly when all pods belong to the group with the
name of the role group. -/
theorem nameNodeIds_agree_iff {c : HdfsCluster} {o : RunOrders} {r : Role} {g text : String}
    (hsized : c.Sized .nameNode) (h : c.hdfsSite o r g = .ok text) :
    (NamesAllPods c text ↔ OnlyGroup c g) ∧
      (∀ d x, x ∈ getPodNames c.name.val (c.groups .nameNode) d ↔
        x ∈ c.nameNodePods.map c.podName) ∧
      ∀ d, ∃ ids, nameNodeIds c d = .ok (" ".intercalate ids) ∧
        ∀ x, x ∈ ids ↔ x ∈ c.nameNodePods.map c.podName := by
  refine ⟨namesAllPods_iff h, fun d x => ?_, fun d => ⟨c.podNames d, ?_, fun _ => mem_podNames⟩⟩
  · rw [getPodNames_eq, mem_podNames]
  · obtain ⟨-, n, -, -, hn, -⟩ := hdfsSite_eq_ok.mp h
    obtain ⟨s, hs, -⟩ := Option.bind_eq_some_iff.mp hn
    exact nameNodeIds_eq_ok.mpr
      ⟨Option.ne_none_iff_exists'.mpr (exists_nameNode hs), hsized, rfl⟩

/-- Two NameNode groups. -/
def twoNameNodeGroups : HdfsCluster :=
  .ofReplicas {} [("b", 1), ("a", 1)] [("a", 1)] [("a", 1)]

/-- Both enumerations of the two pods, by loops in opposite orders. -/
theorem podEnumerations_agree_twoNameNodeGroups :
    ∃ ids, nameNodeIds twoNameNodeGroups .reversed = .ok (" ".intercalate ids) ∧
      (getPodNames "hdfs" (twoNameNodeGroups.groups .nameNode) .stored).Perm ids := by
  obtain ⟨ids, -, hids, hperm, -⟩ := podEnumerations_agree (c := twoNameNodeGroups) rfl
    (ofReplicas_sized _ (by decide) _) .stored .reversed
  exact ⟨ids, hids, hperm⟩

private theorem twoNameNodeGroups_hdfsSite (r : Role) :
    ∃ text, twoNameNodeGroups.hdfsSite .stored r "a" = .ok text :=
  hdfsSite_ok (n := 1) (ofReplicas_replicasSet _ _ _ _) (by decide) (by decide) (by decide) _ _

theorem nameNodeIds_agree_iff_twoNameNodeGroups :
    ∃ text, twoNameNodeGroups.hdfsSite .stored .dataNode "a" = .ok text ∧
      (NamesAllPods twoNameNodeGroups text ↔ OnlyGroup twoNameNodeGroups "a") := by
  obtain ⟨text, h⟩ := twoNameNodeGroups_hdfsSite .dataNode
  exact ⟨text, h, (nameNodeIds_agree_iff (ofReplicas_sized _ (by decide) _) h).1⟩

/-- The document of the group `a` does not name the pod of the group `b`. -/
theorem nameNodeIds_missing_pod :
    ∃ text, twoNameNodeGroups.hdfsSite .stored .nameNode "a" = .ok text ∧
      documentValue text "dfs.ha.namenodes.hdfs" = some "hdfs-namenode-a-0" ∧
      twoNameNodeGroups.nameNodePods.map twoNameNodeGroups.podName =
        ["hdfs-namenode-a-0", "hdfs-namenode-b-0"] ∧
      ¬ NamesAllPods twoNameNodeGroups text := by
  obtain ⟨text, h⟩ := twoNameNodeGroups_hdfsSite .nameNode
  obtain ⟨n, hn, -, hvalue⟩ := documentValue_hosts h
  obtain rfl : 1 = n := Option.some.inj hn
  refine ⟨text, h, hvalue, by decide, fun hall => ?_⟩
  have honly := onlyGroup_of_namesAllPods h hall ⟨"b", 0⟩ (by decide)
  exact absurd honly.1 (by decide)

end HdfsOperator
