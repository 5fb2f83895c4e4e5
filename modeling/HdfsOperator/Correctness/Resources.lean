import HdfsOperator.Models.Resources

/-!
# The identities of the objects of a cluster

Names of objects are joined with dashes, and a role group name can hold dashes itself. The
name of a role group still determines its role and its group, because the role comes first.
Only the suffix of metrics services can be mistaken for the end of a group name.
-/

namespace HdfsOperator

open HdfsCluster

/-- The objects that are written for each role group. -/
inductive Part
  | service
  | metrics
  | statefulSet
  | configMap
  deriving DecidableEq

/-- What an object is for. -/
inductive Resource
  | serviceAccount
  | ofGroup (r : Role) (g : String) (part : Part)
  | discovery
  deriving DecidableEq

/-- The kind of an object of a role group. -/
def Part.kind : Part → Kind
  | .service | .metrics => .service
  | .statefulSet => .statefulSet
  | .configMap => .configMap

/-- What follows the name of the role group in the name of an object. -/
def Part.suffix : Part → String
  | .metrics => "-metrics"
  | _ => ""

/-- The identity of an object. -/
def HdfsCluster.objectKey (c : HdfsCluster) : Resource → ObjectKey
  | .serviceAccount => ⟨.serviceAccount, c.name.val ++ "-sa"⟩
  | .ofGroup r g part => ⟨part.kind, c.fullName r g ++ part.suffix⟩
  | .discovery => ⟨.configMap, c.name.val⟩

/-- The objects of one role. -/
def HdfsCluster.roleResources (c : HdfsCluster) (r : Role) (d : RangeOrder) : List Resource :=
  ((c.groups r).range d).flatMap fun e =>
    [Part.service, .metrics, .statefulSet, .configMap].map (Resource.ofGroup r e.1)

/-- The objects of a cluster. -/
def HdfsCluster.resources (c : HdfsCluster) (o : Role → RangeOrder) : List Resource :=
  .serviceAccount ::
    ([Role.nameNode, .journalNode, .dataNode].flatMap fun r => c.roleResources r (o r)) ++
    [.discovery]

/-- No role has a group that is called like another one with the suffix of metrics services. -/
def NoMetricsClash (c : HdfsCluster) : Prop :=
  ∀ r, ∀ g ∈ (c.groups r).keys, g ++ "-metrics" ∉ (c.groups r).keys

variable {c : HdfsCluster} {o : Role → RangeOrder}

theorem DnsName.val_ne_empty (n : DnsName) : n.val ≠ "" := by
  intro h
  have hvalid := n.valid
  rw [h] at hvalid
  exact absurd hvalid (by decide)

/-- The name of the service account of a cluster. -/
theorem createServiceAccountName_eq (n : DnsName) :
    createServiceAccountName n.val = .ok (n.val ++ "-sa") := by
  have hdrop : String.ofList (n.val ++ "-").toList.dropLast = n.val := by simp
  have hne : n.val ++ "-" ≠ "" := by simp
  simp only [createServiceAccountName, ResourceNameGenerator.generateResourceName, n.val_ne_empty,
    ne_eq, not_false_eq_true, not_true_eq_false, if_true, if_false, hne, hdrop, Go.ok_bind]
  simp [pure, Except.pure, String.append_assoc]

/-- The registered identities of a role are those of its objects. -/
theorem registerRole_eq (c : HdfsCluster) (r : Role) (d : RangeOrder) :
    c.registerRole r d = (c.roleResources r d).map c.objectKey := by
  rw [registerRole, roleResources, List.map_flatMap]
  refine congrArg (List.flatMap · _) (funext fun e => ?_)
  simp [registerStandardResources, objectKey, Part.kind, Part.suffix, fullName,
    createServiceMetricsName]

/-- The registered identities are those of the objects of the cluster. -/
theorem registerResources_eq_ok {populate : Role → RangeOrder} {keys : List ObjectKey}
    (h : c.registerResources populate o = .ok keys) : keys = (c.resources o).map c.objectKey := by
  rw [registerResources, createServiceAccountName_eq, Go.ok_bind] at h
  obtain ⟨info, -, h⟩ := Go.bind_eq_ok.mp h
  rw [← Except.ok.inj h]
  simp only [registerRole_eq, resources, List.map_cons, List.map_append, List.flatMap_cons,
    List.flatMap_nil, List.append_nil, List.append_assoc, List.map_nil]
  rfl

/-- The objects of the groups of the cluster, and of no others. -/
theorem mem_resources {r : Role} {g : String} {part : Part} :
    .ofGroup r g part ∈ c.resources o ↔ g ∈ (c.groups r).keys := by
  have hkeys (d : RangeOrder) : g ∈ (c.groups r).keys ↔ ∃ s, (g, s) ∈ (c.groups r).range d := by
    rw [← (d.perm _).mem_iff, ← GoMap.range_keys, List.mem_map]
    exact ⟨fun ⟨e, he, hg⟩ => ⟨e.2, hg ▸ he⟩, fun ⟨s, hs⟩ => ⟨(g, s), hs, rfl⟩⟩
  rw [hkeys (o r)]
  cases r <;> cases part <;> simp [resources, roleResources]

/-- The objects of a role belong to its groups. -/
theorem exists_of_mem_roleResources {r : Role} {d : RangeOrder} {x : Resource}
    (h : x ∈ c.roleResources r d) : ∃ g part, x = .ofGroup r g part := by
  obtain ⟨e, -, h⟩ := List.mem_flatMap.mp h
  obtain ⟨part, -, rfl⟩ := List.mem_map.mp h
  exact ⟨e.1, part, rfl⟩

/-- A role has no object twice. -/
theorem roleResources_nodup (c : HdfsCluster) (r : Role) (d : RangeOrder) :
    (c.roleResources r d).Nodup := by
  rw [roleResources, List.nodup_flatMap]
  refine ⟨fun e _ => by simp, ?_⟩
  refine (List.pairwise_map.mp (GoMap.range_keys_nodup (c.groups r) d)).imp ?_
  intro e e' hne x hx hx'
  obtain ⟨part, -, rfl⟩ := List.mem_map.mp hx
  obtain ⟨part', -, heq⟩ := List.mem_map.mp hx'
  exact hne (Resource.ofGroup.inj heq).2.1.symm

/-- A cluster has no object twice. -/
theorem resources_nodup (c : HdfsCluster) (o : Role → RangeOrder) : (c.resources o).Nodup := by
  have hgroup {x : Resource} (hx : x ∈ [Role.nameNode, .journalNode, .dataNode].flatMap
      fun r => c.roleResources r (o r)) : ∃ r g part, x = .ofGroup r g part := by
    obtain ⟨r, -, hx⟩ := List.mem_flatMap.mp hx
    exact ⟨r, exists_of_mem_roleResources hx⟩
  rw [resources, List.cons_append, List.nodup_cons, List.nodup_append, List.nodup_flatMap]
  refine ⟨?_, ⟨fun r _ => roleResources_nodup c r (o r), ?_⟩, List.nodup_singleton _, ?_⟩
  · rw [List.mem_append, not_or]
    refine ⟨fun hx => ?_, by simp⟩
    obtain ⟨r, g, part, hx⟩ := hgroup hx
    cases hx
  · refine List.Pairwise.imp ?_ (show [Role.nameNode, .journalNode, .dataNode].Nodup by decide)
    intro r r' hne x hx hx'
    obtain ⟨g, part, rfl⟩ := exists_of_mem_roleResources hx
    obtain ⟨g', part', heq⟩ := exists_of_mem_roleResources hx'
    exact hne (Resource.ofGroup.inj heq).1
  · intro x hx y hy hxy
    obtain ⟨r, g, part, rfl⟩ := hgroup hx
    rw [List.mem_singleton.mp hy] at hxy
    cases hxy

/-- The names of the roles start differently. -/
private theorem role_incomparable : ∀ r r' : Role, r ≠ r' →
    ¬ (r.text ++ "-").toList <+: (r'.text ++ "-").toList := by
  intro r r'
  cases r <;> cases r' <;> decide

/-- A name that starts with the name of a role group determines the role and what follows it. -/
theorem fullName_append_inj {r r' : Role} {g g' s t : String}
    (h : c.fullName r g ++ s = c.fullName r' g' ++ t) : r = r' ∧ g ++ s = g' ++ t := by
  have hname (r : Role) (g s : String) :
      c.fullName r g ++ s = c.name.val ++ "-" ++ ((r.text ++ "-") ++ (g ++ s)) := by
    simp only [fullName, RoleGroupInfo.getFullName, String.append_assoc]
  rw [hname, hname, String.append_right_inj] at h
  have hr : r = r' := by
    by_contra hne
    exact append_ne_append (role_incomparable r r' hne) (role_incomparable r' r (Ne.symm hne)) _ _ h
  subst hr
  rw [String.append_right_inj] at h
  exact ⟨rfl, h⟩

/-- Nothing that belongs to a role group is called like the cluster. -/
theorem fullName_append_ne_name (r : Role) (g s : String) : c.fullName r g ++ s ≠ c.name.val := by
  intro h
  have hlength := congrArg String.length h
  simp only [fullName, RoleGroupInfo.getFullName, String.length_append] at hlength
  have hdash : "-".length = 1 := rfl
  omega

/-- Two objects of role groups share an identity only through the suffix of metrics services. -/
theorem objectKey_ofGroup_inj (hclash : NoMetricsClash c) {r r' : Role} {g g' : String}
    {part part' : Part} (hg : g ∈ (c.groups r).keys) (hg' : g' ∈ (c.groups r').keys)
    (h : c.objectKey (.ofGroup r g part) = c.objectKey (.ofGroup r' g' part')) :
    Resource.ofGroup r g part = .ofGroup r' g' part' := by
  obtain ⟨hkind, hname⟩ := ObjectKey.mk.inj h
  obtain ⟨rfl, hsuffix⟩ := fullName_append_inj hname
  rcases eq_or_ne part part' with rfl | hpart
  · rw [String.append_left_inj] at hsuffix
    rw [hsuffix]
  · -- Different objects of one kind: one of them is a metrics service.
    have hmetrics : part = .metrics ∧ part' = .service ∨ part = .service ∧ part' = .metrics := by
      cases part <;> cases part' <;> simp_all [Part.kind]
    rcases hmetrics with ⟨rfl, rfl⟩ | ⟨rfl, rfl⟩
    · have hname' : g ++ "-metrics" = g' := hsuffix.trans String.append_empty
      exact absurd (hname' ▸ hg') (hclash r g hg)
    · have hname' : g' ++ "-metrics" = g := hsuffix.symm.trans String.append_empty
      exact absurd (hname' ▸ hg) (hclash r g' hg')

/-- The objects of a cluster have distinct identities when no group name ends like the name of a
metrics service of another group. -/
theorem objectKey_injOn (hclash : NoMetricsClash c) {x y : Resource} (hx : x ∈ c.resources o)
    (hy : y ∈ c.resources o) (h : c.objectKey x = c.objectKey y) : x = y := by
  have hgroup {r : Role} {g : String} {part : Part} {z : Resource} (hz : z = .serviceAccount ∨
      z = .discovery) : c.objectKey (.ofGroup r g part) ≠ c.objectKey z := by
    intro hkey
    obtain ⟨hkind, hname⟩ := ObjectKey.mk.inj hkey
    rcases hz with rfl | rfl
    · cases part <;> cases hkind
    · exact fullName_append_ne_name r g _ hname
  cases x with
  | ofGroup r g part =>
    cases y with
    | ofGroup r' g' part' =>
      exact objectKey_ofGroup_inj hclash (mem_resources.mp hx) (mem_resources.mp hy) h
    | serviceAccount => exact absurd h (hgroup (.inl rfl))
    | discovery => exact absurd h (hgroup (.inr rfl))
  | serviceAccount =>
    cases y with
    | ofGroup r g part => exact absurd h.symm (hgroup (.inl rfl))
    | serviceAccount => rfl
    | discovery => cases (ObjectKey.mk.inj h).1
  | discovery =>
    cases y with
    | ofGroup r g part => exact absurd h.symm (hgroup (.inr rfl))
    | serviceAccount => cases (ObjectKey.mk.inj h).1
    | discovery => rfl

/-- The metrics service of a group and the service of a group that is called like it. -/
theorem objectKey_metrics (r : Role) (g : String) :
    c.objectKey (.ofGroup r g .metrics) = c.objectKey (.ofGroup r (g ++ "-metrics") .service) := by
  simp only [objectKey, Part.kind, Part.suffix, fullName, RoleGroupInfo.getFullName,
    String.append_assoc, String.append_empty]

/-- The registered objects have distinct kinds and names exactly when no role has two groups of
which one is called like the other with the suffix of metrics services. -/
theorem registerResources_nodup_iff {populate : Role → RangeOrder} {keys : List ObjectKey}
    (h : c.registerResources populate o = .ok keys) : keys.Nodup ↔ NoMetricsClash c := by
  rw [registerResources_eq_ok h, List.nodup_map_iff_inj_on (resources_nodup c o)]
  constructor
  · intro hinj r g hg hclash
    have hsame := hinj _ (mem_resources.mpr hg) _ (mem_resources.mpr hclash) (objectKey_metrics r g)
    cases (Resource.ofGroup.inj hsame).2.2
  · intro hclash x hx y hy hkey
    exact objectKey_injOn hclash hx hy hkey

/-- Two DataNode groups of which one is called like the metrics service of the other. -/
def clashingGroups : HdfsCluster :=
  .ofReplicas {} [("default", 1)] [("default", 1), ("default-metrics", 1)] [("default", 1)]

private theorem clashingGroups_registerResources :
    ∃ keys, clashingGroups.registerResources (fun _ => .stored) (fun _ => .stored) = .ok keys := by
  obtain ⟨info, hinfo⟩ := clusterComponents_ok (c := clashingGroups)
    (ofReplicas_replicasSet _ _ _ _) fun _ => .stored
  refine ⟨_, Go.bind_eq_ok.mpr ⟨_, createServiceAccountName_eq _, Go.bind_eq_ok.mpr
    ⟨info, hinfo, rfl⟩⟩⟩

theorem registerResources_nodup_iff_clashingGroups :
    ∃ keys, clashingGroups.registerResources (fun _ => .stored) (fun _ => .stored) = .ok keys ∧
      (keys.Nodup ↔ NoMetricsClash clashingGroups) := by
  obtain ⟨keys, hkeys⟩ := clashingGroups_registerResources
  exact ⟨keys, hkeys, registerResources_nodup_iff hkeys⟩

/-- The metrics service of `default` and the service of `default-metrics` are one object. -/
theorem registerResources_duplicate :
    ∃ keys, clashingGroups.registerResources (fun _ => .stored) (fun _ => .stored) = .ok keys ∧
      keys.count ⟨.service, "hdfs-datanode-default-metrics"⟩ = 2 ∧ ¬ keys.Nodup := by
  obtain ⟨keys, hkeys⟩ := clashingGroups_registerResources
  have hcount : keys.count ⟨.service, "hdfs-datanode-default-metrics"⟩ = 2 := by
    rw [registerResources_eq_ok hkeys]
    decide +kernel
  refine ⟨keys, hkeys, hcount, fun hnodup => ?_⟩
  have hle := List.nodup_iff_count_le_one.mp hnodup ⟨.service, "hdfs-datanode-default-metrics"⟩
  omega

end HdfsOperator
