import HdfsOperator.Correctness.RoleGroupSite

/-!
# The shared edit log

Every `hdfs-site.xml` names the members of the edit log quorum in one property. The members
are the services of the JournalNode groups, one for each group, in the order in which the
loop over the groups visits them. The service of a group stands for all its pods, so the
members stand for the pods one by one only when every group has a single pod, and the text
depends on the visit as soon as there are two groups.
-/

namespace HdfsOperator

open HdfsCluster

/-- How addresses lead to JournalNode pods: that of the service of a group leads to the pods of the
group. Nothing is said about other addresses. -/
def HdfsCluster.ResolvesServices (c : HdfsCluster) (leads : String → Pod → Prop) : Prop :=
  ∀ g, ∀ p ∈ c.pods .journalNode, leads (c.fullName .journalNode g ++ ":8485") p ↔ p.group = g

/-- The endpoints stand for the JournalNode pods one by one. -/
structure OnePerPod (c : HdfsCluster) (leads : String → Pod → Prop) (endpoints : List String) :
    Prop where
  nodup : endpoints.Nodup
  count : endpoints.length = c.podTotal .journalNode
  pod : ∀ e ∈ endpoints, ∃! p, p ∈ c.pods .journalNode ∧ leads e p
  endpoint : ∀ p ∈ c.pods .journalNode, ∃! e, e ∈ endpoints ∧ leads e p

/-- A text is the address of an edit log whose members stand for the JournalNode pods one by
one. -/
def JournalQuorum (c : HdfsCluster) (leads : String → Pod → Prop) (value : String) : Prop :=
  ∃ endpoints : List String, (∀ e ∈ endpoints, ';' ∉ e.toList) ∧
    value = createJournalUrl endpoints c.name.val ∧ OnePerPod c leads endpoints

/-- Every group of a role asks for one pod. -/
def HdfsCluster.OnePodEach (c : HdfsCluster) (r : Role) : Prop :=
  ∀ g s, (c.groups r).lookup g = some s → s.replicas = some 1

/-- The members can be read off an address. -/
theorem createJournalUrl_inj {a b : List String} {instanceName : String}
    (h : createJournalUrl a instanceName = createJournalUrl b instanceName) :
    ";".intercalate a = ";".intercalate b := by
  simpa [createJournalUrl] using h

/-- An address of members that XML can hold is one itself. -/
theorem xmlText_createJournalUrl {members : List String} {instanceName : String}
    (hmembers : ∀ e ∈ members, Xml.XmlText e) (hname : DnsText instanceName) :
    Xml.XmlText (createJournalUrl members instanceName) := by
  have hjoin : Xml.XmlText (";".intercalate members) := by
    intro ch hch
    rcases mem_intercalate hch with hsep | ⟨e, he, hch⟩
    · exact (by decide : Xml.XmlText ";") ch hsep
    · exact hmembers e he ch hch
  exact ((Xml.XmlText.append (by decide) hjoin).append (by decide)).append hname.plainText.xmlText

section Members

variable {c : HdfsCluster} {info : ClusterComponentsInfo} {o : RangeOrder}

/-- The members are the services of the JournalNode groups, in the order of the loop. -/
theorem sharedEdits_members (h : info.Populated c) (o : RangeOrder) :
    info.getJournalNodeServicesForSharedEdits o =
      (o.visit info.journalNode.keys).map fun j => c.fullName .journalNode j ++ ":8485" := by
  rw [ClusterComponentsInfo.getJournalNodeServicesForSharedEdits, h.getJournalNodeServiceNames_eq,
    List.map_map]
  rfl

/-- No member occurs twice. -/
theorem sharedEdits_members_nodup (h : info.Populated c) (o : RangeOrder) :
    (info.getJournalNodeServicesForSharedEdits o).Nodup := by
  rw [sharedEdits_members h]
  refine List.Nodup.map (fun a b hab => ?_)
    ((o.perm _).nodup_iff.mpr info.journalNode.keys_nodup)
  exact fullName_inj (by simpa using hab)

/-- There is one member for each JournalNode group. -/
theorem length_sharedEdits_members (h : info.Populated c) (hset : c.ReplicasSet .journalNode)
    (o : RangeOrder) :
    (info.getJournalNodeServicesForSharedEdits o).length = c.groupCount .journalNode := by
  have hkeys := ((o.perm info.journalNode.keys).trans (h.keys_perm hset)).length_eq
  rw [sharedEdits_members h, List.length_map, hkeys, groupCount, AList.keys, List.keys,
    List.length_map]

/-- A separator in a member comes from a group name. -/
theorem sharedEdits_members_separator (h : info.Populated c) (hset : c.ReplicasSet .journalNode)
    (hsep : ∀ j ∈ (c.groups .journalNode).keys, ';' ∉ j.toList) :
    ∀ e ∈ info.getJournalNodeServicesForSharedEdits o, ';' ∉ e.toList := by
  rw [sharedEdits_members h]
  intro e he
  obtain ⟨j, hj, rfl⟩ := List.mem_map.mp he
  have hj' := ((o.perm info.journalNode.keys).trans (h.keys_perm hset)).mem_iff.mp hj
  rw [String.toList_append, List.mem_append, not_or]
  exact ⟨fullName_notMem (by decide) _ (hsep j hj'), by decide⟩

/-- The members of the edit log are the services of the groups. -/
theorem mem_sharedEdits_members (h : info.Populated c) (hset : c.ReplicasSet .journalNode)
    {e : String} : e ∈ info.getJournalNodeServicesForSharedEdits o ↔
      ∃ g s, (c.groups .journalNode).lookup g = some s ∧
        e = c.fullName .journalNode g ++ ":8485" := by
  have hkeys := (o.perm info.journalNode.keys).trans (h.keys_perm hset)
  rw [sharedEdits_members h, List.mem_map]
  constructor
  · rintro ⟨g, hg, rfl⟩
    obtain ⟨s, hs⟩ := Option.isSome_iff_exists.mp
      (AList.lookup_isSome.mpr (AList.mem_keys.mpr (hkeys.mem_iff.mp hg)))
    exact ⟨g, s, hs, rfl⟩
  · rintro ⟨g, s, hs, rfl⟩
    refine ⟨g, hkeys.mem_iff.mpr (AList.mem_keys.mp ?_), rfl⟩
    exact AList.lookup_isSome.mp (Option.isSome_iff_exists.mpr ⟨s, hs⟩)

/-- A group asks for one pod exactly when its replica count is one. -/
theorem podCount_eq_one {s : RoleGroupSpec} : s.podCount = 1 ↔ s.replicas = some 1 := by
  unfold RoleGroupSpec.podCount
  cases s.replicas with
  | none => simp
  | some n =>
    rw [Option.some.injEq, ← Int32.toInt_inj]
    have hone : (1 : Int32).toInt = 1 := rfl
    simp only [hone]
    omega

/-- A role whose groups ask for one pod each has as many pods as groups. -/
theorem podTotal_of_onePodEach {r : Role} (h : c.OnePodEach r) : c.podTotal r = c.groupCount r := by
  have hone : ∀ e ∈ (c.groups r).entries, e.2.podCount = 1 := fun e he =>
    podCount_eq_one.mpr (h e.1 e.2 (AList.mem_lookup_iff.mpr he))
  rw [podTotal, List.map_congr_left hone, groupCount]
  simp

/-- A role without groups has no pods. -/
theorem podTotal_of_groupCount_eq_zero {r : Role} (h : c.groupCount r = 0) : c.podTotal r = 0 := by
  rw [podTotal, List.eq_nil_of_length_eq_zero h]
  rfl

/-- The only pod of a group that asks for one. -/
theorem mem_pods_of_onePodEach {r : Role} (h : c.OnePodEach r) {p : Pod} :
    p ∈ c.pods r ↔ ∃ s, (c.groups r).lookup p.group = some s ∧ p.ordinal = 0 := by
  rw [mem_pods]
  refine exists_congr fun s => and_congr_right fun hs => ?_
  rw [podCount_eq_one.mpr (h p.group s hs), Nat.lt_one_iff]

variable {leads : String → Pod → Prop}

/-- A group whose service stands for exactly one pod asks for one. -/
theorem podCount_of_existsUnique (hleads : c.ResolvesServices leads) {g : String}
    {s : RoleGroupSpec} (hs : (c.groups .journalNode).lookup g = some s)
    (h : ∃! p, p ∈ c.pods .journalNode ∧ leads (c.fullName .journalNode g ++ ":8485") p) :
    s.podCount = 1 := by
  obtain ⟨p, ⟨hp, hlead⟩, hunique⟩ := h
  obtain ⟨s', hs', hlt⟩ := mem_pods.mp hp
  obtain rfl := (hleads g p hp).mp hlead
  obtain rfl := Option.some.inj (hs'.symm.trans hs)
  have hpod (i : Nat) (hi : i < s'.podCount) : (⟨p.group, i⟩ : Pod) = p := by
    have hmem : (⟨p.group, i⟩ : Pod) ∈ c.pods .journalNode := mem_pods.mpr ⟨s', hs', hi⟩
    exact hunique _ ⟨hmem, (hleads p.group _ hmem).mpr rfl⟩
  -- Two ordinals below the count would be two pods behind the service.
  by_contra hne
  have hzero := hpod 0 (by omega)
  have hone := hpod 1 (by omega)
  exact absurd (hzero.trans hone.symm) (by simp)

/-- The members stand for the pods one by one exactly when every JournalNode group asks for one
pod. -/
theorem onePerPod_sharedEdits_iff (h : info.Populated c) (hset : c.ReplicasSet .journalNode)
    (hleads : c.ResolvesServices leads) (o : RangeOrder) :
    OnePerPod c leads (info.getJournalNodeServicesForSharedEdits o) ↔
      c.OnePodEach .journalNode := by
  constructor
  · intro hpods g s hs
    have hmem := (mem_sharedEdits_members (o := o) h hset).mpr ⟨g, s, hs, rfl⟩
    exact podCount_eq_one.mp (podCount_of_existsUnique hleads hs (hpods.pod _ hmem))
  · intro hone
    refine ⟨sharedEdits_members_nodup h o, ?_, fun e he => ?_, fun p hp => ?_⟩
    · rw [length_sharedEdits_members h hset, podTotal_of_onePodEach hone]
    · obtain ⟨g, s, hs, rfl⟩ := (mem_sharedEdits_members h hset).mp he
      have hmem : (⟨g, 0⟩ : Pod) ∈ c.pods .journalNode :=
        (mem_pods_of_onePodEach hone).mpr ⟨s, hs, rfl⟩
      refine ⟨⟨g, 0⟩, ⟨hmem, (hleads g _ hmem).mpr rfl⟩, ?_⟩
      rintro ⟨g', i⟩ ⟨hp, hlead⟩
      obtain ⟨-, -, rfl⟩ := (mem_pods_of_onePodEach hone).mp hp
      obtain rfl := (hleads g _ hp).mp hlead
      rfl
    · obtain ⟨s, hs, -⟩ := mem_pods.mp hp
      refine ⟨_, ⟨(mem_sharedEdits_members h hset).mpr ⟨p.group, s, hs, rfl⟩,
        (hleads p.group p hp).mpr rfl⟩, ?_⟩
      rintro e ⟨he, hlead⟩
      obtain ⟨g, -, -, rfl⟩ := (mem_sharedEdits_members h hset).mp he
      rw [(hleads g p hp).mp hlead]

/-- The written address is that of a quorum of the pods exactly when its members stand for them. -/
theorem journalQuorum_sharedEdits_iff (h : info.Populated c) (hset : c.ReplicasSet .journalNode)
    (hsep : ∀ j ∈ (c.groups .journalNode).keys, ';' ∉ j.toList) :
    JournalQuorum c leads (c.sharedEdits info o).value ↔
      OnePerPod c leads (info.getJournalNodeServicesForSharedEdits o) := by
  have hmembers := sharedEdits_members_separator (o := o) h hset hsep
  constructor
  · rintro ⟨es, hes, hurl, hpods⟩
    have hjoin := createJournalUrl_inj hurl
    rcases eq_or_ne (info.getJournalNodeServicesForSharedEdits o) [] with hnil | hnil
    · -- Without groups there are no pods, and so there are no members to read.
      have hcount : c.groupCount .journalNode = 0 := by
        rw [← length_sharedEdits_members h hset o, hnil, List.length_nil]
      have hlength := hpods.count
      rw [podTotal_of_groupCount_eq_zero hcount] at hlength
      rwa [hnil, ← List.eq_nil_of_length_eq_zero hlength]
    · rcases eq_or_ne es [] with rfl | hes'
      · -- An address without members has no colon between them.
        obtain ⟨e, he⟩ := List.exists_mem_of_ne_nil _ hnil
        obtain ⟨g, -, -, rfl⟩ := (mem_sharedEdits_members h hset).mp he
        have hcolon : ':' ∈ _ := mem_intercalate_of_mem ";" he (by simp)
        rw [hjoin] at hcolon
        cases hcolon
      · rwa [intercalate_inj rfl hmembers hes hnil hes' hjoin]
  · exact fun hpods => ⟨_, hmembers, rfl, hpods⟩

end Members

section Document

variable {c : HdfsCluster} {o : RunOrders} {r : Role} {g text : String}

/-- The property list of a written document, and the value of the shared edit log in it. -/
theorem hdfsSite_sharedEdits (h : c.hdfsSite o r g = .ok text) :
    ∃ info ps, clusterComponents c o.populate = .ok info ∧ text = encode ps ∧
      effectiveValue ps "dfs.namenode.shared.edits.dir" =
        some (c.sharedEdits info o.site.serviceNames).value := by
  obtain ⟨info, n, ps, hinfo, -, -, rfl⟩ := hdfsSite_eq_ok.mp h
  have hdirs : ∀ q ∈ NameNodeHdfsSiteXmlGenerator.makeRoleNodeDataDir,
      q.name ≠ "dfs.namenode.shared.edits.dir" := by decide
  exact ⟨info, _, hinfo, rfl, effectiveValue_of_last ps (c.sharedEdits info _) hdirs⟩

/-- The members written for the edit log of a cluster stand for its JournalNode pods one by one
exactly when every JournalNode group asks for one pod. -/
theorem sharedEdits_quorum_iff {leads : String → Pod → Prop} (hleads : c.ResolvesServices leads)
    (h : c.hdfsSite o r g = .ok text) :
    ∃ ps endpoints, text = encode ps ∧
      effectiveValue ps "dfs.namenode.shared.edits.dir" =
        some (createJournalUrl endpoints c.name.val) ∧
      (OnePerPod c leads endpoints ↔ c.OnePodEach .journalNode) ∧
      ((∀ j ∈ (c.groups .journalNode).keys, ';' ∉ j.toList) →
        (JournalQuorum c leads (createJournalUrl endpoints c.name.val) ↔
          c.OnePodEach .journalNode)) := by
  obtain ⟨info, ps, hinfo, htext, hvalue⟩ := hdfsSite_sharedEdits h
  have hpop := clusterComponents_populated hinfo
  have hset := clusterComponents_replicasSet hinfo .journalNode
  have hiff := onePerPod_sharedEdits_iff hpop hset hleads o.site.serviceNames
  exact ⟨ps, _, htext, hvalue, hiff, fun hsep =>
    (journalQuorum_sharedEdits_iff hpop hset hsep).trans hiff⟩

end Document

/-- The addresses that the code writes, each leading to the pods of its group. -/
def HdfsCluster.leadsToGroup (c : HdfsCluster) (e : String) (p : Pod) : Prop :=
  e = c.fullName .journalNode p.group ++ ":8485"

/-- These addresses lead to the pods behind the services. -/
theorem resolvesServices_leadsToGroup (c : HdfsCluster) : c.ResolvesServices c.leadsToGroup := by
  intro g p _
  constructor
  · intro h
    exact (fullName_inj (String.append_left_inj _ |>.mp h)).symm
  · rintro rfl
    rfl

/-- Two JournalNode groups with a pod each. -/
def twoJournalGroups : HdfsCluster :=
  .ofReplicas {} [("default", 2)] [("default", 1)] [("a", 1), ("b", 1)]

/-- The two services of such a cluster stand for its two pods. -/
theorem sharedEdits_quorum_iff_twoJournalGroups :
    ∃ text ps endpoints, twoJournalGroups.hdfsSite .stored .nameNode "default" = .ok text ∧
      text = encode ps ∧
      effectiveValue ps "dfs.namenode.shared.edits.dir" =
        some (createJournalUrl endpoints twoJournalGroups.name.val) ∧
      OnePerPod twoJournalGroups twoJournalGroups.leadsToGroup endpoints := by
  obtain ⟨text, h⟩ : ∃ text, twoJournalGroups.hdfsSite .stored .nameNode "default" = .ok text :=
    hdfsSite_ok (n := 2) (ofReplicas_replicasSet _ _ _ _) (by decide) (by decide) (by decide) _ _
  obtain ⟨ps, endpoints, htext, hvalue, hiff, -⟩ :=
    sharedEdits_quorum_iff (resolvesServices_leadsToGroup _) h
  refine ⟨text, ps, endpoints, h, htext, hvalue, hiff.mpr ?_⟩
  intro g s hs
  have hmem := GoMap.mem_of_lookup_ofList hs
  simp only [List.map_cons, List.map_nil, List.mem_cons, List.not_mem_nil, or_false] at hmem
  rcases hmem with hmem | hmem <;> cases hmem <;> rfl

/-- Three JournalNode pods are behind the single member of the quorum. -/
theorem sharedEdits_quorum_too_small :
    ∃ text ps, oneNameNodeGroup.hdfsSite .stored .nameNode "default" = .ok text ∧
      text = encode ps ∧ oneNameNodeGroup.podTotal .journalNode = 3 ∧
      effectiveValue ps "dfs.namenode.shared.edits.dir" =
        some "qjournal://hdfs-journalnode-default:8485/hdfs" ∧
      ¬ JournalQuorum oneNameNodeGroup oneNameNodeGroup.leadsToGroup
        "qjournal://hdfs-journalnode-default:8485/hdfs" := by
  obtain ⟨text, h⟩ : ∃ text, oneNameNodeGroup.hdfsSite .stored .nameNode "default" = .ok text :=
    hdfsSite_ok (n := 2) (ofReplicas_replicasSet _ _ _ _) (by decide) (by decide) (by decide) _ _
  obtain ⟨info, ps, hinfo, htext, hvalue⟩ := hdfsSite_sharedEdits h
  have hpop := clusterComponents_populated hinfo
  have hset := clusterComponents_replicasSet hinfo .journalNode
  have hkeys : info.journalNode.keys = ["default"] :=
    List.perm_singleton.mp (hpop.keys_perm (r := .journalNode) hset)
  have hurl : (oneNameNodeGroup.sharedEdits info RangeOrder.stored).value =
      "qjournal://hdfs-journalnode-default:8485/hdfs" := by
    rw [sharedEdits, sharedEdits_members hpop, hkeys]
    decide
  refine ⟨text, ps, h, htext, by decide, hvalue.trans (congrArg some hurl), ?_⟩
  rw [← hurl, journalQuorum_sharedEdits_iff hpop hset (by decide)]
  exact fun hpods => absurd hpods.count (by
    rw [length_sharedEdits_members hpop hset]
    decide)

section Orders

variable {c : HdfsCluster} {info info' : ClusterComponentsInfo}

/-- With at most one JournalNode group the value is the same in every run. -/
theorem sharedEdits_eq_of_groupCount_le_one (h : info.Populated c) (h' : info'.Populated c)
    (hset : c.ReplicasSet .journalNode) (hcount : c.groupCount .journalNode ≤ 1)
    (o o' : RangeOrder) : c.sharedEdits info o = c.sharedEdits info' o' := by
  have hlength : info.journalNode.entries.length ≤ 1 := by
    have hkeys := (h.keys_perm hset).length_eq
    simp only [AList.keys, List.keys, List.length_map] at hkeys
    exact le_of_eq_of_le hkeys hcount
  have hrange : info.journalNode.range o = info'.journalNode.range o' :=
    GoMap.range_eq_of_length_le_one
      (fun j => (h .journalNode j).trans (h' .journalNode j).symm) hlength o o'
  simp only [sharedEdits, ClusterComponentsInfo.getJournalNodeServicesForSharedEdits,
    ClusterComponentsInfo.getJournalNodeServiceNames, hrange]

/-- The members of the opposite visit are the members in reverse. -/
theorem sharedEdits_members_reversed (h : info.Populated c) :
    info.getJournalNodeServicesForSharedEdits RangeOrder.reversed =
      (info.getJournalNodeServicesForSharedEdits RangeOrder.stored).reverse := by
  rw [sharedEdits_members h, sharedEdits_members h, ← List.map_reverse]
  rfl

private theorem length_le_one_of_eq_reverse {l : List String} (hl : l.Nodup)
    (h : l = l.reverse) : l.length ≤ 1 := by
  by_contra hlt
  have hfirst := congrArg (fun m => m[0]?) h
  simp only [List.getElem?_reverse (show 0 < l.length by omega)] at hfirst
  rw [List.getElem?_eq_getElem (show 0 < l.length by omega),
    List.getElem?_eq_getElem (show l.length - 1 - 0 < l.length by omega)] at hfirst
  have hindex := hl.getElem_inj_iff.mp (Option.some.inj hfirst)
  omega

/-- A written address holds only characters that XML can hold, when the group names do. -/
theorem xmlText_sharedEdits (h : info.Populated c) (hset : c.ReplicasSet .journalNode)
    (hjn : ∀ j ∈ (c.groups .journalNode).keys, DnsText j) (o : RangeOrder) :
    Xml.XmlText (c.sharedEdits info o).value := by
  refine xmlText_createJournalUrl (fun e he => ?_) c.name.text
  rw [sharedEdits_members h] at he
  obtain ⟨j, hj, rfl⟩ := List.mem_map.mp he
  have hj' := ((o.perm info.journalNode.keys).trans (h.keys_perm hset)).mem_iff.mp hj
  exact (dnsText_fullName .journalNode (hjn j hj')).plainText.xmlText.append (by decide)

/-- The value of the shared edit log as it is read from the text. -/
theorem documentValue_sharedEdits (ps : List XmlNameValuePair) (o : RangeOrder) :
    documentValue (encode (ps ++ c.siteTail info o)) "dfs.namenode.shared.edits.dir" =
      some (Xml.replaceText (c.sharedEdits info o).value) := by
  have hname : (replacePair (c.sharedEdits info o)).name = "dfs.namenode.shared.edits.dir" :=
    Xml.replaceText_of_xmlText (show Xml.XmlText "dfs.namenode.shared.edits.dir" by decide)
  have hdirs : ∀ q ∈ NameNodeHdfsSiteXmlGenerator.makeRoleNodeDataDir.map replacePair,
      q.name ≠ "dfs.namenode.shared.edits.dir" := by decide +kernel
  rw [← hname] at hdirs
  rw [documentValue_encode, List.map_append, siteTail, List.map_cons, ← hname]
  exact effectiveValue_of_last _ _ hdirs

/-- The documents of a cluster are the same in every run, and all of them name the same members
of the edit log. -/
def SiteOrderIndependent (c : HdfsCluster) : Prop :=
  (∀ (r : Role) (g : String) (o o' : RunOrders), c.hdfsSite o r g = c.hdfsSite o' r g) ∧
    ∀ (r r' : Role) (g g' text text' : String) (o o' : RunOrders),
      c.hdfsSite o r g = .ok text → c.hdfsSite o' r' g' = .ok text' →
        documentValue text "dfs.namenode.shared.edits.dir" =
          documentValue text' "dfs.namenode.shared.edits.dir"

/-- With one JournalNode group the text does not depend on the order. -/
theorem hdfsSite_eq_of_groupCount_le_one (hcount : c.groupCount .journalNode ≤ 1) (r : Role)
    (g : String) (o o' : RunOrders) : c.hdfsSite o r g = c.hdfsSite o' r g := by
  by_cases hset : ∀ r, c.ReplicasSet r
  · obtain ⟨info, hinfo⟩ := clusterComponents_ok hset o.populate
    obtain ⟨info', hinfo'⟩ := clusterComponents_ok hset o'.populate
    have hpop := clusterComponents_populated hinfo
    have hpop' := clusterComponents_populated hinfo'
    simp only [hdfsSite, hinfo, hinfo', Go.ok_bind]
    cases hn : c.nameNodeReplicas g with
    | none => rw [makeHdfsSiteData_of_none hpop hn, makeHdfsSiteData_of_none hpop' hn]
    | some n =>
      rw [makeHdfsSiteData_of_some hpop hn, makeHdfsSiteData_of_some hpop' hn, siteTail, siteTail,
        sharedEdits_eq_of_groupCount_le_one hpop hpop' (hset _) hcount]
  · simp only [hdfsSite, clusterComponents_eq_error hset, Go.error_bind]

/-- With one JournalNode group all files have the same address of the shared edit log. -/
theorem documentValue_eq_of_groupCount_le_one (hcount : c.groupCount .journalNode ≤ 1)
    {r r' : Role} {g g' text text' : String} {o o' : RunOrders} (h : c.hdfsSite o r g = .ok text)
    (h' : c.hdfsSite o' r' g' = .ok text') :
    documentValue text "dfs.namenode.shared.edits.dir" =
      documentValue text' "dfs.namenode.shared.edits.dir" := by
  obtain ⟨info, _, _, hinfo, -, -, rfl⟩ := hdfsSite_eq_ok.mp h
  obtain ⟨info', _, _, hinfo', -, -, rfl⟩ := hdfsSite_eq_ok.mp h'
  rw [documentValue_sharedEdits, documentValue_sharedEdits,
    sharedEdits_eq_of_groupCount_le_one (clusterComponents_populated hinfo)
      (clusterComponents_populated hinfo') (clusterComponents_replicasSet hinfo _) hcount]

/-- Two opposite visits of more than one JournalNode group write different texts. -/
theorem groupCount_le_one_of_hdfsSite_eq {r : Role} {g text : String} {o : RunOrders}
    (hjn : ∀ j ∈ (c.groups .journalNode).keys, DnsText j)
    (h : c.hdfsSite ⟨o.populate, ⟨.stored, o.site.replicas⟩⟩ r g = .ok text)
    (h' : c.hdfsSite ⟨o.populate, ⟨.reversed, o.site.replicas⟩⟩ r g = .ok text) :
    c.groupCount .journalNode ≤ 1 := by
  obtain ⟨info, n, ps, hinfo, -, -, htext⟩ := hdfsSite_eq_ok.mp h
  obtain ⟨info', n', ps', hinfo', -, -, htext'⟩ := hdfsSite_eq_ok.mp h'
  obtain rfl : info = info' := Except.ok.inj (hinfo.symm.trans hinfo')
  have hpop := clusterComponents_populated hinfo
  have hset := clusterComponents_replicasSet hinfo .journalNode
  have hvalue : (c.sharedEdits info RangeOrder.stored).value =
      (c.sharedEdits info RangeOrder.reversed).value := by
    have hread := congrArg (documentValue · "dfs.namenode.shared.edits.dir")
      (htext.symm.trans htext')
    simp only [documentValue_sharedEdits] at hread
    rw [Xml.replaceText_of_xmlText (xmlText_sharedEdits hpop hset hjn _),
      Xml.replaceText_of_xmlText (xmlText_sharedEdits hpop hset hjn _)] at hread
    exact Option.some.inj hread
  rw [← length_sharedEdits_members hpop hset RangeOrder.stored]
  rcases eq_or_ne (info.getJournalNodeServicesForSharedEdits RangeOrder.stored) [] with hnil | hnil
  · simp [hnil]
  · have hsep (d : RangeOrder) := sharedEdits_members_separator (o := d) hpop hset
      fun j hj => (hjn j hj).notMem (by decide)
    refine length_le_one_of_eq_reverse (sharedEdits_members_nodup hpop _) ?_
    rw [← sharedEdits_members_reversed hpop]
    exact intercalate_inj rfl (hsep _) (hsep _) hnil
      (by rw [sharedEdits_members_reversed hpop]; simpa using hnil) (createJournalUrl_inj hvalue)

/-- The documents depend on the iteration orders exactly when there is more than one JournalNode
group: at most one group makes them the same in every run, and as soon as a document is written
at all, the same text in every run means that there is at most one group. -/
theorem siteOrderIndependent_iff (c : HdfsCluster) :
    (c.groupCount .journalNode ≤ 1 → SiteOrderIndependent c) ∧
      ((∃ o r g text, c.hdfsSite o r g = .ok text) →
        (∀ j ∈ (c.groups .journalNode).keys, DnsText j) →
          (SiteOrderIndependent c ↔ c.groupCount .journalNode ≤ 1)) := by
  have hsufficient (hcount : c.groupCount .journalNode ≤ 1) : SiteOrderIndependent c :=
    ⟨hdfsSite_eq_of_groupCount_le_one hcount,
      fun _ _ _ _ _ _ _ _ h h' => documentValue_eq_of_groupCount_le_one hcount h h'⟩
  refine ⟨hsufficient, ?_⟩
  rintro ⟨o, r, g, text, h⟩ hjn
  exact ⟨fun hsame => groupCount_le_one_of_hdfsSite_eq (o := o) hjn ((hsame.1 r g _ o).trans h)
    ((hsame.1 r g _ o).trans h), hsufficient⟩

end Orders

/-- Visiting the two groups in opposite orders writes two texts. -/
theorem hdfsSite_depends_on_order :
    ∃ text text', twoJournalGroups.hdfsSite .stored .nameNode "default" = .ok text ∧
      twoJournalGroups.hdfsSite ⟨fun _ => .stored, ⟨.reversed, .stored⟩⟩ .nameNode "default" =
        .ok text' ∧ text ≠ text' := by
  have hok (o : RunOrders) : ∃ text, twoJournalGroups.hdfsSite o .nameNode "default" = .ok text :=
    hdfsSite_ok (n := 2) (ofReplicas_replicasSet _ _ _ _) (by decide) (by decide) (by decide) _ _
  obtain ⟨text, h⟩ := hok .stored
  obtain ⟨text', h'⟩ := hok ⟨fun _ => .stored, ⟨.reversed, .stored⟩⟩
  refine ⟨text, text', h, h', ?_⟩
  rintro rfl
  exact absurd (groupCount_le_one_of_hdfsSite_eq (o := .stored) (by decide) h h') (by decide)

end HdfsOperator
