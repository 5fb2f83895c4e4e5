import HdfsOperator.Correctness.Discovery

/-!
# Iteration orders over the NameNode groups

The script of DataNode pods and the discovery ConfigMap list the NameNode pods in the order
in which a loop visits the role groups. Groups without pods leave no trace, so the order
shows exactly when two groups have pods.
-/

namespace HdfsOperator

open HdfsCluster

/-- All NameNode pods belong to one group. -/
def OneGroupWithPods (c : HdfsCluster) : Prop :=
  ∀ p ∈ c.nameNodePods, ∀ q ∈ c.nameNodePods, p.group = q.group

/-- Two runs give the same script, and with the same answers the same properties. -/
structure PodOrderIndependent (c : HdfsCluster) : Prop where
  script : ∀ render o o' args args', getArgs render c o = .ok args →
    getArgs render c o' = .ok args' → args = args'
  discovery : ∀ getPod getListener o o',
    makeDynamicHdfsSiteXml (steadyClient getPod getListener) c o =
      makeDynamicHdfsSiteXml (steadyClient getPod getListener) c o'

variable {c : HdfsCluster}

private theorem flatMap_filter_of_nil {α β : Type} {f : α → List β} {p : α → Bool} {l : List α}
    (h : ∀ a ∈ l, p a = false → f a = []) : (l.filter p).flatMap f = l.flatMap f := by
  induction l with
  | nil => rfl
  | cons a l ih =>
    rw [List.forall_mem_cons] at h
    cases hp : p a with
    | false => rw [List.filter_cons_of_neg (by simp [hp]), ih h.2, List.flatMap_cons, h.1 hp,
        List.nil_append]
    | true => rw [List.filter_cons_of_pos hp, List.flatMap_cons, List.flatMap_cons, ih h.2]

private theorem length_le_one_of_keys {α β : Type} {l : List (α × β)} (hl : (l.map Prod.fst).Nodup)
    (h : ∀ e ∈ l, ∀ e' ∈ l, e.1 = e'.1) : l.length ≤ 1 := by
  match l with
  | [] | [_] => simp
  | e :: e' :: l =>
    simp only [List.map_cons, List.nodup_cons, List.mem_cons, not_or] at hl
    exact absurd (h e (by simp) e' (by simp)) hl.1.1

/-- When one group has all pods, every loop enumerates them in the same order. -/
theorem podNames_eq_of_oneGroup (h : OneGroupWithPods c) (o o' : RangeOrder) :
    c.podNames o = c.podNames o' := by
  have hfilter (o : RangeOrder) : c.podNames o =
      (((c.groups .nameNode).range o).filter fun e => 0 < e.2.podCount).flatMap fun e =>
        (List.range e.2.podCount).map (ordinalName (c.fullName .nameNode e.1)) := by
    refine (flatMap_filter_of_nil fun e _ he => ?_).symm
    have hzero : e.2.podCount = 0 := by simpa using he
    rw [hzero]
    rfl
  have hlength : (((c.groups .nameNode).range o).filter fun e => 0 < e.2.podCount).length ≤ 1 := by
    refine length_le_one_of_keys ((GoMap.range_keys_nodup (c.groups .nameNode) o).sublist
      (List.filter_sublist.map _)) fun e he e' he' => ?_
    obtain ⟨he, hpos⟩ := List.mem_filter.mp he
    obtain ⟨he', hpos'⟩ := List.mem_filter.mp he'
    exact h ⟨e.1, 0⟩ (mem_nameNodePods.mpr ⟨e.2, GoMap.mem_range.mp he, by simpa using hpos⟩)
      ⟨e'.1, 0⟩ (mem_nameNodePods.mpr ⟨e'.2, GoMap.mem_range.mp he', by simpa using hpos'⟩)
  rw [hfilter o, hfilter o', eq_of_perm_of_length_le_one
    ((GoMap.range_perm (c.groups .nameNode) o o').filter _) hlength]

/-- With one group that has pods there is only one order. -/
theorem podOrderIndependent_of_oneGroup (h : OneGroupWithPods c) : PodOrderIndependent c := by
  refine ⟨fun render o o' args args' hargs hargs' => ?_, fun getPod getListener o o' => ?_⟩
  · have hids : nameNodeIds c o = nameNodeIds c o' := by
      obtain ⟨ids, hids, -⟩ := Go.bind_eq_ok.mp hargs
      obtain ⟨ids', hids', -⟩ := Go.bind_eq_ok.mp hargs'
      rw [hids, hids', (nameNodeIds_eq_ok.mp hids).2.2, (nameNodeIds_eq_ok.mp hids').2.2,
        podNames_eq_of_oneGroup h o o']
    refine Except.ok.inj (hargs.symm.trans (Eq.trans ?_ hargs'))
    rw [getArgs, hids, getArgs]
  · cases hspec : c.nameNode with
    | none =>
      simp only [makeDynamicHdfsSiteXml, hspec]
      rfl
    | some spec =>
      simp only [makeDynamicHdfsSiteXml, hspec, deref_some, Go.ok_bind, ← groups_nameNode hspec,
        getPodNames_eq, podNames_eq_of_oneGroup h o o']

/-- A loop that visits a group with pods first enumerates its first pod first. -/
theorem podNames_first {p : Pod} (hp : p ∈ c.nameNodePods) :
    ∃ l, c.podNames (.first p.group) = c.podName ⟨p.group, 0⟩ :: l := by
  obtain ⟨s, hs, hi⟩ := mem_nameNodePods.mp hp
  obtain ⟨l, hl⟩ := GoMap.range_first hs
  obtain ⟨n, hn⟩ := Nat.exists_eq_add_of_lt (Nat.zero_lt_of_lt hi)
  rw [podNames, hl, List.flatMap_cons, hn, Nat.zero_add, List.range_succ_eq_map, List.map_cons]
  exact ⟨_, rfl⟩

/-- The properties start with the ids and the web address of the first pod. -/
theorem readyClient_result {o : RangeOrder} {podName : String} {l : List String}
    (hpods : c.podNames o = podName :: l) :
    ∃ ps, makeDynamicHdfsSiteXml readyClient c o = .ok ps ∧ (propertyNames ps)[1]? =
      some (connectionName (webPort c.clusterConfig) c.name.val podName) := by
  have hdiscovery : discoveryPods c o = podName :: l := (getPodNames_eq c o).trans hpods
  obtain ⟨spec, hspec⟩ : ∃ spec, c.nameNode = some spec := by
    refine Option.ne_none_iff_exists'.mp fun hnone => ?_
    rw [discoveryPods_of_none c o hnone] at hdiscovery
    cases hdiscovery
  have hweb := readyClient_passAnswered c o (p := webPort c.clusterConfig) List.mem_cons_self
  rcases makeDynamicHdfsSiteXml_cases readyClient c o hspec with ⟨hnot, -⟩ |
    ⟨-, connections, hok, hnames⟩
  · exact absurd hweb hnot
  · refine ⟨_, hok, ?_⟩
    rw [hnames, if_pos (readyClient_passAnswered c o (by simp)), hdiscovery]
    rfl

/-- Two groups with pods are visited in either order. -/
theorem oneGroup_of_podOrderIndependent (h : PodOrderIndependent c) : OneGroupWithPods c := by
  intro p hp q hq
  obtain ⟨l, hl⟩ := podNames_first hp
  obtain ⟨l', hl'⟩ := podNames_first hq
  obtain ⟨ps, hps, hname⟩ := readyClient_result hl
  obtain ⟨ps', hps', hname'⟩ := readyClient_result hl'
  have hsame : ps = ps' := Except.ok.inj (hps.symm.trans ((h.discovery _ _ _ _).trans hps'))
  rw [hsame, hname', Option.some.injEq] at hname
  have hport := (webPort_facts c.clusterConfig).1 List.mem_cons_self
  have hpod := podName_injective c (connectionName_inj hport hport hname).2
  exact (congrArg Pod.group hpod).symm

/-- The script and the discovery ConfigMap do not depend on the iteration order exactly when all
NameNode pods belong to one group. -/
theorem podOrderIndependent_iff (c : HdfsCluster) :
    PodOrderIndependent c ↔ OneGroupWithPods c :=
  ⟨oneGroup_of_podOrderIndependent, podOrderIndependent_of_oneGroup⟩

/-- The two groups of a cluster are enumerated in opposite orders, and so are the addresses. -/
theorem podOrder_shows :
    getArgs (fun script _ => .ok script) twoNameNodeGroups .stored =
        .ok [waitScriptHead ++ "hdfs-namenode-a-0 hdfs-namenode-b-0" ++ waitScriptTail] ∧
      getArgs (fun script _ => .ok script) twoNameNodeGroups .reversed =
        .ok [waitScriptHead ++ "hdfs-namenode-b-0 hdfs-namenode-a-0" ++ waitScriptTail] ∧
      makeDynamicHdfsSiteXml readyClient twoNameNodeGroups .stored ≠
        makeDynamicHdfsSiteXml readyClient twoNameNodeGroups .reversed ∧
      ¬ PodOrderIndependent twoNameNodeGroups := by
  have hids (o : RangeOrder) : nameNodeIds twoNameNodeGroups o = .ok _ :=
    nameNodeIds_eq_ok.mpr ⟨Option.some_ne_none _, ofReplicas_sized _ (by decide) _, rfl⟩
  have hstored : twoNameNodeGroups.podNames .stored =
      ["hdfs-namenode-a-0", "hdfs-namenode-b-0"] := by decide
  have hreversed : twoNameNodeGroups.podNames .reversed =
      ["hdfs-namenode-b-0", "hdfs-namenode-a-0"] := by decide
  refine ⟨?_, ?_, fun hsame => ?_, fun h => ?_⟩
  · rw [getArgs, hids, hstored]
    rfl
  · rw [getArgs, hids, hreversed]
    rfl
  · obtain ⟨ps, hps, hname⟩ := readyClient_result hstored
    obtain ⟨ps', hps', hname'⟩ := readyClient_result hreversed
    obtain rfl := Except.ok.inj (hps.symm.trans (hsame.trans hps'))
    exact absurd (Option.some.inj (hname.symm.trans hname')) (by decide)
  · exact absurd (oneGroup_of_podOrderIndependent h ⟨"a", 0⟩ (by decide) ⟨"b", 0⟩ (by decide))
      (by decide)

end HdfsOperator
