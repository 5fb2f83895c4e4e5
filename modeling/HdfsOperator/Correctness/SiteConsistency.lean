import Mathlib.Data.Set.Function
import HdfsOperator.Correctness.MergeByName
import HdfsOperator.Correctness.SharedEdits

/-!
# Consistency of hdfs-site.xml over repeated calls

A generator keeps what it collected, so its next call collects everything once more. The names
are the same in every call, and the merge leaves the last copy: each call writes the template,
the security properties and what that call collected. The only part that can differ between two
calls is the list of JournalNode services, which every call reads in its own order.
-/

namespace HdfsOperator

open Xml

namespace NameNodeHdfsSiteXmlGenerator

/-- A generator after at most one call of each of the two methods that add security properties. -/
inductive Prepared (g : NameNodeHdfsSiteXmlGenerator) : NameNodeHdfsSiteXmlGenerator → Prop
  | unchanged : Prepared g g
  | kerberos (clusterConfig : ClusterConfigSpec) : Prepared g (g.enablerKerberos clusterConfig)
  | https : Prepared g g.enableHttps
  | kerberosHttps (clusterConfig : ClusterConfigSpec) :
      Prepared g (g.enablerKerberos clusterConfig).enableHttps
  | httpsKerberos (clusterConfig : ClusterConfigSpec) :
      Prepared g (g.enableHttps.enablerKerberos clusterConfig)

/-- The texts of consecutive calls, each with the order of its own loop. -/
def generateCalls (g : NameNodeHdfsSiteXmlGenerator) : List RangeOrder → Go (List String)
  | [] => .ok []
  | o :: os => do
    let generated ← g.generate o
    let texts ← generated.2.generateCalls os
    return generated.1 :: texts

/-- Every further call returns the text of the first one. -/
def Repeatable (g : NameNodeHdfsSiteXmlGenerator) : Prop :=
  ∀ o os, ∃ text, g.generateCalls (o :: os) = .ok (List.replicate (os.length + 1) text)

/-- The starts of the names by replica count. -/
def replicaKeys (g : NameNodeHdfsSiteXmlGenerator) : List String :=
  [g.httpKey, "dfs.namenode.rpc-address.", "dfs.namenode.name.dir."]

/-- The ids of the NameNodes of a stateful set. -/
def nameNodeIds (g : NameNodeHdfsSiteXmlGenerator) (sts : String) : List String :=
  (ordinals g.nameNodeReplicas).map (ordinalName sts)

/-- What is consistent in the property list `ps` of the document that a generator of the stateful
set `sts` writes in a call with the order `o`. -/
structure SiteConsistent (g : NameNodeHdfsSiteXmlGenerator) (sts : String) (o : RangeOrder)
    (ps : List XmlNameValuePair) : Prop where
  names_nodup : (propertyNames ps).Nodup
  template : ∀ p ∈ siteTemplateProperties, p ∈ ps
  /-- The security properties are there, and what each of the functions returns. -/
  generated : ∃ hosts http rpc nameDir, g.makeNameNodeHosts = .ok hosts ∧
    g.makeNameNodeHttp = .ok http ∧ g.makeNameNodeRpc = .ok rpc ∧
    g.makeNameNodeNameDir = .ok nameDir ∧
    ∀ p ∈ g.properties ++ g.makeServiceId ++ [g.makeHdfsReplication, hosts] ++
        (http ++ rpc ++ nameDir) ++ g.makeNamenodeSharedEditDir o :: makeRoleNodeDataDir, p ∈ ps
  ids_nodup : (g.nameNodeIds sts).Nodup
  /-- The ids that are joined in one property can be told apart. -/
  ids : (∀ id ∈ g.nameNodeIds sts, ',' ∉ id.toList) ∧
    ⟨"dfs.ha.namenodes." ++ g.instanceName, ",".intercalate (g.nameNodeIds sts)⟩ ∈ ps
  /-- They are those at the end of the names by replica count. -/
  keys : ∀ key ∈ g.replicaKeys,
    Set.BijOn (fun id => key ++ g.instanceName ++ "." ++ id) {id | id ∈ g.nameNodeIds sts}
      {n | n ∈ propertyNames ps ∧ (key ++ g.instanceName ++ ".").toList <+: n.toList}
  /-- The web addresses are of one kind. -/
  scheme : ∀ key ∈ ["dfs.namenode.http-address.", "dfs.namenode.https-address."],
    key ≠ g.httpKey → ∀ n ∈ propertyNames ps, ¬ key.toList <+: n.toList

variable {g g' : NameNodeHdfsSiteXmlGenerator} {sts : String}

theorem enablerKerberos_eq (g : NameNodeHdfsSiteXmlGenerator) (clusterConfig : ClusterConfigSpec) :
    g.enablerKerberos clusterConfig =
      { g with properties := g.properties ++ kerberosProperties clusterConfig } := by
  unfold enablerKerberos kerberosProperties
  split <;> simp

/-- The methods add security properties and change nothing else. -/
theorem Prepared.eq (h : Prepared g g') (hg : g.properties = []) :
    g' = { g with properties := g'.properties } ∧ g'.SecurityOnly := by
  have hkrb := propertyNames_kerberosProperties_sublist
  have htls := propertyNames_tlsHdfsSiteXml_sublist g.clusterConfig
  cases h with
  | unchanged => exact ⟨rfl, by rw [hg]; exact List.nodup_nil, by simp [hg]⟩
  | kerberos cc =>
    rw [enablerKerberos_eq, hg, List.nil_append]
    refine ⟨rfl, securityOnly_of_perm (List.Perm.refl _) ?_⟩
    exact (hkrb cc).trans (List.sublist_append_left _ _)
  | https =>
    rw [enableHttps, hg, List.nil_append]
    refine ⟨rfl, securityOnly_of_perm (List.Perm.refl _) ?_⟩
    exact htls.trans (List.sublist_append_right _ _)
  | kerberosHttps cc =>
    rw [enablerKerberos_eq, enableHttps, hg, List.nil_append]
    refine ⟨rfl, securityOnly_of_perm (l := _ ++ _) ?_ ((hkrb cc).append htls)⟩
    exact List.Perm.of_eq (propertyNames_append _ _)
  | httpsKerberos cc =>
    rw [enablerKerberos_eq, enableHttps, hg, List.nil_append]
    refine ⟨rfl, securityOnly_of_perm (l := _ ++ _) ?_ ((hkrb cc).append htls)⟩
    exact (List.Perm.of_eq (propertyNames_append _ _)).trans List.perm_append_comm

/-- What one call collects. -/
def block (g : NameNodeHdfsSiteXmlGenerator) (sts : String) (o : RangeOrder) :
    List XmlNameValuePair :=
  g.makeServiceId ++ [g.makeHdfsReplication, g.hosts sts] ++ (g.addresses sts ++ g.tail o)

/-- The replica count is not negative, the registry has the group, and the names that go into
property names are valid. -/
structure Valid (g : NameNodeHdfsSiteXmlGenerator) (sts : String) : Prop where
  size : 0 ≤ g.nameNodeReplicas.toInt
  registered : g.statefulSetName = .ok sts
  instanceName : DnsText g.instanceName
  statefulSet : DnsText sts

/-- A call adds what it collects. -/
theorem collect_eq_block (hg : g.Valid sts) (o : RangeOrder) :
    g.collect o = .ok { g with properties := g.properties ++ g.block sts o } := by
  rw [collect_eq, hg.registered, Go.ok_bind, checkSize_of_nonneg hg.size, Go.ok_bind, head, block]
  simp only [List.append_assoc]
  rfl

/-- Every call collects the same names. -/
theorem propertyNames_block (g : NameNodeHdfsSiteXmlGenerator) (sts : String) (o o' : RangeOrder) :
    propertyNames (g.block sts o) = propertyNames (g.block sts o') := by
  simp only [block, propertyNames_append]
  rfl

/-- What is written after one call: the template, the security properties and what the call
collected. -/
def document (g : NameNodeHdfsSiteXmlGenerator) (sts : String) (o : RangeOrder) :
    List XmlNameValuePair :=
  siteTemplateProperties ++ g.properties ++ g.block sts o

/-- The document in its three parts. -/
theorem document_eq (g : NameNodeHdfsSiteXmlGenerator) (sts : String) (o : RangeOrder) :
    g.document sts o =
      siteTemplateProperties ++ (g.head sts ++ g.addresses sts) ++ g.tail o := by
  simp only [document, block, head, List.append_assoc]

theorem mem_addressKeys (g : NameNodeHdfsSiteXmlGenerator) {key : String}
    (h : key ∈ g.replicaKeys) : key ∈ addressKeys := by
  simp only [replicaKeys, List.mem_cons, List.not_mem_nil, or_false] at h
  rcases h with rfl | rfl | rfl
  · exact g.httpKey_mem
  · simp [addressKeys]
  · simp [addressKeys]

/-- No name is written twice. -/
theorem propertyNames_document_nodup (hs : g.SecurityOnly) (hg : g.Valid sts) (o : RangeOrder) :
    (propertyNames (g.document sts o)).Nodup := by
  have hfront := propertyNames_nodup hs (hg.instanceName.notMem (by decide))
    (hg.statefulSet.notMem (by decide))
  rw [document_eq, propertyNames_append, List.nodup_append]
  refine ⟨hfront, g.propertyNames_tail_nodup o, ?_⟩
  rintro a ha _ hb rfl
  exact propertyNames_tail_notMem hs sts o a hb ha

/-- A name that starts like a name by replica count is one. -/
theorem mem_keyNames_of_start (hs : g.SecurityOnly) (hg : g.Valid sts) {key n : String}
    (hkey : key ∈ addressKeys) {o : RangeOrder} (hn : n ∈ propertyNames (g.document sts o))
    (hstart : key.toList <+: n.toList) :
    key ∈ g.replicaKeys ∧ n ∈ g.keyNames key sts := by
  obtain ⟨t, ht⟩ := hstart
  have hsplit : n = key ++ String.ofList t := by
    apply String.toList_inj.mp
    rw [String.toList_append, String.toList_ofList, ht]
  have haddress : IsAddressKey n := ⟨key, hkey, _, hsplit⟩
  rw [document_eq, propertyNames_append, ← List.append_assoc, propertyNames_append,
    List.mem_append, List.mem_append] at hn
  rcases hn with (hn | hn) | hn
  · exact absurd hn (isAddressKey_notMem_head hs sts haddress)
  · obtain ⟨key', hkey', hn⟩ : ∃ key' ∈ g.replicaKeys, n ∈ g.keyNames key' sts := by
      rw [propertyNames_addresses (hg.instanceName.notMem (by decide))
        (hg.statefulSet.notMem (by decide)), List.mem_append, List.mem_append] at hn
      rcases hn with (hn | hn) | hn
      · exact ⟨_, by simp [replicaKeys], hn⟩
      · exact ⟨_, by simp [replicaKeys], hn⟩
      · exact ⟨_, by simp [replicaKeys], hn⟩
    by_cases hne : key = key'
    · subst hne
      exact ⟨hkey', hn⟩
    · -- Names under different keys start differently.
      obtain ⟨i, -, hi⟩ := List.mem_map.mp hn
      obtain ⟨h₁, h₂⟩ := addressKeys_incomparable key hkey key' (g.mem_addressKeys hkey') hne
      simp only [ordinalName, String.append_assoc] at hi
      exact absurd (hsplit.symm.trans hi.symm) (append_ne_append h₁ h₂ _ _)
  · exact absurd haddress (not_isAddressKey_of_mem_tailNames hn)

/-- The names by replica count are written. -/
theorem mem_names_of_mem_keyNames (hg : g.Valid sts) {key n : String}
    (hkey : key ∈ g.replicaKeys) (hn : n ∈ g.keyNames key sts) (o : RangeOrder) :
    n ∈ propertyNames (g.document sts o) := by
  have haddress : n ∈ propertyNames (g.addresses sts) := by
    rw [propertyNames_addresses (hg.instanceName.notMem (by decide))
      (hg.statefulSet.notMem (by decide)), List.mem_append, List.mem_append]
    simp only [replicaKeys, List.mem_cons, List.not_mem_nil, or_false] at hkey
    rcases hkey with rfl | rfl | rfl
    · exact .inl (.inl hn)
    · exact .inl (.inr hn)
    · exact .inr hn
  rw [document_eq, propertyNames_append, propertyNames_append, propertyNames_append]
  exact List.mem_append_left _ (List.mem_append_right _ (List.mem_append_right _ haddress))

/-- The generator after calls with the given orders. -/
def after (g : NameNodeHdfsSiteXmlGenerator) (sts : String) (past : List RangeOrder) :
    NameNodeHdfsSiteXmlGenerator :=
  { g with properties := g.properties ++ past.flatMap (g.block sts) }

/-- A call after others merges their copies away: it writes what it would write as the first. -/
theorem generate_after (hs : g.SecurityOnly) (hg : g.Valid sts) (past : List RangeOrder)
    (o : RangeOrder) :
    (g.after sts past).generate o =
      .ok (encode (g.document sts o), g.after sts (past ++ [o])) := by
  have hvalid : (g.after sts past).Valid sts :=
    ⟨hg.size, hg.registered, hg.instanceName, hg.statefulSet⟩
  have hcollect : (g.after sts past).collect o = .ok (g.after sts (past ++ [o])) := by
    rw [collect_eq_block hvalid]
    simp only [after, List.flatMap_append, List.flatMap_singleton, List.append_assoc]
    rfl
  have hmerge : (⟨siteTemplateProperties⟩ : XmlConfiguration).distinctProperties
      (g.after sts (past ++ [o])).properties = .ok (g.document sts o) := by
    have hcopies : ∀ copy ∈ past.map (g.block sts),
        propertyNames copy = propertyNames (g.block sts o) := by
      intro copy hcopy
      obtain ⟨o', -, rfl⟩ := List.mem_map.mp hcopy
      exact g.propertyNames_block sts o' o
    refine XmlConfiguration.distinctProperties_copies ?_ (propertyNames_document_nodup hs hg o)
      hcopies
    simp [after, List.flatMap_def]
  rw [generate, hcollect, Go.ok_bind, XmlConfiguration.append_of_distinctProperties
    unmarshal_hdfsSiteTemplate (by simp [siteTemplateProperties]) hmerge]
  rfl

/-- Calls after others write what they would write as the first; the induction is on the calls. -/
theorem generateCalls_after (hs : g.SecurityOnly) (hg : g.Valid sts) (past os : List RangeOrder) :
    (g.after sts past).generateCalls os = .ok (os.map fun o => encode (g.document sts o)) := by
  induction os generalizing past with
  | nil => rfl
  | cons o os ih =>
    rw [generateCalls, generate_after hs hg, Go.ok_bind, ih, Go.ok_bind]
    rfl

/-- Each of consecutive calls writes what its own loop read. -/
theorem generateCalls_eq (hs : g.SecurityOnly) (hg : g.Valid sts) (os : List RangeOrder) :
    g.generateCalls os = .ok (os.map fun o => encode (g.document sts o)) := by
  have hnone : g.after sts [] = g := by simp [after]
  have hcalls := generateCalls_after hs hg [] os
  rwa [hnone] at hcalls

/-- The names by replica count end with the ids. -/
theorem keyNames_eq (g : NameNodeHdfsSiteXmlGenerator) (key sts : String) :
    g.keyNames key sts =
      (g.nameNodeIds sts).map fun id => key ++ g.instanceName ++ "." ++ id := by
  rw [keyNames, nameNodeIds, List.map_map]
  refine List.map_congr_left fun i _ => ?_
  simp only [Function.comp_apply, ordinalName, String.append_assoc]

/-- The ids are in bijection with the names under each key. -/
theorem bijOn_keys (hs : g.SecurityOnly) (hg : g.Valid sts) (o : RangeOrder) {key : String}
    (hkey : key ∈ g.replicaKeys) :
    Set.BijOn (fun id => key ++ g.instanceName ++ "." ++ id) {id | id ∈ g.nameNodeIds sts}
      {n | n ∈ propertyNames (g.document sts o) ∧
        (key ++ g.instanceName ++ ".").toList <+: n.toList} := by
  refine ⟨?_, ?_, ?_⟩
  · rintro id hid
    refine ⟨mem_names_of_mem_keyNames hg hkey ?_ o, ?_⟩
    · rw [keyNames_eq]
      exact List.mem_map_of_mem hid
    · exact ⟨id.toList, String.toList_append.symm⟩
  · intro a _ b _ hab
    simpa using hab
  · rintro n ⟨hn, hstart⟩
    have hkeyStart : key.toList <+: n.toList := by
      refine List.IsPrefix.trans ?_ hstart
      rw [String.append_assoc, String.toList_append]
      exact List.prefix_append _ _
    have hmem := (mem_keyNames_of_start hs hg (g.mem_addressKeys hkey) hn hkeyStart).2
    rw [keyNames_eq] at hmem
    obtain ⟨id, hid, rfl⟩ := List.mem_map.mp hmem
    exact ⟨id, hid, rfl⟩

/-- What the functions of a valid generator return. -/
theorem makes_eq_ok (hg : g.Valid sts) :
    ∃ http rpc nameDir, g.makeNameNodeHosts = .ok (g.hosts sts) ∧ g.makeNameNodeHttp = .ok http ∧
      g.makeNameNodeRpc = .ok rpc ∧ g.makeNameNodeNameDir = .ok nameDir ∧
        g.addresses sts = http ++ rpc ++ nameDir := by
  have hpods : createPodNamesByReplicas g.nameNodeReplicas sts = .ok _ :=
    createPodNamesByReplicas_eq_ok.mpr ⟨hg.size, rfl⟩
  have hxml (k v : String) : createXmlContentByReplicas g.nameNodeReplicas k v =
      .ok (g.byReplicas k v) := createXmlContentByReplicas_eq_ok.mpr ⟨hg.size, rfl⟩
  refine ⟨_, _, _, ?_, ?_, ?_, ?_, rfl⟩
  · simp only [makeNameNodeHosts, hg.registered, hpods, Go.ok_bind]
    rfl
  · simp only [makeNameNodeHttp, hg.registered, hxml, Go.ok_bind]
  · simp only [makeNameNodeRpc, hg.registered, hxml, Go.ok_bind]
  · simp only [makeNameNodeNameDir, hg.registered, hxml, Go.ok_bind]

/-- What a call writes is consistent. -/
theorem siteConsistent_document (hs : g.SecurityOnly) (hg : g.Valid sts) (o : RangeOrder) :
    g.SiteConsistent sts o (g.document sts o) := by
  refine ⟨propertyNames_document_nodup hs hg o, fun p hp => ?_, ?_,
    List.nodup_range.map (ordinalName_injective sts), ⟨fun id hid => ?_, ?_⟩,
    fun key hkey => bijOn_keys hs hg o hkey, ?_⟩
  · exact List.mem_append_left _ (List.mem_append_left _ hp)
  · obtain ⟨http, rpc, nameDir, hhosts, hhttp, hrpc, hdir, haddresses⟩ := makes_eq_ok hg
    refine ⟨_, http, rpc, nameDir, hhosts, hhttp, hrpc, hdir, fun p hp => ?_⟩
    rw [← haddresses] at hp
    have hdocument := List.mem_append_right siteTemplateProperties hp
    simpa only [document, block, tail, List.append_assoc] using hdocument
  · obtain ⟨i, -, rfl⟩ := List.mem_map.mp hid
    exact (hg.statefulSet.ordinalName i).notMem (by decide)
  · have hhosts : g.hosts sts ∈ g.block sts o := by simp [block]
    exact List.mem_append_right _ hhosts
  · intro key hkey hne n hn hstart
    have haddress : key ∈ addressKeys := by
      simp only [List.mem_cons, List.not_mem_nil, or_false] at hkey
      rcases hkey with rfl | rfl <;> simp [addressKeys]
    have hreplica := (mem_keyNames_of_start hs hg haddress hn hstart).1
    simp only [replicaKeys, List.mem_cons, List.not_mem_nil, or_false] at hkey hreplica
    rcases hkey with rfl | rfl <;> rcases hreplica with h | h | h
    · exact hne h
    · exact absurd h (by decide)
    · exact absurd h (by decide)
    · exact hne h
    · exact absurd h (by decide)
    · exact absurd h (by decide)

/-- The calls return one text exactly when every order of the loop gives the same. -/
theorem repeatable_iff_encode (hs : g.SecurityOnly) (hg : g.Valid sts) :
    g.Repeatable ↔ ∀ o o', encode (g.document sts o) = encode (g.document sts o') := by
  constructor
  · intro h o o'
    obtain ⟨text, htext⟩ := h o [o']
    rw [generateCalls_eq hs hg, Except.ok.injEq, List.eq_replicate_iff] at htext
    rw [htext.2 (encode (g.document sts o)) (by simp),
      htext.2 (encode (g.document sts o')) (by simp)]
  · intro h o os
    refine ⟨encode (g.document sts o), ?_⟩
    rw [generateCalls_eq hs hg, Except.ok.injEq, List.eq_replicate_iff]
    refine ⟨by simp, fun text htext => ?_⟩
    obtain ⟨o', -, rfl⟩ := List.mem_map.mp htext
    exact h o' o

/-- All JournalNode entries of the registry have one service name. -/
def OneJournalService (info : ClusterComponentsInfo) : Prop :=
  ∀ k j k' j', info.journalNode.lookup k = some j → info.journalNode.lookup k' = some j' →
    j.roleGroupInfo.getFullName = j'.roleGroupInfo.getFullName

/-- The JournalNode entries of the registry have valid service names. -/
def JournalServicesValid (info : ClusterComponentsInfo) : Prop :=
  ∀ k j, info.journalNode.lookup k = some j → DnsText j.roleGroupInfo.getFullName

/-- One service name is the same in every order. -/
theorem document_eq_of_oneJournalService (h : OneJournalService g.clusterComponentInfo)
    (o o' : RangeOrder) : g.document sts o = g.document sts o' := by
  have hnames : g.clusterComponentInfo.getJournalNodeServiceNames o =
      g.clusterComponentInfo.getJournalNodeServiceNames o' := by
    have hperm : (g.clusterComponentInfo.getJournalNodeServiceNames o).Perm
        (g.clusterComponentInfo.getJournalNodeServiceNames o') :=
      (GoMap.range_perm _ o o').map _
    have hsame : ∀ a ∈ g.clusterComponentInfo.getJournalNodeServiceNames o',
        ∀ b ∈ g.clusterComponentInfo.getJournalNodeServiceNames o', a = b := by
      intro a ha b hb
      obtain ⟨e, he, rfl⟩ := List.mem_map.mp ha
      obtain ⟨e', he', rfl⟩ := List.mem_map.mp hb
      exact h e.1 e.2 e'.1 e'.2 (GoMap.mem_range.mp he) (GoMap.mem_range.mp he')
    exact eq_of_perm_of_forall_eq hperm hsame
  simp only [document, block, tail, makeNamenodeSharedEditDir,
    ClusterComponentsInfo.getJournalNodeServicesForSharedEdits, hnames]

/-- A service is a valid name with a port. -/
theorem exists_of_mem_services (hvalid : JournalServicesValid g.clusterComponentInfo)
    {o : RangeOrder} {service : String}
    (h : service ∈ g.clusterComponentInfo.getJournalNodeServicesForSharedEdits o) :
    ∃ name, DnsText name ∧ service = name ++ ":8485" := by
  obtain ⟨name, hname, rfl⟩ := List.mem_map.mp h
  obtain ⟨e, he, rfl⟩ := List.mem_map.mp hname
  exact ⟨_, hvalid e.1 e.2 (GoMap.mem_range.mp he), rfl⟩

/-- The address of the shared edit log can be read off the text. -/
theorem services_eq_of_encode (hname : DnsText g.instanceName)
    (hvalid : JournalServicesValid g.clusterComponentInfo) {o o' : RangeOrder}
    (h : encode (g.document sts o) = encode (g.document sts o')) :
    ";".intercalate (g.clusterComponentInfo.getJournalNodeServicesForSharedEdits o) =
      ";".intercalate (g.clusterComponentInfo.getJournalNodeServicesForSharedEdits o') := by
  have hxml (o : RangeOrder) : XmlText (g.makeNamenodeSharedEditDir o).value := by
    refine xmlText_createJournalUrl (fun service hservice => ?_) hname
    obtain ⟨name, hname, rfl⟩ := exists_of_mem_services hvalid hservice
    exact hname.plainText.xmlText.append (by decide)
  have hread := congrArg unmarshal h
  rw [unmarshal_encode, unmarshal_encode, Option.some.injEq, document_eq, document_eq] at hread
  simp only [List.map_append, List.append_cancel_left_eq] at hread
  have hvalue := congrArg XmlNameValuePair.value (List.cons.inj hread).1
  simp only [replacePair, replaceText_of_xmlText (hxml _)] at hvalue
  exact createJournalUrl_inj hvalue

/-- If all orders give one text, there is one service name. -/
theorem oneJournalService_of_encode (hname : DnsText g.instanceName)
    (hvalid : JournalServicesValid g.clusterComponentInfo)
    (h : ∀ o o', encode (g.document sts o) = encode (g.document sts o')) :
    OneJournalService g.clusterComponentInfo := by
  intro k j k' j' hj hj'
  have hjoin := services_eq_of_encode hname hvalid (h (.first k) (.first k'))
  have hsep (o : RangeOrder) : ∀ s ∈ g.clusterComponentInfo.getJournalNodeServicesForSharedEdits o,
      ';' ∉ s.toList := by
    intro s hs
    obtain ⟨name, hname, rfl⟩ := exists_of_mem_services hvalid hs
    rw [String.toList_append, List.mem_append, not_or]
    exact ⟨hname.notMem (by decide), by decide⟩
  -- Each of the two orders starts with its own entry.
  have hfirst {k : String} {j : ComponentInfo}
      (hj : g.clusterComponentInfo.journalNode.lookup k = some j) :
      ∃ l, g.clusterComponentInfo.getJournalNodeServicesForSharedEdits (.first k) =
        (j.roleGroupInfo.getFullName ++ ":8485") :: l := by
    obtain ⟨l, hl⟩ := GoMap.range_first hj
    rw [ClusterComponentsInfo.getJournalNodeServicesForSharedEdits,
      ClusterComponentsInfo.getJournalNodeServiceNames, hl]
    exact ⟨_, rfl⟩
  obtain ⟨l, hl⟩ := hfirst hj
  obtain ⟨l', hl'⟩ := hfirst hj'
  have heq := intercalate_inj rfl (hsep _) (hsep _) (by simp [hl]) (by simp [hl']) hjoin
  rw [hl, hl', List.cons.injEq] at heq
  simpa using heq.1

end NameNodeHdfsSiteXmlGenerator

open NameNodeHdfsSiteXmlGenerator

section Constructor

variable {instanceName groupName nameSpace clusterDomain : String}
  {replicas hdfsReplication : Int32} {clusterConfig : ClusterConfigSpec}
  {info : ClusterComponentsInfo} {i : ComponentInfo} {g : NameNodeHdfsSiteXmlGenerator}

/-- A generator from the constructor with valid names, prepared in any way. -/
theorem Prepared.valid (hname : DnsText instanceName) (hsize : 0 ≤ replicas.toInt)
    (hgroup : info.nameNode.lookup groupName = some i)
    (hfull : DnsText i.roleGroupInfo.getFullName)
    (hg : Prepared (newNameNodeHdfsSiteXmlGenerator instanceName groupName replicas nameSpace
      clusterConfig clusterDomain hdfsReplication info) g) :
    g.SecurityOnly ∧ g.Valid i.roleGroupInfo.getFullName := by
  obtain ⟨heq, hs⟩ := hg.eq rfl
  refine ⟨hs, ?_⟩
  rw [heq]
  refine ⟨hsize, ?_, hname, hfull⟩
  simp only [statefulSetName, newNameNodeHdfsSiteXmlGenerator, hgroup, deref_some, Go.ok_bind]
  rfl

/-- A registry with one NameNode group and the given JournalNode groups. -/
def smallRegistry (journalNodes : List String) : ClusterComponentsInfo where
  nameNode := .ofList [("default", ⟨"default", 2, ⟨"hdfs", Role.nameNode.text, "default"⟩⟩)]
  journalNode := .ofList (journalNodes.map fun j =>
    (j, ⟨j, 1, ⟨"hdfs", Role.journalNode.text, j⟩⟩))

/-- A generator that reads such a registry. -/
def smallGenerator (journalNodes : List String) : NameNodeHdfsSiteXmlGenerator :=
  newNameNodeHdfsSiteXmlGenerator "hdfs" "default" 2 "default" {} "cluster.local" 1
    (smallRegistry journalNodes)

theorem smallRegistry_lookup (journalNodes : List String) :
    (smallRegistry journalNodes).nameNode.lookup "default" =
      some ⟨"default", 2, ⟨"hdfs", Role.nameNode.text, "default"⟩⟩ := rfl

theorem exists_of_smallRegistry_journalNode {journalNodes : List String} {k : String}
    {j : ComponentInfo} (h : (smallRegistry journalNodes).journalNode.lookup k = some j) :
    ∃ name ∈ journalNodes,
      j.roleGroupInfo.getFullName = "hdfs" ++ "-" ++ "journalnode" ++ "-" ++ name := by
  obtain ⟨name, hname, heq⟩ := List.mem_map.mp (GoMap.mem_of_lookup_ofList h)
  rw [← (Prod.mk.inj heq).2]
  exact ⟨name, hname, rfl⟩

theorem smallRegistry_journalServicesValid {journalNodes : List String}
    (h : ∀ name ∈ journalNodes, DnsText name) :
    JournalServicesValid (smallRegistry journalNodes) := by
  intro k j hj
  obtain ⟨name, hname, heq⟩ := exists_of_smallRegistry_journalNode hj
  rw [heq]
  exact DnsText.append (by decide) (h name hname)

/-- Every document that a generator writes is consistent. -/
theorem generate_siteConsistent (hname : DnsText instanceName) (hsize : 0 ≤ replicas.toInt)
    (hgroup : info.nameNode.lookup groupName = some i)
    (hfull : DnsText i.roleGroupInfo.getFullName)
    (hg : Prepared (newNameNodeHdfsSiteXmlGenerator instanceName groupName replicas nameSpace
      clusterConfig clusterDomain hdfsReplication info) g) (o : RangeOrder) :
    ∃ ps g', g.generate o = .ok (encode ps, g') ∧
      g.SiteConsistent i.roleGroupInfo.getFullName o ps := by
  obtain ⟨hs, hvalid⟩ := Prepared.valid hname hsize hgroup hfull hg
  have hgenerate := generate_after hs hvalid [] o
  have hnone : g.after i.roleGroupInfo.getFullName [] = g := by simp [after]
  rw [hnone] at hgenerate
  exact ⟨_, _, hgenerate, siteConsistent_document hs hvalid o⟩

/-- A document for two replicas, with the methods called as the builders call them. -/
theorem smallGenerator_siteConsistent :
    ∃ ps g', (((smallGenerator ["a", "b"]).enablerKerberos {}).enableHttps).generate .stored =
        .ok (encode ps, g') ∧
      (((smallGenerator ["a", "b"]).enablerKerberos {}).enableHttps).SiteConsistent
        "hdfs-namenode-default" .stored ps :=
  generate_siteConsistent (by decide) (by decide) (smallRegistry_lookup _) (by decide)
    (.kerberosHttps {}) .stored

/-- Consecutive calls return the same text exactly when all JournalNode entries have one service
name. -/
theorem repeatable_iff (hname : DnsText instanceName) (hsize : 0 ≤ replicas.toInt)
    (hgroup : info.nameNode.lookup groupName = some i)
    (hfull : DnsText i.roleGroupInfo.getFullName) (hjournal : JournalServicesValid info)
    (hg : Prepared (newNameNodeHdfsSiteXmlGenerator instanceName groupName replicas nameSpace
      clusterConfig clusterDomain hdfsReplication info) g) :
    g.Repeatable ↔ OneJournalService info := by
  obtain ⟨hs, hvalid⟩ := Prepared.valid hname hsize hgroup hfull hg
  have hinfo : g.clusterComponentInfo = info := by
    rw [(hg.eq rfl).1]
    rfl
  rw [repeatable_iff_encode hs hvalid, ← hinfo]
  rw [← hinfo] at hjournal
  constructor
  · exact oneJournalService_of_encode hvalid.instanceName hjournal
  · intro h o o'
    rw [document_eq_of_oneJournalService h o o']

end Constructor

/-- One JournalNode group. -/
theorem smallGenerator_repeatable : (smallGenerator ["default"]).enableHttps.Repeatable := by
  refine (repeatable_iff (by decide) (by decide) (smallRegistry_lookup _) (by decide)
    (smallRegistry_journalServicesValid (by decide)) .https).mpr ?_
  intro k j k' j' hj hj'
  obtain ⟨name, hname, heq⟩ := exists_of_smallRegistry_journalNode hj
  obtain ⟨name', hname', heq'⟩ := exists_of_smallRegistry_journalNode hj'
  rw [heq, heq', List.mem_singleton.mp hname, List.mem_singleton.mp hname']

/-- Two JournalNode groups are written in the order of each call. -/
theorem smallGenerator_not_repeatable : ¬ (smallGenerator ["a", "b"]).Repeatable := by
  obtain ⟨hs, hvalid⟩ := Prepared.valid (by decide) (by decide) (smallRegistry_lookup ["a", "b"])
    (by decide) (.unchanged : Prepared (smallGenerator ["a", "b"]) _)
  intro h
  have hone := oneJournalService_of_encode hvalid.instanceName
    (smallRegistry_journalServicesValid (by decide)) ((repeatable_iff_encode hs hvalid).mp h)
  have hsame := hone "a" ⟨"a", 1, ⟨"hdfs", Role.journalNode.text, "a"⟩⟩ "b"
    ⟨"b", 1, ⟨"hdfs", Role.journalNode.text, "b"⟩⟩ rfl rfl
  exact absurd hsame (by decide)

end HdfsOperator
