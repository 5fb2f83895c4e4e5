import HdfsOperator.Correctness.SiteDocument
import HdfsOperator.Models.ConfigMaps

/-!
# The hdfs-site.xml of a role group

The builders of the three roles find the replica count of the NameNodes in three ways.
All of them end up with the NameNode group that has the name of the role group being
rendered, so one description covers the documents of all roles.
-/

namespace HdfsOperator

namespace RoleGroupBuilder

variable {b : RoleGroupBuilder} {o : SiteOrders} {r : Role} {n : Int32}

/-- The replica count that the builder of a role passes to the generator. -/
def nameNodeReplicas (b : RoleGroupBuilder) (o : SiteOrders) : Role → Go Int32
  | .nameNode => deref b.replicas
  | .dataNode => .ok (b.clusterComponentInfo.getNameNodeReplicas b.groupName o.replicas)
  | .journalNode => b.getNameNodeReplicas

theorem siteGenerator_eq (b : RoleGroupBuilder) (n : Int32) :
    b.siteGenerator n =
      { newNameNodeHdfsSiteXmlGenerator b.instance'.name.val b.groupName n
          b.instance'.nameSpace.val b.instance'.clusterConfig
          b.instance'.clusterConfig.clusterDomain b.instance'.clusterConfig.dfsReplication
          b.clusterComponentInfo with
        properties := securityProperties b.instance'.clusterConfig } := by
  simp only [siteGenerator, NameNodeHdfsSiteXmlGenerator.enablerKerberos, securityProperties]
  cases isKerberosEnabled b.instance'.clusterConfig <;> rfl

/-- The builders add the security properties and nothing else. -/
theorem siteGenerator_secured (b : RoleGroupBuilder) (n : Int32) : (b.siteGenerator n).Secured := by
  rw [siteGenerator_eq]
  rfl

/-- The three builders differ only in how they find the replica count. -/
theorem makeHdfsSiteData_eq (b : RoleGroupBuilder) (o : SiteOrders) (r : Role) :
    b.makeHdfsSiteData o r = b.nameNodeReplicas o r >>= fun n =>
      Prod.fst <$> (b.siteGenerator n).generate o.serviceNames := by
  have hfst (x : Go (String × NameNodeHdfsSiteXmlGenerator)) :
      (x >>= fun generated => pure generated.1) = Prod.fst <$> x := by
    cases x <;> rfl
  cases r with
  | nameNode => exact congrArg (deref b.replicas >>= ·) (funext fun n => hfst _)
  | dataNode => exact hfst _
  | journalNode => exact congrArg (b.getNameNodeReplicas >>= ·) (funext fun n => hfst _)

end RoleGroupBuilder

namespace HdfsCluster

variable {c : HdfsCluster} {o : RunOrders} {r : Role} {g text : String}
  {info : ClusterComponentsInfo}

/-- The replica count of a NameNode group. -/
def nameNodeReplicas (c : HdfsCluster) (g : String) : Option Int32 :=
  ((c.groups .nameNode).lookup g).bind RoleGroupSpec.replicas

/-- The generator for the role group named `g` with the replica count of the NameNode group. -/
def siteGenerator (c : HdfsCluster) (info : ClusterComponentsInfo) (g : String) (n : Int32) :
    NameNodeHdfsSiteXmlGenerator := (c.builder info .nameNode g none).siteGenerator n

theorem siteGenerator_secured (c : HdfsCluster) (info : ClusterComponentsInfo) (g : String)
    (n : Int32) : (c.siteGenerator info g n).Secured :=
  RoleGroupBuilder.siteGenerator_secured _ n

/-- What is recorded about a NameNode group. -/
theorem component_nameNode (c : HdfsCluster) (g : String) :
    c.component .nameNode g = (c.nameNodeReplicas g).map fun n =>
      ⟨g, n, ⟨c.name.val, Role.nameNode.text, g⟩⟩ := by
  unfold component nameNodeReplicas
  cases (c.groups .nameNode).lookup g <;> rfl

/-- The generator finds the stateful set of the NameNode group with its group name. -/
theorem siteGenerator_statefulSetName (h : info.Populated c) (n : Int32) :
    (c.siteGenerator info g n).statefulSetName =
      (fun _ => c.fullName .nameNode g) <$> deref (c.nameNodeReplicas g) := by
  have hlookup : info.nameNode.lookup g = _ := (h .nameNode g).trans (c.component_nameNode g)
  rw [siteGenerator, RoleGroupBuilder.siteGenerator_eq]
  simp only [NameNodeHdfsSiteXmlGenerator.statefulSetName, newNameNodeHdfsSiteXmlGenerator, builder,
    hlookup]
  cases c.nameNodeReplicas g <;> rfl

/-- Every builder uses the replica count of the NameNode group with its group name. -/
theorem builder_nameNodeReplicas (h : info.Populated c) {n : Int32}
    (hn : c.nameNodeReplicas g = some n) (o : SiteOrders) (r : Role) :
    (c.builder info r g none).nameNodeReplicas o r = .ok n := by
  have hcomponent := c.component_nameNode g
  rw [hn] at hcomponent
  cases r with
  | nameNode => exact congrArg deref hn
  | dataNode =>
    refine congrArg Except.ok ((h.totalReplicas_eq .nameNode g o.replicas).trans ?_)
    rw [hcomponent]
    rfl
  | journalNode =>
    have hlookup : info.nameNode.lookup g = _ := (h .nameNode g).trans hcomponent
    simp only [RoleGroupBuilder.nameNodeReplicas, RoleGroupBuilder.getNameNodeReplicas, builder,
      hlookup]
    rfl

/-- The leading properties of the document of the group named `g`. -/
def siteHead (c : HdfsCluster) (g : String) (n : Int32) : List XmlNameValuePair :=
  (c.siteGenerator {} g n).head (c.fullName .nameNode g)

/-- The properties by replica count of the document of the group named `g`. -/
def siteAddresses (c : HdfsCluster) (g : String) (n : Int32) : List XmlNameValuePair :=
  (c.siteGenerator {} g n).addresses (c.fullName .nameNode g)

/-- Everything before the last part of the document of the group named `g`. -/
def siteLeading (c : HdfsCluster) (g : String) (n : Int32) : Go (List XmlNameValuePair) := do
  checkSize n
  XmlConfiguration.distinctProperties ⟨siteTemplateProperties⟩
    (c.siteHead g n ++ c.siteAddresses g n)

/-- The property with the address of the shared edit log. -/
def sharedEdits (c : HdfsCluster) (info : ClusterComponentsInfo) (o : RangeOrder) :
    XmlNameValuePair :=
  ⟨"dfs.namenode.shared.edits.dir",
    createJournalUrl (info.getJournalNodeServicesForSharedEdits o) c.name.val⟩

/-- The last part of a document. -/
def siteTail (c : HdfsCluster) (info : ClusterComponentsInfo) (o : RangeOrder) :
    List XmlNameValuePair :=
  c.sharedEdits info o :: NameNodeHdfsSiteXmlGenerator.makeRoleNodeDataDir

private theorem siteGenerator_fields (c : HdfsCluster) (info : ClusterComponentsInfo) (g : String)
    (n : Int32) : (c.siteGenerator info g n).nameNodeReplicas = n ∧
      (c.siteGenerator info g n).instanceName = c.name.val ∧
      (∀ sts, (c.siteGenerator info g n).head sts = (c.siteGenerator {} g n).head sts) ∧
      (∀ sts, (c.siteGenerator info g n).addresses sts = (c.siteGenerator {} g n).addresses sts) ∧
      ∀ o, (c.siteGenerator info g n).tail o = c.siteTail info o := by
  simp only [siteGenerator, RoleGroupBuilder.siteGenerator_eq]
  exact ⟨rfl, rfl, fun _ => rfl, fun _ => rfl, fun _ => rfl⟩

/-- The registry does not change the leading part of the document. -/
theorem siteGenerator_leading (h : info.Populated c) {n : Int32}
    (hn : c.nameNodeReplicas g = some n) :
    (c.siteGenerator info g n).leading = c.siteLeading g n := by
  obtain ⟨hreplicas, -, hhead, haddresses, -⟩ := siteGenerator_fields c info g n
  rw [NameNodeHdfsSiteXmlGenerator.leading, siteGenerator_statefulSetName h, hn, deref_some]
  simp only [Functor.map, Except.map, Go.ok_bind, hreplicas, hhead, haddresses]
  rfl

/-- What a builder writes for the group named `g`. -/
theorem makeHdfsSiteData_of_some (h : info.Populated c) {n : Int32}
    (hn : c.nameNodeReplicas g = some n) (o : SiteOrders) (r : Role) :
    (c.builder info r g none).makeHdfsSiteData o r =
      (fun ps => encode (ps ++ c.siteTail info o.serviceNames)) <$> c.siteLeading g n := by
  obtain ⟨-, -, -, -, htail⟩ := siteGenerator_fields c info g n
  rw [RoleGroupBuilder.makeHdfsSiteData_eq, builder_nameNodeReplicas h hn, Go.ok_bind,
    ← siteGenerator_leading h hn, ← htail]
  exact NameNodeHdfsSiteXmlGenerator.generate_text (c.siteGenerator_secured info g n).securityOnly _

/-- Without a NameNode group named `g` the builder dereferences nil. -/
theorem makeHdfsSiteData_of_none (h : info.Populated c) (hn : c.nameNodeReplicas g = none)
    (o : SiteOrders) (r : Role) :
    (c.builder info r g none).makeHdfsSiteData o r = .error (.panic .nilDereference) := by
  have hsts (n : Int32) : (c.siteGenerator info g n).statefulSetName =
      .error (.panic .nilDereference) := by
    rw [siteGenerator_statefulSetName h, hn]
    rfl
  have hgenerate (n : Int32) (o : RangeOrder) :
      Prod.fst <$> (c.siteGenerator info g n).generate o = .error (.panic .nilDereference) := by
    rw [NameNodeHdfsSiteXmlGenerator.generate_text (c.siteGenerator_secured info g n).securityOnly,
      NameNodeHdfsSiteXmlGenerator.leading, hsts]
    rfl
  rw [RoleGroupBuilder.makeHdfsSiteData_eq]
  cases r with
  | nameNode =>
    have hreplicas : (c.builder info .nameNode g none).nameNodeReplicas o .nameNode = deref none :=
      congrArg deref hn
    rw [hreplicas]
    rfl
  | dataNode => exact hgenerate _ _
  | journalNode =>
    have hlookup : info.nameNode.lookup g = _ := (h .nameNode g).trans (c.component_nameNode g)
    rw [hn] at hlookup
    simp only [RoleGroupBuilder.nameNodeReplicas, RoleGroupBuilder.getNameNodeReplicas, builder,
      hlookup]
    rfl

/-- A document is written exactly when the registry can be filled, the NameNode group exists and
the merge succeeds; then it consists of the merged leading properties and the last part. -/
theorem hdfsSite_eq_ok : c.hdfsSite o r g = .ok text ↔
    ∃ info n ps, clusterComponents c o.populate = .ok info ∧ c.nameNodeReplicas g = some n ∧
      c.siteLeading g n = .ok ps ∧ text = encode (ps ++ c.siteTail info o.site.serviceNames) := by
  constructor
  · intro h
    obtain ⟨info, hinfo, h⟩ := Go.bind_eq_ok.mp h
    have hpop := clusterComponents_populated hinfo
    cases hn : c.nameNodeReplicas g with
    | none =>
      rw [makeHdfsSiteData_of_none hpop hn] at h
      cases h
    | some n =>
      rw [makeHdfsSiteData_of_some hpop hn] at h
      cases hps : c.siteLeading g n with
      | error e =>
        rw [hps] at h
        cases h
      | ok ps =>
        rw [hps] at h
        exact ⟨info, n, ps, hinfo, rfl, hps, (Except.ok.inj h).symm⟩
  · rintro ⟨info, n, ps, hinfo, hn, hps, rfl⟩
    rw [hdfsSite, hinfo, Go.ok_bind,
      makeHdfsSiteData_of_some (clusterComponents_populated hinfo) hn, hps]
    rfl

/-- The leading properties stand in front, and only the properties by replica count follow. -/
theorem siteLeading_eq_ok {n : Int32} {ps : List XmlNameValuePair}
    (h : c.siteLeading g n = .ok ps) : 0 ≤ n.toInt ∧
      ∃ kept, ps = siteTemplateProperties ++ c.siteHead g n ++ kept ∧
        ∀ p ∈ kept, p ∈ c.siteAddresses g n := by
  obtain ⟨u, hu, h⟩ := Go.bind_eq_ok.mp h
  have hg := (c.siteGenerator_secured {} g n).securityOnly
  obtain ⟨kept, hps, hkept⟩ := XmlConfiguration.distinctProperties_keeps
    (NameNodeHdfsSiteXmlGenerator.propertyNames_head_nodup hg _)
    (fun m hm => NameNodeHdfsSiteXmlGenerator.isAddressKey_notMem_head hg _
      (NameNodeHdfsSiteXmlGenerator.isAddressKey_of_mem_addresses hm)) h
  exact ⟨nonneg_of_checkSize hu, kept, hps, hkept⟩

/-- The NameNode ids in the document of the group named `g`. -/
theorem siteGenerator_hosts (c : HdfsCluster) (g : String) (n : Int32) :
    (c.siteGenerator {} g n).hosts (c.fullName .nameNode g) =
      ⟨"dfs.ha.namenodes." ++ c.name.val,
        ",".intercalate ((ordinals n).map (ordinalName (c.fullName .nameNode g)))⟩ := by
  obtain ⟨hreplicas, hinst, -⟩ := siteGenerator_fields c {} g n
  exact congrArg₂ (fun i m => XmlNameValuePair.mk ("dfs.ha.namenodes." ++ i)
    (",".intercalate ((ordinals m).map (ordinalName (c.fullName .nameNode g))))) hinst hreplicas

/-- What follows the ids has other names, also after characters have been replaced. -/
theorem name_ne_hosts {info : ClusterComponentsInfo} {d : RangeOrder} {n : Int32}
    {p : XmlNameValuePair} (hp : p ∈ c.siteAddresses g n ∨ p ∈ c.siteTail info d) :
    (replacePair p).name ≠ "dfs.ha.namenodes." ++ c.name.val := by
  refine NameNodeHdfsSiteXmlGenerator.instanceKey_ne (by simp [instanceKeys]) _ ?_
  rcases hp with hp | hp
  · exact .inl (NameNodeHdfsSiteXmlGenerator.isAddressKey_replaceText
      (NameNodeHdfsSiteXmlGenerator.isAddressKey_of_mem_addresses
        (mem_propertyNames.mpr ⟨p, hp, rfl⟩)))
  · have hname : p.name ∈ tailNames := mem_propertyNames.mpr ⟨p, hp, rfl⟩
    refine .inr ?_
    rw [replacePair, Xml.replaceText_of_xmlText (tailNames_xmlText _ hname)]
    exact hname

/-- The NameNode ids that are read from a document are the pods of the NameNode group with the
name of the role group. -/
theorem documentValue_hosts (h : c.hdfsSite o r g = .ok text) :
    ∃ n, c.nameNodeReplicas g = some n ∧ 0 ≤ n.toInt ∧
      documentValue text ("dfs.ha.namenodes." ++ c.name.val) = some (Xml.replaceText
        (",".intercalate ((ordinals n).map (ordinalName (c.fullName .nameNode g))))) := by
  obtain ⟨info, n, ps, hinfo, hn, hps, rfl⟩ := hdfsSite_eq_ok.mp h
  obtain ⟨hsize, kept, rfl, hkept⟩ := siteLeading_eq_ok hps
  refine ⟨n, hn, hsize, ?_⟩
  have hname : Xml.replaceText ("dfs.ha.namenodes." ++ c.name.val) =
      "dfs.ha.namenodes." ++ c.name.val :=
    Xml.replaceText_of_xmlText (Xml.XmlText.append (by decide) c.name.text.plainText.xmlText)
  have hlist : siteTemplateProperties ++ c.siteHead g n ++ kept ++
      c.siteTail info o.site.serviceNames =
        siteTemplateProperties ++ ((c.siteGenerator {} g n).properties ++
          ((c.siteGenerator {} g n).makeServiceId ++
            [(c.siteGenerator {} g n).makeHdfsReplication])) ++
        (c.siteGenerator {} g n).hosts (c.fullName .nameNode g) ::
          (kept ++ c.siteTail info o.site.serviceNames) := by
    simp [siteHead, NameNodeHdfsSiteXmlGenerator.head]
  have hpair (v : String) : replacePair ⟨"dfs.ha.namenodes." ++ c.name.val, v⟩ =
      ⟨"dfs.ha.namenodes." ++ c.name.val, Xml.replaceText v⟩ :=
    congrArg (XmlNameValuePair.mk · _) hname
  rw [hlist, siteGenerator_hosts, documentValue_encode, List.map_append, List.map_cons, hpair]
  refine effectiveValue_of_last _ _ fun q hq => ?_
  obtain ⟨p, hp, rfl⟩ := List.mem_map.mp hq
  exact name_ne_hosts ((List.mem_append.mp hp).imp_left (hkept p))

/-- The full name of a role group is made of the characters of names if that of the group is. -/
theorem dnsText_fullName (r : Role) (hg : DnsText g) : DnsText (c.fullName r g) := by
  have hr : DnsText r.text := by cases r <;> decide
  exact (((c.name.text.append (by decide)).append hr).append (by decide)).append hg

theorem fullName_notMem {ch : Char} (hc : dnsChar ch = false) (r : Role)
    (hg : ch ∉ g.toList) : ch ∉ (c.fullName r g).toList := by
  have hr : DnsText r.text := by cases r <;> decide
  simp only [fullName, RoleGroupInfo.getFullName, String.toList_append, List.mem_append, not_or]
  exact ⟨⟨⟨⟨c.name.text.notMem hc, DnsText.notMem (by decide) hc⟩, hr.notMem hc⟩,
    DnsText.notMem (by decide) hc⟩, hg⟩

/-- For a group name without percent signs nothing is merged. -/
theorem siteLeading_of_percent_free {n : Int32} (hn : 0 ≤ n.toInt) (hg : '%' ∉ g.toList) :
    c.siteLeading g n =
      .ok (siteTemplateProperties ++ (c.siteHead g n ++ c.siteAddresses g n)) := by
  obtain ⟨-, hinst, -⟩ := siteGenerator_fields c {} g n
  rw [siteLeading, checkSize_of_nonneg hn, Go.ok_bind]
  refine XmlConfiguration.distinctProperties_of_nodup
    (NameNodeHdfsSiteXmlGenerator.propertyNames_nodup
      (c.siteGenerator_secured {} g n).securityOnly ?_ ?_)
  · rw [hinst]
    exact c.name.text.notMem (by decide)
  · exact fullName_notMem (by decide) .nameNode hg

/-- The document is written for every NameNode group whose name has no percent sign. -/
theorem hdfsSite_ok {n : Int32} (hset : ∀ r, c.ReplicasSet r) (hn : c.nameNodeReplicas g = some n)
    (hsize : 0 ≤ n.toInt) (hg : '%' ∉ g.toList) (o : RunOrders) (r : Role) :
    ∃ text, c.hdfsSite o r g = .ok text := by
  obtain ⟨info, hinfo⟩ := clusterComponents_ok hset o.populate
  exact ⟨_, hdfsSite_eq_ok.mpr ⟨info, n, _, hinfo, hn, siteLeading_of_percent_free hsize hg, rfl⟩⟩

end HdfsCluster

end HdfsOperator
