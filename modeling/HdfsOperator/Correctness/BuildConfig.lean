import HdfsOperator.Correctness.RoleGroupSite

/-!
# The files of a role group

The `core-site.xml` of a role group is always written. Its `hdfs-site.xml` needs a NameNode
group of the same name: the builders look the name of their own group up among the NameNode
groups, and dereference what they find.
-/

namespace HdfsOperator

open HdfsCluster

/-- The property that `core-site.xml` starts from. -/
def defaultFs (instanceName : String) : XmlNameValuePair :=
  ⟨"fs.defaultFS", "hdfs://" ++ instanceName ++ "/"⟩

/-- The properties that servers add to `core-site.xml`. -/
def coreSiteProperties (c : HdfsCluster) : List XmlNameValuePair :=
  (if isKerberosEnabled c.clusterConfig then securityCoreSiteXml c.name.val c.nameSpace.val
    else []) ++ [⟨"ha.zookeeper.quorum", "$\x7benv.ZOOKEEPER\x7d"⟩]

/-- The property of the template needs no escape. -/
theorem plainPair_defaultFs (c : HdfsCluster) : PlainPair (defaultFs c.name.val) := by
  have hname : Xml.PlainText "fs.defaultFS" := by decide
  exact ⟨hname, (Xml.PlainText.append (by decide) c.name.text.plainText).append (by decide)⟩

/-- The template of core-site.xml holds one property. -/
theorem unmarshal_coreSiteTemplate (c : HdfsCluster) :
    unmarshal (coreSiteTemplate c.name.val) = some [defaultFs c.name.val] := by
  have hplain := List.forall_mem_singleton.mpr (plainPair_defaultFs c)
  have hread := unmarshal_templateDocument hplain ""
  rwa [String.append_empty] at hread

/-- No name is written twice to core-site.xml. -/
theorem coreSiteProperties_nodup (c : HdfsCluster) :
    (propertyNames ([defaultFs c.name.val] ++ coreSiteProperties c)).Nodup := by
  unfold coreSiteProperties
  cases isKerberosEnabled c.clusterConfig
  · exact (by decide : ["fs.defaultFS", "ha.zookeeper.quorum"].Nodup)
  · exact (by decide +kernel : (propertyNames ([defaultFs ""] ++
      (securityCoreSiteXml "" "" ++ [⟨"ha.zookeeper.quorum", ""⟩]))).Nodup)

variable {c : HdfsCluster} {info : ClusterComponentsInfo} {r : Role} {g : String}

/-- The `core-site.xml` of every role group. -/
theorem makeCoreSiteData_eq (info : ClusterComponentsInfo) (r : Role) (g : String)
    (overrides : Option OverridesSpec) : (c.builder info r g overrides).makeCoreSiteData =
      .ok (encode ([defaultFs c.name.val] ++ coreSiteProperties c)) := by
  have hgenerate : (c.builder info r g overrides).makeCoreSiteData =
      append unmarshal (coreSiteTemplate c.name.val) (coreSiteProperties c) := by
    unfold RoleGroupBuilder.makeCoreSiteData coreSiteProperties builder
      CoreSiteXmlGenerator.enableKerberos
    cases isKerberosEnabled c.clusterConfig <;> rfl
  rw [hgenerate, XmlConfiguration.append_of_nodup (unmarshal_coreSiteTemplate c)
    (List.cons_ne_nil _ _) (coreSiteProperties_nodup c)]

/-- The names of the files of a role. -/
def configFileNames (r : Role) : List String :=
  [coreSiteFileName, hdfsSiteFileName, hadoopPolicyFileName, securityFileName, sslClientFileName,
    sslServerFileName] ++
    (RoleGroupBuilder.logComponents r).map createComponentLog4jPropertiesName

/-- The names are distinct, and none is that of the configuration of the log agent. -/
theorem configFileNames_facts (r : Role) :
    (configFileNames r).Nodup ∧ vectorConfigFileName ∉ configFileNames r := by
  cases r <;> decide +kernel

/-- The names of the files of a config map. -/
theorem configFiles_names (r : Role) (coreSite hdfsSite sslClient sslServer : String) :
    (RoleGroupBuilder.configFiles r coreSite hdfsSite sslClient sslServer).map Prod.fst =
      configFileNames r := by
  rw [RoleGroupBuilder.configFiles, List.map_append, List.map_map]
  rfl

/-- What it takes to write the files. -/
theorem buildConfig_eq_ok {b : RoleGroupBuilder} {fw : Framework} {o : SiteOrders}
    {configs : GoMap String} : b.buildConfig fw o r = .ok configs ↔
      ∃ coreSite hdfsSite sslClient sslServer, b.makeCoreSiteData = .ok coreSite ∧
        b.makeHdfsSiteData o r = .ok hdfsSite ∧
        makeSslClientData fw b.instance'.clusterConfig = .ok sslClient ∧
        makeSslServerData fw b.instance'.clusterConfig = .ok sslServer ∧
        configs = .ofList (RoleGroupBuilder.configFiles r coreSite hdfsSite sslClient
          sslServer) := by
  constructor
  · intro h
    obtain ⟨coreSite, hcore, h⟩ := Go.bind_eq_ok.mp h
    obtain ⟨hdfsSite, hsite, h⟩ := Go.bind_eq_ok.mp h
    obtain ⟨sslClient, hclient, h⟩ := Go.bind_eq_ok.mp h
    obtain ⟨sslServer, hserver, h⟩ := Go.bind_eq_ok.mp h
    exact ⟨coreSite, hdfsSite, sslClient, sslServer, hcore, hsite, hclient, hserver,
      (Except.ok.inj h).symm⟩
  · rintro ⟨coreSite, hdfsSite, sslClient, sslServer, hcore, hsite, hclient, hserver, rfl⟩
    rw [RoleGroupBuilder.buildConfig, hcore, Go.ok_bind, hsite, Go.ok_bind, hclient, Go.ok_bind,
      hserver, Go.ok_bind]
    rfl

/-- Overrides do not change the generated hdfs-site.xml. -/
theorem makeHdfsSiteData_overrides (overrides : Option OverridesSpec) (o : SiteOrders) :
    (c.builder info r g overrides).makeHdfsSiteData o r =
      (c.builder info r g none).makeHdfsSiteData o r := by
  cases r <;> rfl

section Cluster

variable {fw : Framework} {o : RunOrders} {overrides : Option OverridesSpec}

/-- Without TLS the files are written for every NameNode group whose name has no percent sign. -/
theorem buildConfig_ok {n : Int32} (hset : ∀ r, c.ReplicasSet r)
    (hn : c.nameNodeReplicas g = some n) (hsize : 0 ≤ n.toInt) (hg : '%' ∉ g.toList)
    (htls : isTlsEnabled c.clusterConfig = false) (fw : Framework) (o : RunOrders) (r : Role)
    (overrides : Option OverridesSpec) :
    ∃ configs, c.buildConfig fw o r g overrides = .ok configs := by
  have hssl (entries : TlsSpec → List (String × String)) :
      makeSslData fw c.clusterConfig entries = .ok emptyXmlConfig := by
    rw [makeSslData, htls]
    rfl
  obtain ⟨text, hsite⟩ := hdfsSite_ok hset hn hsize hg o r
  obtain ⟨info, hinfo, hsite⟩ := Go.bind_eq_ok.mp hsite
  rw [← makeHdfsSiteData_overrides overrides] at hsite
  refine ⟨_, Go.bind_eq_ok.mpr ⟨info, hinfo, buildConfig_eq_ok.mpr
    ⟨_, text, _, _, makeCoreSiteData_eq info r g overrides, hsite, hssl _, hssl _, rfl⟩⟩⟩

/-- The `core-site.xml` among the files of a role group. -/
theorem buildConfig_coreSite {configs : GoMap String}
    (h : c.buildConfig fw o r g overrides = .ok configs) : configs.lookup coreSiteFileName =
      some (encode ([defaultFs c.name.val] ++ coreSiteProperties c)) := by
  obtain ⟨info, -, h⟩ := Go.bind_eq_ok.mp h
  obtain ⟨coreSite, _, _, _, hcore, -, -, -, rfl⟩ := buildConfig_eq_ok.mp h
  rw [makeCoreSiteData_eq, Except.ok.injEq] at hcore
  subst hcore
  refine GoMap.lookup_ofList_of_mem ?_ List.mem_cons_self
  rw [configFiles_names]
  exact (configFileNames_facts r).1

end Cluster

/-- The ssl files follow no pointer that can be nil. -/
theorem makeSslData_ne_nilDereference (fw : Framework) (clusterSpec : ClusterConfigSpec)
    (entries : TlsSpec → List (String × String)) :
    makeSslData fw clusterSpec entries ≠ .error (.panic .nilDereference) := by
  intro h
  unfold makeSslData at h
  split at h
  · next htls =>
    -- TLS is on only when both settings are there.
    obtain ⟨authentication, tls, hauth, hsome⟩ : ∃ authentication tls,
        clusterSpec.authentication = some authentication ∧ authentication.tls = some tls := by
      simpa [isTlsEnabled, Option.any_eq_true, Option.isSome_iff_exists] using htls
    simp only [hauth, hsome, deref_some, Go.ok_bind, mustMarshal] at h
    split at h <;> cases h
  · cases h

/-- Merging follows no pointer. -/
private theorem run_ne_nilDereference (l : List XmlNameValuePair) (s : Distinct) :
    Distinct.run l s ≠ .error (.panic .nilDereference) := by
  induction l generalizing s with
  | nil => nofun
  | cons v l ih =>
    intro h
    rcases Go.bind_eq_error.mp h with hstep | ⟨s', -, hrun⟩
    · unfold Distinct.step at hstep
      split at hstep
      · cases hstep
      · split at hstep <;> cases hstep
    · exact ih s' hrun

/-- The generated part of hdfs-site.xml follows no pointer that can be nil. -/
theorem siteLeading_ne_nilDereference (n : Int32) :
    c.siteLeading g n ≠ .error (.panic .nilDereference) := by
  intro h
  rcases Go.bind_eq_error.mp h with hsize | ⟨u, -, h⟩
  · unfold checkSize at hsize
    split at hsize <;> cases hsize
  · rcases Go.bind_eq_error.mp h with hrun | ⟨s, -, h⟩
    · exact run_ne_nilDereference _ _ hrun
    · cases h

/-- The builder of a role group dereferences nil exactly when there is no NameNode group with the
name of the role group. -/
theorem buildConfig_eq_nilDereference_iff (h : info.Populated c) (fw : Framework) (o : SiteOrders)
    (r : Role) (g : String) (overrides : Option OverridesSpec) :
    (c.builder info r g overrides).buildConfig fw o r = .error (.panic .nilDereference) ↔
      c.nameNodeReplicas g = none := by
  rw [RoleGroupBuilder.buildConfig, makeCoreSiteData_eq, Go.ok_bind, makeHdfsSiteData_overrides]
  constructor
  · intro hnil
    by_contra hsome
    obtain ⟨n, hn⟩ := Option.ne_none_iff_exists'.mp hsome
    rcases Go.bind_eq_error.mp hnil with hsite | ⟨text, -, hnil⟩
    · rw [makeHdfsSiteData_of_some h hn] at hsite
      cases hps : c.siteLeading g n with
      | ok ps =>
        rw [hps] at hsite
        cases hsite
      | error e =>
        rw [hps] at hsite
        exact siteLeading_ne_nilDereference n (hps.trans (congrArg _ (Except.error.inj hsite)))
    rcases Go.bind_eq_error.mp hnil with hclient | ⟨client, -, hnil⟩
    · exact makeSslData_ne_nilDereference _ _ _ hclient
    rcases Go.bind_eq_error.mp hnil with hserver | ⟨server, -, hnil⟩
    · exact makeSslData_ne_nilDereference _ _ _ hserver
    · cases hnil
  · intro hn
    rw [makeHdfsSiteData_of_none h hn, Go.error_bind]

/-- A NameNode group has a replica count exactly when it is there. -/
theorem nameNodeReplicas_eq_none_iff (hset : c.ReplicasSet .nameNode) :
    c.nameNodeReplicas g = none ↔ g ∉ (c.groups .nameNode).keys := by
  rw [← AList.mem_keys, ← AList.lookup_eq_none]
  constructor
  · intro hn
    cases hs : (c.groups .nameNode).lookup g with
    | none => rfl
    | some s =>
      rw [nameNodeReplicas, hs] at hn
      exact absurd hn (hset g s hs)
  · intro hs
    rw [nameNodeReplicas, hs]
    rfl

/-- The config map of a group needs the NameNode group of the same name, and nothing else that can
be nil. -/
private theorem buildConfig_run_iff (hset : ∀ r, c.ReplicasSet r) (fw : Framework) (o : RunOrders)
    (r : Role) (g : String) (overrides : Option OverridesSpec) :
    c.buildConfig fw o r g overrides = .error (.panic .nilDereference) ↔
      g ∉ (c.groups .nameNode).keys := by
  obtain ⟨info, hinfo⟩ := clusterComponents_ok hset o.populate
  rw [buildConfig, hinfo, Go.ok_bind,
    buildConfig_eq_nilDereference_iff (clusterComponents_populated hinfo),
    nameNodeReplicas_eq_none_iff (hset .nameNode)]

/-- No builder of a cluster dereferences nil exactly when every role group of every role has the
name of a NameNode group. -/
theorem buildConfig_nil_free_iff (hset : ∀ r, c.ReplicasSet r) :
    (∀ fw o r g overrides, g ∈ (c.groups r).keys →
      c.buildConfig fw o r g overrides ≠ .error (.panic .nilDereference)) ↔
    ∀ r, ∀ g ∈ (c.groups r).keys, g ∈ (c.groups .nameNode).keys := by
  constructor
  · intro h r g hg
    by_contra hnot
    have hfw : Framework := ⟨fun _ => .ok "", fun _ _ => .ok ""⟩
    exact h hfw .stored r g none hg ((buildConfig_run_iff hset _ _ _ _ _).mpr hnot)
  · intro h fw o r g overrides hg hnil
    exact (buildConfig_run_iff hset _ _ _ _ _).mp hnil (h r g hg)

/-- A cluster with one group for each role, where the DataNode group has a name of its own. -/
def separateDataNodes : HdfsCluster :=
  .ofReplicas {} [("default", 2)] [("workers", 3)] [("default", 3)]

theorem buildConfig_nil_free_iff_separateDataNodes :
    (∀ fw o r g overrides, g ∈ (separateDataNodes.groups r).keys →
      separateDataNodes.buildConfig fw o r g overrides ≠ .error (.panic .nilDereference)) ↔
    ∀ r, ∀ g ∈ (separateDataNodes.groups r).keys,
      g ∈ (separateDataNodes.groups .nameNode).keys :=
  buildConfig_nil_free_iff (ofReplicas_replicasSet _ _ _ _)

/-- The DataNode group `workers` has no NameNode group of its name. -/
theorem buildConfig_nil_dereference :
    "workers" ∈ (separateDataNodes.groups .dataNode).keys ∧
      ∀ fw o overrides, separateDataNodes.buildConfig fw o .dataNode "workers" overrides =
        .error (.panic .nilDereference) :=
  ⟨by decide, fun _ _ _ => (buildConfig_run_iff (ofReplicas_replicasSet _ _ _ _) _ _ _ _ _).mpr
    (by decide)⟩

end HdfsOperator
