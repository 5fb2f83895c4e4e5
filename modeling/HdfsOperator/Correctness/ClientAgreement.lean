import HdfsOperator.Correctness.BuildConfig
import HdfsOperator.Correctness.Discovery

/-!
# Clients and servers

The configuration of clients and that of NameNodes come from separate code. With a single
NameNode group they agree: whatever a client reads, the NameNode reads too, with the same
value except for the addresses, which lead clients to the listeners.
-/

namespace HdfsOperator

open HdfsCluster

/-- A name under which an address of a NameNode is written. -/
def IsConnectionKey (name : String) : Prop :=
  ∃ p ∈ discoveryPorts, ∃ t, name = connectionKey p ++ t

/-- Every property of the second list occurs in the first, with the same value unless it is an
address. -/
def Covers (server client : List XmlNameValuePair) : Prop :=
  ∀ p ∈ client, ∃ q ∈ server, q.name = p.name ∧ (IsConnectionKey p.name ∨ q.value = p.value)

/-- Clients and servers use the same keys for addresses. -/
theorem connectionKey_mem_addressKeys : ∀ p ∈ discoveryPorts, connectionKey p ∈ addressKeys := by
  decide +kernel

/-- What the encoder writes instead of a key is a key of the same kind. -/
theorem isConnectionKey_replaceText {name : String} (h : IsConnectionKey name) :
    IsConnectionKey (Xml.replaceText name) := by
  obtain ⟨p, hp, t, rfl⟩ := h
  have hxml : ∀ p ∈ discoveryPorts, Xml.XmlText (connectionKey p) := by decide +kernel
  exact ⟨p, hp, Xml.replaceText t, by
    rw [Xml.replaceText_append, Xml.replaceText_of_xmlText (hxml p hp)]⟩

/-- What covers another list still does so after both have been written and read. -/
theorem Covers.map_replacePair {server client : List XmlNameValuePair} (h : Covers server client) :
    Covers (server.map replacePair) (client.map replacePair) := by
  intro p hp
  obtain ⟨p₀, hp₀, rfl⟩ := List.mem_map.mp hp
  obtain ⟨q, hq, hname, hvalue⟩ := h p₀ hp₀
  refine ⟨replacePair q, List.mem_map_of_mem hq, congrArg Xml.replaceText hname, ?_⟩
  exact hvalue.imp isConnectionKey_replaceText (congrArg Xml.replaceText)

/-- Properties that are there cover themselves. -/
theorem covers_of_subset {server client : List XmlNameValuePair} (h : client ⊆ server) :
    Covers server client :=
  fun p hp => ⟨p, h hp, rfl, .inr rfl⟩

/-- Two lists are covered if each of them is. -/
theorem Covers.append {server a b : List XmlNameValuePair} (ha : Covers server a)
    (hb : Covers server b) : Covers server (a ++ b) :=
  fun p hp => (List.mem_append.mp hp).elim (ha p) (hb p)

section Client

variable {c : HdfsCluster} {d : RangeOrder} {client : ApiClient}

/-- The Kerberos properties of a client in `hdfs-site.xml`, if Kerberos is on. -/
def clientSecurity (clusterConfig : ClusterConfigSpec) : List XmlNameValuePair :=
  if isKerberosEnabled clusterConfig then securityDiscoveryHdfsSiteXml else []

/-- The security properties of a client have names of their own. -/
theorem clientSecurity_facts (clusterConfig : ClusterConfigSpec) :
    ("dfs.nameservices" :: propertyNames (clientSecurity clusterConfig)).Nodup ∧
      "dfs.nameservices" :: propertyNames (clientSecurity clusterConfig) ⊆
        fixedNames clusterConfig := by
  have hon : ("dfs.nameservices" :: propertyNames securityDiscoveryHdfsSiteXml).Nodup ∧
      propertyNames securityDiscoveryHdfsSiteXml ⊆ propertyNames securityHdfsSiteXml := by
    decide +kernel
  have hname : "dfs.nameservices" ∈ fixedNames clusterConfig := by simp [fixedNames]
  unfold clientSecurity
  split
  · next hkrb =>
    refine ⟨hon.1, List.cons_subset.mpr ⟨hname, fun n hn => ?_⟩⟩
    rw [fixedNames, propertyNames_securityProperties, if_pos hkrb]
    simp [hon.2 hn]
  · exact ⟨List.nodup_singleton _, List.cons_subset.mpr ⟨hname, List.nil_subset _⟩⟩

/-- The names in the `hdfs-site.xml` of clients are distinct. -/
theorem clientSite_names_nodup {ps : List XmlNameValuePair} (hps : propertyNames ps =
      discoveryNames c.name.val [webPort c.clusterConfig, "rpc"] (discoveryPods c d)) :
    (propertyNames (commonHdfsSiteXml c ++ (ps ++ clientSecurity c.clusterConfig))).Nodup := by
  obtain ⟨hports, hnodup⟩ := webPort_facts c.clusterConfig
  obtain ⟨hfixed, hsub⟩ := clientSecurity_facts c.clusterConfig
  obtain ⟨-, hstart, -⟩ := fixedNames_facts c.clusterConfig
  -- The fixed names stand first; the others start with a key and end in the instance or a pod.
  have hperm : (propertyNames (commonHdfsSiteXml c ++ (ps ++ clientSecurity c.clusterConfig))).Perm
      (("dfs.nameservices" :: propertyNames (clientSecurity c.clusterConfig)) ++
        ("dfs.client.failover.proxy.provider." ++ c.name.val) :: propertyNames ps) := by
    rw [propertyNames_append, propertyNames_append]
    refine List.Perm.cons _ ?_
    exact @List.perm_append_comm _ (_ :: propertyNames ps) _
  have hkey : ∀ n ∈ propertyNames ps, n = "dfs.ha.namenodes." ++ c.name.val ∨ IsAddressKey n := by
    intro n hn
    rw [hps, discoveryNames, List.mem_cons, List.mem_flatMap] at hn
    rcases hn with hn | ⟨p, hp, hn⟩
    · exact .inl hn
    · obtain ⟨podName, -, rfl⟩ := List.mem_map.mp hn
      exact .inr ⟨connectionKey p, connectionKey_mem_addressKeys p (hports hp), _,
        connectionName_eq p c.name.val podName⟩
  have hfailover : "dfs.client.failover.proxy.provider." ++ c.name.val ∉ propertyNames ps := by
    intro hmem
    rcases hkey _ hmem with heq | haddress
    · exact append_ne_append (by decide +kernel) (by decide +kernel) _ _ heq
    · exact NameNodeHdfsSiteXmlGenerator.instanceKey_ne (by simp [instanceKeys]) _
        (.inl haddress) rfl
  have hpsNodup := hps ▸ discoveryNames_nodup c.name.val hports hnodup (discoveryPods_nodup c d)
  rw [hperm.nodup_iff, List.nodup_append]
  refine ⟨hfixed, List.nodup_cons.mpr ⟨hfailover, hpsNodup⟩, ?_⟩
  rintro n hn m hm rfl
  have hfix := hsub hn
  rcases List.mem_cons.mp hm with rfl | hm
  · exact append_notMem (hstart _ (by simp [instanceKeys])) _ hfix
  · rcases hkey n hm with rfl | ⟨p, hp, t, rfl⟩
    · exact append_notMem (hstart _ (by simp [instanceKeys])) _ hfix
    · exact append_notMem (hstart p (List.mem_append_left _ hp)) _ hfix

/-- When all ports are found, the `hdfs-site.xml` of clients is written, with all addresses. -/
theorem makeHdfsSiteXmlData_ok {spec : RoleSpec} (hspec : c.nameNode = some spec)
    (hweb : PassAnswered client c d (webPort c.clusterConfig))
    (hrpc : PassAnswered client c d "rpc") :
    ∃ connections,
      propertyNames (makeDiscoveryHosts c.name.val (discoveryPods c d) :: connections) =
        discoveryNames c.name.val [webPort c.clusterConfig, "rpc"] (discoveryPods c d) ∧
      makeHdfsSiteXmlData client c d = .ok (encode (commonHdfsSiteXml c ++
        (makeDiscoveryHosts c.name.val (discoveryPods c d) :: connections ++
          clientSecurity c.clusterConfig))) := by
  rcases makeDynamicHdfsSiteXml_cases client c d hspec with
    ⟨hnot, -⟩ | ⟨-, connections, hok, hnames⟩
  · exact absurd hweb hnot
  rw [if_pos hrpc] at hnames
  refine ⟨connections, hnames, ?_⟩
  have hsecurity (ps : List XmlNameValuePair) : (if isKerberosEnabled c.clusterConfig then
      ps ++ securityDiscoveryHdfsSiteXml else ps) = ps ++ clientSecurity c.clusterConfig := by
    unfold clientSecurity
    split <;> simp
  have hnonempty : (⟨commonHdfsSiteXml c⟩ : XmlConfiguration).properties ≠ [] :=
    List.cons_ne_nil _ _
  rw [makeHdfsSiteXmlData, hok, Go.ok_bind, hsecurity, XmlConfiguration.string,
    XmlConfiguration.merged, if_pos hnonempty, XmlConfiguration.distinctProperties_of_nodup
      (c := ⟨commonHdfsSiteXml c⟩) (clientSite_names_nodup hnames)]
  rfl

/-- The Kerberos properties of a client in `core-site.xml`, if Kerberos is on. -/
def clientCoreSecurity (c : HdfsCluster) : List XmlNameValuePair :=
  if isKerberosEnabled c.clusterConfig then securityDiscoveryCoreSiteXml c.name.val c.nameSpace.val
  else []

/-- The `core-site.xml` of clients is always written. -/
theorem makeCoreSiteXmlData_ok (c : HdfsCluster) : ∃ text, makeCoreSiteXmlData c = .ok text ∧
    unmarshal text = some (([defaultFs c.name.val] ++ clientCoreSecurity c).map replacePair) := by
  unfold makeCoreSiteXmlData clientCoreSecurity CoreSiteXmlGenerator.enableKerberos
  cases isKerberosEnabled c.clusterConfig
  · refine ⟨coreSiteTemplate c.name.val, rfl, ?_⟩
    rw [unmarshal_coreSiteTemplate]
    exact congrArg (fun p => some [p])
      (replacePair_of_xmlPair (plainPair_defaultFs c).xmlPair).symm
  · have hnodup : (propertyNames ([defaultFs c.name.val] ++
        securityDiscoveryCoreSiteXml c.name.val c.nameSpace.val)).Nodup :=
      (by decide +kernel : (propertyNames ([defaultFs ""] ++
        securityDiscoveryCoreSiteXml "" "")).Nodup)
    exact ⟨_, XmlConfiguration.append_of_nodup (unmarshal_coreSiteTemplate c)
      (List.cons_ne_nil _ _) hnodup, unmarshal_encode _⟩

end Client

section Server

variable {c : HdfsCluster} {g : String} {n : Int32}

/-- The leading part of the generated hdfs-site.xml in terms of what clients get. -/
theorem siteHead_eq (c : HdfsCluster) (g : String) (n : Int32) :
    c.siteHead g n = securityProperties c.clusterConfig ++ (commonHdfsSiteXml c ++
      [(c.siteGenerator {} g n).makeHdfsReplication,
        ⟨"dfs.ha.namenodes." ++ c.name.val,
          ",".intercalate ((ordinals n).map (ordinalName (c.fullName .nameNode g)))⟩]) := by
  have hgenerator : (c.siteGenerator {} g n).properties = securityProperties c.clusterConfig ∧
      (c.siteGenerator {} g n).makeServiceId = commonHdfsSiteXml c := by
    simp only [HdfsCluster.siteGenerator, RoleGroupBuilder.siteGenerator_eq]
    exact ⟨rfl, rfl⟩
  rw [siteHead, NameNodeHdfsSiteXmlGenerator.head, siteGenerator_hosts, hgenerator.1, hgenerator.2]

/-- The names of the addresses in the document of a NameNode group. -/
theorem connectionName_mem_siteAddresses (hg : DnsText g) {p : String}
    (hp : p ∈ [webPort c.clusterConfig, "rpc"]) {i : Nat} (hi : i ∈ ordinals n) :
    connectionName p c.name.val (ordinalName (c.fullName .nameNode g) i) ∈
      propertyNames (c.siteAddresses g n) := by
  have hfields : (c.siteGenerator {} g n).instanceName = c.name.val ∧
      (c.siteGenerator {} g n).nameNodeReplicas = n ∧
      (c.siteGenerator {} g n).clusterConfig = c.clusterConfig := by
    simp only [HdfsCluster.siteGenerator, RoleGroupBuilder.siteGenerator_eq]
    exact ⟨rfl, rfl, rfl⟩
  have hkey : connectionKey p = (c.siteGenerator {} g n).httpKey ∨
      connectionKey p = "dfs.namenode.rpc-address." := by
    rcases List.mem_pair.mp hp with rfl | rfl
    · refine .inl ?_
      rw [NameNodeHdfsSiteXmlGenerator.httpKey, hfields.2.2]
      unfold webPort
      split <;> rfl
    · exact .inr rfl
  have hname (sts : String) : connectionName p c.name.val (ordinalName sts i) =
      ordinalName (connectionKey p ++ c.name.val ++ "." ++ sts) i := by
    simp only [connectionName_eq, ordinalName, String.append_assoc]
  rw [siteAddresses, NameNodeHdfsSiteXmlGenerator.propertyNames_addresses
    (hfields.1 ▸ c.name.text.notMem (by decide))
    (fullName_notMem (by decide) _ (hg.notMem (by decide))), hname]
  simp only [NameNodeHdfsSiteXmlGenerator.keyNames, hfields.1, hfields.2.1, List.mem_append]
  rcases hkey with hkey | hkey
  · exact .inl (.inl (hkey ▸ List.mem_map_of_mem hi))
  · exact .inl (.inr (hkey ▸ List.mem_map_of_mem hi))

end Server

section Agreement

variable {c : HdfsCluster} {g : String} {n : Int32}

/-- With a single group every loop enumerates its pods. -/
theorem discoveryPods_of_single (hkeys : (c.groups .nameNode).keys = [g])
    (hn : c.nameNodeReplicas g = some n) (d : RangeOrder) :
    discoveryPods c d = (ordinals n).map (ordinalName (c.fullName .nameNode g)) := by
  obtain ⟨s, hs, hr⟩ := Option.bind_eq_some_iff.mp hn
  rw [discoveryPods, getPodNames_eq, podNames, GoMap.range_of_keys_eq_singleton hkeys hs,
    ordinals_podCount hr, List.flatMap_cons, List.flatMap_nil, List.append_nil]

/-- Servers have the security properties of clients. -/
theorem clientSecurity_subset (clusterConfig : ClusterConfigSpec) :
    clientSecurity clusterConfig ⊆ securityProperties clusterConfig := by
  unfold clientSecurity securityProperties
  split
  · exact fun p hp => List.mem_append_left _ (securityDiscoveryHdfsSiteXml_subset hp)
  · exact List.nil_subset _

/-- Servers have the core-site properties of clients. -/
theorem clientCoreSecurity_subset (c : HdfsCluster) :
    clientCoreSecurity c ⊆ coreSiteProperties c := by
  unfold clientCoreSecurity coreSiteProperties
  split
  · exact fun p hp => List.mem_append_left _ (securityDiscoveryCoreSiteXml_subset _ _ hp)
  · exact List.nil_subset _

/-- The addresses of clients have names that the NameNodes use for their own addresses. -/
theorem covers_connections (hname : DnsText g) {podNames : List String}
    {hosts : XmlNameValuePair} {connections : List XmlNameValuePair}
    (hpods : podNames = (ordinals n).map (ordinalName (c.fullName .nameNode g)))
    (hnames : propertyNames (hosts :: connections) =
      discoveryNames c.name.val [webPort c.clusterConfig, "rpc"] podNames) :
    Covers (c.siteAddresses g n) connections := by
  intro p hp
  have htail : propertyNames connections = _ := (List.cons.inj hnames).2
  have hmem : p.name ∈ propertyNames connections := mem_propertyNames.mpr ⟨p, hp, rfl⟩
  rw [htail] at hmem
  obtain ⟨port, hport, hmem⟩ := List.mem_flatMap.mp hmem
  obtain ⟨podName, hpod, hpname⟩ := List.mem_map.mp hmem
  rw [hpods] at hpod
  obtain ⟨i, hi, rfl⟩ := List.mem_map.mp hpod
  obtain ⟨q, hq, hqname⟩ := mem_propertyNames.mp
    (connectionName_mem_siteAddresses (c := c) hname hport hi)
  refine ⟨q, hq, hqname.trans hpname, .inl ?_⟩
  exact ⟨port, (webPort_facts c.clusterConfig).1 hport, _,
    hpname.symm.trans (connectionName_eq _ _ _)⟩

/-- With one NameNode group the generated hdfs-site.xml covers what a client gets, the addresses by
their names. -/
theorem covers_site (hname : DnsText g) (hkeys : (c.groups .nameNode).keys = [g])
    (hn : c.nameNodeReplicas g = some n) {d : RangeOrder} {connections : List XmlNameValuePair}
    (hnames : propertyNames (makeDiscoveryHosts c.name.val (discoveryPods c d) :: connections) =
      discoveryNames c.name.val [webPort c.clusterConfig, "rpc"] (discoveryPods c d)) :
    Covers (c.siteHead g n ++ c.siteAddresses g n) (commonHdfsSiteXml c ++
      (makeDiscoveryHosts c.name.val (discoveryPods c d) :: connections ++
        clientSecurity c.clusterConfig)) := by
  have hpods := discoveryPods_of_single hkeys hn d
  have hhosts : makeDiscoveryHosts c.name.val (discoveryPods c d) ∈ c.siteHead g n := by
    rw [siteHead_eq, hpods]
    exact List.mem_append_right _
      (List.mem_append_right _ (List.mem_cons_of_mem _ List.mem_cons_self))
  have hcommon : commonHdfsSiteXml c ⊆ c.siteHead g n := by
    rw [siteHead_eq]
    exact fun p hp => List.mem_append_right _ (List.mem_append_left _ hp)
  have hsecurity : clientSecurity c.clusterConfig ⊆ c.siteHead g n := by
    rw [siteHead_eq]
    exact fun p hp => List.mem_append_left _ (clientSecurity_subset _ hp)
  have haddresses : Covers (c.siteHead g n ++ c.siteAddresses g n) connections := fun p hp => by
    obtain ⟨q, hq, hqp⟩ := covers_connections hname hpods hnames p hp
    exact ⟨q, List.mem_append_right _ hq, hqp⟩
  have hhead {ps : List XmlNameValuePair} (hps : ps ⊆ c.siteHead g n) :
      Covers (c.siteHead g n ++ c.siteAddresses g n) ps :=
    covers_of_subset fun p hp => List.mem_append_left _ (hps hp)
  exact (hhead hcommon).append
    (((hhead (List.cons_subset.mpr ⟨hhosts, List.nil_subset _⟩)).append haddresses).append
      (hhead hsecurity))

/-- With a single NameNode group and all ports found, the documents of clients and of NameNodes
are written, and everything in those of clients is also in those of NameNodes: with the same value
in `core-site.xml`, and in `hdfs-site.xml` up to the addresses. -/
theorem client_agrees_with_nameNode {client : ApiClient} {d : RangeOrder} (o : RunOrders)
    (hkeys : (c.groups .nameNode).keys = [g]) (hname : DnsText g) (hsized : ∀ r, c.Sized r)
    (hweb : PassAnswered client c d (webPort c.clusterConfig))
    (hrpc : PassAnswered client c d "rpc") :
    ∃ info clientSite clientCore serverSite serverCore,
      makeHdfsSiteXmlData client c d = .ok clientSite ∧ makeCoreSiteXmlData c = .ok clientCore ∧
      clusterComponents c o.populate = .ok info ∧ c.hdfsSite o .nameNode g = .ok serverSite ∧
      (c.builder info .nameNode g none).makeCoreSiteData = .ok serverCore ∧
      (∃ fromClient fromServer, unmarshal clientSite = some fromClient ∧
        unmarshal serverSite = some fromServer ∧ Covers fromServer fromClient) ∧
      ∃ fromClient fromServer, unmarshal clientCore = some fromClient ∧
        unmarshal serverCore = some fromServer ∧ fromClient ⊆ fromServer := by
  obtain ⟨s, hs⟩ : ∃ s, (c.groups .nameNode).lookup g = some s :=
    Option.isSome_iff_exists.mp (AList.lookup_isSome.mpr (AList.mem_keys.mpr (by simp [hkeys])))
  obtain ⟨n, hr, hpos⟩ := hsized .nameNode g s hs
  have hn : c.nameNodeReplicas g = some n := by rw [nameNodeReplicas, hs, Option.bind_some, hr]
  obtain ⟨spec, hspec⟩ := exists_nameNode hs
  obtain ⟨connections, hnames, hclient⟩ := makeHdfsSiteXmlData_ok hspec hweb hrpc
  obtain ⟨clientCore, hcore, hreadCore⟩ := makeCoreSiteXmlData_ok c
  obtain ⟨info, hinfo⟩ := clusterComponents_ok (fun r => (hsized r).replicasSet) o.populate
  have hserver := hdfsSite_eq_ok (o := o) (r := .nameNode).mpr ⟨info, n, _, hinfo, hn,
    siteLeading_of_percent_free hpos (hname.notMem (by decide)), rfl⟩
  refine ⟨info, _, clientCore, _, _, hclient, hcore, hinfo, hserver, makeCoreSiteData_eq _ _ _ _,
    ⟨_, _, unmarshal_encode _, unmarshal_encode _, Covers.map_replacePair fun p hp => ?_⟩,
    _, _, hreadCore, unmarshal_encode _, List.map_subset _ ?_⟩
  · obtain ⟨q, hq, hqp⟩ := covers_site hname hkeys hn hnames p hp
    exact ⟨q, List.mem_append_left _ (List.mem_append_right _ hq), hqp⟩
  · exact List.cons_subset.mpr ⟨List.mem_cons_self, fun p hp =>
      List.mem_cons_of_mem _ (clientCoreSecurity_subset c hp)⟩

end Agreement

/-- A cluster with Kerberos and TLS. -/
def securedCluster : HdfsCluster :=
  .ofReplicas { authentication := some { tls := some {}, kerberos := some ⟨"kerberos"⟩ } }
    [("default", 2)] [("default", 1)] [("default", 3)]

theorem client_agrees_with_nameNode_securedCluster :
    ∃ clientSite serverSite fromClient fromServer,
      makeHdfsSiteXmlData readyClient securedCluster .stored = .ok clientSite ∧
      securedCluster.hdfsSite .stored .nameNode "default" = .ok serverSite ∧
      unmarshal clientSite = some fromClient ∧ unmarshal serverSite = some fromServer ∧
      Covers fromServer fromClient := by
  obtain ⟨_, clientSite, _, serverSite, _, hclient, -, -, hserver, -,
    ⟨fromClient, fromServer, hreadClient, hreadServer, hcovers⟩, -⟩ :=
    client_agrees_with_nameNode (c := securedCluster) (g := "default") .stored rfl (by decide)
      (ofReplicas_sized _ (by decide))
      (readyClient_passAnswered securedCluster .stored List.mem_cons_self)
      (readyClient_passAnswered securedCluster .stored (by simp))
  exact ⟨clientSite, serverSite, fromClient, fromServer, hclient, hserver, hreadClient,
    hreadServer, hcovers⟩

end HdfsOperator
