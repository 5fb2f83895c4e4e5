import HdfsOperator.Correctness.ByReplicas
import HdfsOperator.Correctness.Containers
import HdfsOperator.Correctness.Discovery
import HdfsOperator.Correctness.MergeByName

/-!
# What hdfs-site.xml says and what containers have

The servers of a role group read the `hdfs-site.xml` of the group. What it says about the web
interface, the directories for data and the addresses of NameNodes has to fit the probes, the
mounts and the ports of the containers, which are built elsewhere. How a server publishes its web
interface is a parameter.
-/

namespace HdfsOperator

open HdfsCluster

section Fixed

variable {c : HdfsCluster} {g : String} {n : Int32} {info : ClusterComponentsInfo} {d : RangeOrder}

/-- The properties of the document of the group named `g` besides those by replica count. -/
def fixedProperties (c : HdfsCluster) (g : String) (n : Int32) (info : ClusterComponentsInfo)
    (d : RangeOrder) : List XmlNameValuePair :=
  siteTemplateProperties ++ c.siteHead g n ++ c.siteTail info d

/-- The generator of a role group has the security properties of its cluster. -/
theorem siteGenerator_properties (c : HdfsCluster) (g : String) (n : Int32) :
    (c.siteGenerator {} g n).instanceName = c.name.val ∧
      (c.siteGenerator {} g n).properties = securityProperties c.clusterConfig := by
  rw [siteGenerator, RoleGroupBuilder.siteGenerator_eq]
  exact ⟨rfl, rfl⟩

theorem fixedNames_xmlText (clusterConfig : ClusterConfigSpec) :
    ∀ name ∈ fixedNames clusterConfig, Xml.XmlText name := by
  have hall : ∀ name ∈ siteNames, Xml.XmlText name := by decide +kernel
  have hsub : (fixedNames clusterConfig).Sublist siteNames :=
    ((propertyNames_securityProperties_sublist clusterConfig).append_left _).append_right _
  exact fun name hname => hall name (hsub.subset hname)

/-- A name is fixed, ends in the instance name, or stands in the last part. -/
theorem mem_names_fixedProperties {name : String}
    (h : name ∈ propertyNames (fixedProperties c g n info d)) :
    name ∈ fixedNames c.clusterConfig ∨ (∃ q ∈ instanceKeys, name = q ++ c.name.val) ∨
      name ∈ tailNames := by
  obtain ⟨hname, hproperties⟩ := siteGenerator_properties c g n
  rw [fixedProperties, propertyNames_append, List.mem_append] at h
  rcases h with h | h
  · have hperm := NameNodeHdfsSiteXmlGenerator.propertyNames_head_perm (c.siteGenerator {} g n)
      (c.fullName .nameNode g)
    rcases List.mem_append.mp (hperm.mem_iff.mp h) with h | h
    · rw [NameNodeHdfsSiteXmlGenerator.headNames, hproperties] at h
      exact .inl h
    · obtain ⟨q, hq, rfl⟩ := List.mem_map.mp h
      exact .inr (.inl ⟨q, hq, congrArg (q ++ ·) hname⟩)
  · exact .inr (.inr h)

/-- No fixed name is written twice. -/
theorem fixedProperties_nodup : (propertyNames (fixedProperties c g n info d)).Nodup := by
  have hg := (c.siteGenerator_secured {} g n).securityOnly
  rw [fixedProperties, propertyNames_append, List.nodup_append]
  refine ⟨NameNodeHdfsSiteXmlGenerator.propertyNames_head_nodup hg _,
    (show tailNames.Nodup by decide), ?_⟩
  rintro a ha b hb rfl
  exact NameNodeHdfsSiteXmlGenerator.tailNames_notMem_head hg _ hb ha

/-- The fixed names can be held by XML. -/
theorem fixedProperties_xmlText :
    ∀ name ∈ propertyNames (fixedProperties c g n info d), Xml.XmlText name := by
  have hkeys : ∀ q ∈ instanceKeys, Xml.XmlText q := by decide
  intro name h
  rcases mem_names_fixedProperties h with h | ⟨q, hq, rfl⟩ | h
  · exact fixedNames_xmlText c.clusterConfig name h
  · exact (hkeys q hq).append c.name.text.plainText.xmlText
  · exact tailNames_xmlText name h

/-- The properties by replica count do not matter for the other names. -/
theorem documentValue_fixed {o : RunOrders} {r : Role} {text : String}
    (h : c.hdfsSite o r g = .ok text) :
    ∃ n info, ∀ name, ¬IsAddressKey name → documentValue text name =
      documentValue (encode (fixedProperties c g n info o.site.serviceNames)) name := by
  obtain ⟨info, n, ps, -, -, hps, rfl⟩ := hdfsSite_eq_ok.mp h
  obtain ⟨-, kept, rfl, hkept⟩ := siteLeading_eq_ok hps
  refine ⟨n, info, fun name hname => ?_⟩
  have hskip : effectiveValue (kept.map replacePair) name = none := by
    refine effectiveValue_eq_none fun q hq heq => hname ?_
    obtain ⟨p, hp, rfl⟩ := List.mem_map.mp hq
    rw [← heq]
    exact NameNodeHdfsSiteXmlGenerator.isAddressKey_replaceText
      (NameNodeHdfsSiteXmlGenerator.isAddressKey_of_mem_addresses
        (mem_propertyNames.mpr ⟨p, hkept p hp, rfl⟩))
  rw [documentValue_encode, documentValue_encode, fixedProperties]
  simp only [List.map_append, effectiveValue_append, hskip, Option.none_or]

end Fixed

section Site

variable {c : HdfsCluster} {o : RunOrders} {r : Role} {g text : String}

/-- Fixed names are not rendered from templates. -/
theorem not_isAddressKey_of_mem_siteNames {name : String} (h : name ∈ siteNames) :
    ¬IsAddressKey name := by
  rintro ⟨p, hp, t, rfl⟩
  exact append_notMem (siteNames_start p (List.mem_append_left _ hp)) t h

/-- The policy for the web interface is written exactly when Kerberos is on. -/
theorem httpPolicy_eq (h : c.hdfsSite o r g = .ok text) : documentValue text "dfs.http.policy" =
    if isKerberosEnabled c.clusterConfig then some "HTTPS_ONLY" else none := by
  obtain ⟨n, info, hfixed⟩ := documentValue_fixed h
  rw [hfixed _ (not_isAddressKey_of_mem_siteNames (by decide))]
  cases hkerberos : isKerberosEnabled c.clusterConfig with
  | true =>
    have hsecurity : ⟨"dfs.http.policy", "HTTPS_ONLY"⟩ ∈ securityProperties c.clusterConfig := by
      rw [securityProperties, hkerberos]
      exact List.mem_append_left _ (by decide)
    have hhead : ⟨"dfs.http.policy", "HTTPS_ONLY"⟩ ∈ c.siteHead g n :=
      List.mem_append_left _ ((siteGenerator_properties c g n).2 ▸ hsecurity)
    have hmem : ⟨"dfs.http.policy", "HTTPS_ONLY"⟩ ∈
        fixedProperties c g n info o.site.serviceNames :=
      List.mem_append_left _ (List.mem_append_right _ hhead)
    rw [if_pos rfl]
    exact (documentValue_of_mem fixedProperties_nodup fixedProperties_xmlText hmem).trans
      (congrArg some (Xml.replaceText_of_xmlText (by decide)))
  | false =>
    rw [if_neg Bool.false_ne_true]
    refine documentValue_eq_none fixedProperties_xmlText fun hmem => ?_
    rcases mem_names_fixedProperties hmem with hname | ⟨q, hq, heq⟩ | hname
    · rw [fixedNames, propertyNames_securityProperties, hkerberos] at hname
      revert hname
      cases isTlsEnabled c.clusterConfig <;> decide
    · exact append_notMem (siteNames_start q (List.mem_append_right _ hq)) c.name.val
        (heq ▸ (by decide : "dfs.http.policy" ∈ siteNames))
    · exact absurd hname (by decide)

/-- How the servers of Hadoop publish their web interface: the scheme by the policy that they read,
and the port by the scheme. -/
structure WebServer where
  scheme : Option String → URIScheme
  port : Role → URIScheme → Nat

/-- What is assumed of the servers: what the policy that the operator writes and a policy that is
not there do, and the ports that belong to the schemes. -/
structure WebServer.Lawful (web : WebServer) : Prop where
  httpsOnly : web.scheme (some "HTTPS_ONLY") = .https
  unset : web.scheme none = .http
  nameNode : web.port .nameNode .http = 9870 ∧ web.port .nameNode .https = 9871
  dataNode : web.port .dataNode .http = 9864 ∧ web.port .dataNode .https = 9865
  journalNode : web.port .journalNode .http = 8480 ∧ web.port .journalNode .https = 8481

/-- A server uses https exactly when Kerberos is on. -/
theorem WebServer.Lawful.scheme_eq {web : WebServer} (hweb : web.Lawful)
    (h : c.hdfsSite o r g = .ok text) : web.scheme (documentValue text "dfs.http.policy") =
      if isKerberosEnabled c.clusterConfig then .https else .http := by
  rw [httpPolicy_eq h]
  split
  · exact hweb.httpsOnly
  · exact hweb.unset

/-- The web request of the container of a server. -/
theorem livenessProbe_eq {k : ContainerComponent} (hk : k.serverRole = some r)
    (clusterConfig : ClusterConfigSpec) : ∃ probe path,
      k.getLivenessProbe clusterConfig = some probe ∧
      probe.handler = tlsHttpGetAction clusterConfig path := by
  cases k <;> cases hk <;> exact ⟨_, _, rfl, rfl⟩

/-- The ports of the container of a server. -/
theorem serverPorts_facts {k : ContainerComponent} (hk : k.serverRole = some r)
    (clusterConfig : ClusterConfigSpec) :
    ((k.getPorts clusterConfig).map ContainerPort.name).Nodup ∧
      ⟨if isTlsEnabled clusterConfig then "https" else "http",
        getNativeMetricsPort clusterConfig r⟩ ∈ k.getPorts clusterConfig := by
  unfold ContainerComponent.getPorts httpPort getNativeMetricsPort
  cases isTlsEnabled clusterConfig <;> cases k <;> cases hk <;> decide

/-- The liveness probe of a server asks for its web interface at a port that the container opens
under one name only, and that is the port of the metrics service. It asks under the scheme that the
`hdfs-site.xml` of the group makes the server use exactly when Kerberos and TLS are both on or both
off. -/
theorem liveness_scheme_iff {inputs : ContainerInputs} {b : StatefulSetBuilder}
    {order : RangeOrder} {spec : ContainerSpec} {k : ContainerComponent} {web : WebServer}
    (hweb : web.Lawful) (hk : k.serverRole = some r) (hb : b.instance' = c)
    (hspec : b.containerSpec inputs order k = .ok spec) (h : c.hdfsSite o r g = .ok text) :
    ∃ probe path p scheme, spec.livenessProbe = some probe ∧
      probe.handler = .httpGet path p.name scheme ∧ p ∈ spec.ports ∧
      (∀ q ∈ spec.ports, q.name = p.name → q = p) ∧
      metricsServicePorts c.clusterConfig r = [⟨"metric", p.containerPort⟩] ∧
      (scheme = web.scheme (documentValue text "dfs.http.policy") ↔
        isKerberosEnabled c.clusterConfig = isTlsEnabled c.clusterConfig) := by
  obtain ⟨args, -, hspec⟩ := Go.bind_eq_ok.mp hspec
  cases hspec
  cases hb
  obtain ⟨probe, path, hprobe, hhandler⟩ := livenessProbe_eq hk b.instance'.clusterConfig
  obtain ⟨hnames, hport⟩ := serverPorts_facts hk b.instance'.clusterConfig
  refine ⟨probe, path, _, if isTlsEnabled b.instance'.clusterConfig then .https else .http, hprobe,
    ?_, hport, fun q hq heq => List.inj_on_of_nodup_map hnames hq hport heq, rfl, ?_⟩
  · rw [hhandler, tlsHttpGetAction]
    cases isTlsEnabled b.instance'.clusterConfig <;> rfl
  · rw [hweb.scheme_eq h]
    cases isTlsEnabled b.instance'.clusterConfig <;>
      cases isKerberosEnabled b.instance'.clusterConfig <;> decide

/-- The property with the directory in which the server of a role keeps its data. -/
def storageProperty : Role → String
  | .nameNode => "dfs.namenode.name.dir"
  | .dataNode => "dfs.datanode.data.dir"
  | .journalNode => "dfs.journalnode.edits.dir"

/-- The directory of each role that a document names. -/
def storageDir : Role → Option String
  | .nameNode => some nameNodeRootDataDir
  | .dataNode => none
  | .journalNode => some journalNodeRootDataDir

/-- Whatever the role group, its document names directories for NameNodes and JournalNodes, and none
for DataNodes. -/
theorem storage_eq (h : c.hdfsSite o r g = .ok text) (r' : Role) :
    documentValue text (storageProperty r') = storageDir r' := by
  obtain ⟨n, info, hfixed⟩ := documentValue_fixed h
  have htail {p : XmlNameValuePair} (hp : p ∈ NameNodeHdfsSiteXmlGenerator.makeRoleNodeDataDir)
      (hvalue : Xml.XmlText p.value) : documentValue text p.name = some p.value := by
    have hmem : p ∈ c.siteTail info o.site.serviceNames := List.mem_cons_of_mem _ hp
    have hname : p.name ∈ tailNames := mem_propertyNames.mpr ⟨p, hmem, rfl⟩
    rw [hfixed _ (NameNodeHdfsSiteXmlGenerator.not_isAddressKey_of_mem_tailNames hname),
      documentValue_of_mem fixedProperties_nodup fixedProperties_xmlText
        (List.mem_append_right _ hmem), Xml.replaceText_of_xmlText hvalue]
  cases r' with
  | nameNode =>
    exact htail (p := ⟨"dfs.namenode.name.dir", nameNodeRootDataDir⟩) (by decide)
      (show Xml.XmlText nameNodeRootDataDir by decide)
  | journalNode =>
    exact htail (p := ⟨"dfs.journalnode.edits.dir", journalNodeRootDataDir⟩) (by decide)
      (show Xml.XmlText journalNodeRootDataDir by decide)
  | dataNode =>
    have hstart : ∀ p ∈ addressKeys ++ instanceKeys, ∀ name ∈ ["dfs.datanode.data.dir"],
        ¬ p.toList <+: name.toList := by decide
    have hkey : ¬IsAddressKey "dfs.datanode.data.dir" := by
      rintro ⟨p, hp, t, heq⟩
      exact append_notMem (hstart p (List.mem_append_left _ hp)) t (List.mem_singleton.mpr heq.symm)
    refine (hfixed _ hkey).trans (documentValue_eq_none fixedProperties_xmlText fun hmem => ?_)
    rcases mem_names_fixedProperties hmem with hname | ⟨q, hq, heq⟩ | hname
    · rw [fixedNames, propertyNames_securityProperties] at hname
      revert hname
      cases isTlsEnabled c.clusterConfig <;> cases isKerberosEnabled c.clusterConfig <;> decide
    · exact append_notMem (hstart q (List.mem_append_right _ hq)) c.name.val
        (List.mem_singleton.mpr heq.symm)
    · exact absurd hname (by decide)

/-- The generator of DataNodes would name a directory, but no builder lets it write. -/
theorem dataNodeGenerate_reads {generator : DataNodeHdfsSiteXmlGenerator} {d d' : RangeOrder}
    {out : String} (hconfig : generator.dataNodeConfig = RoleGroupBuilder.dataNodeConfig)
    (hout : generator.generate d d' = .ok out) :
    documentValue out "dfs.datanode.data.dir" = some "[DISK]/kubedoop/data//data/datanode" := by
  obtain ⟨⟨written, _⟩, -, hout⟩ := Go.bind_eq_ok.mp hout
  have hadded : appendXmlContent unmarshal written generator.dataNodeConfig d' = .ok out := hout
  rw [hconfig] at hadded
  have hentry : RoleGroupBuilder.dataNodeConfig.lookup "dfs.datanode.data.dir" =
      some "[DISK]/kubedoop/data//data/datanode" := by decide +kernel
  have hplain (name v : String) (hv : RoleGroupBuilder.dataNodeConfig.lookup name = some v) :
      Xml.XmlText name ∧ Xml.XmlText v := by
    have hmem := GoMap.mem_of_lookup_ofList hv
    rw [List.mem_singleton] at hmem
    cases hmem
    decide +kernel
  cases hdoc : unmarshal written with
  | none =>
    rw [appendXmlContent, readDocument, hdoc] at hadded
    cases hadded
  | some ps =>
    obtain ⟨out', hout', qs, hqs, hvalues⟩ := appendXmlContent_reads unmarshal_lawful hdoc hplain d'
    cases hout'.symm.trans hadded
    rw [documentValue, hqs, Option.bind_some, hvalues, hentry]
    rfl

/-- A document puts the data of a role on the volume that the container of its server mounts for it,
unless the role is that of DataNodes. For those it names no directory, although the generator of
DataNodes is given one. -/
theorem storage_on_volume_iff {inputs : ContainerInputs} {b : StatefulSetBuilder}
    {order : RangeOrder} {spec : ContainerSpec} {k : ContainerComponent}
    (hk : k.serverRole = some r) (hspec : b.containerSpec inputs order k = .ok spec)
    (h : c.hdfsSite o r g = .ok text) :
    ((∃ dir, documentValue text (storageProperty r) = some dir ∧
        ∃ m ∈ spec.volumeMounts, m.name = "data" ∧ m.mountPath.toList <+: dir.toList) ↔
      r ≠ .dataNode) ∧
    (r = .dataNode → documentValue text (storageProperty r) = none ∧
      (∃ m ∈ spec.volumeMounts, m.name = "data") ∧
      ∀ (generator : DataNodeHdfsSiteXmlGenerator) (d d' : RangeOrder) (out : String),
        generator.dataNodeConfig = RoleGroupBuilder.dataNodeConfig →
        generator.generate d d' = .ok out →
        documentValue out (storageProperty r) = some "[DISK]/kubedoop/data//data/datanode") := by
  obtain ⟨args, -, hspec⟩ := Go.bind_eq_ok.mp hspec
  cases hspec
  rw [storage_eq h]
  have hmounts {m : VolumeMount} (hm : m ∈ k.dataVolumeMounts) :
      m ∈ k.getVolumeMounts b.instance'.clusterConfig := by
    have hne : k ≠ .oidc := by
      rintro rfl
      cases hk
    rw [ContainerComponent.getVolumeMounts, if_neg hne]
    exact List.mem_append_right _ hm
  cases k <;> cases hk
  · refine ⟨⟨fun _ => by decide, fun _ => ⟨_, rfl, _,
      hmounts (m := ⟨"data", "/kubedoop/data/"⟩) (by decide), rfl, by decide⟩⟩, fun hr => ?_⟩
    exact absurd hr (by decide)
  · refine ⟨⟨?_, fun hne => absurd rfl hne⟩, fun _ =>
      ⟨rfl, ⟨_, hmounts (m := ⟨"data", "/kubedoop/data/data"⟩) (by decide), rfl⟩, ?_⟩⟩
    · rintro ⟨dir, hdir, -⟩
      cases hdir
    · intro generator d d' out hconfig hout
      exact dataNodeGenerate_reads hconfig hout
  · refine ⟨⟨fun _ => by decide, fun _ => ⟨_, rfl, _,
      hmounts (m := ⟨"data", "/kubedoop/data/"⟩) (by decide), rfl, by decide⟩⟩, fun hr => ?_⟩
    exact absurd hr (by decide)

/-- The address of a pod can be held by XML. -/
theorem xmlText_createNetworkUrl {podName svcName nameSpace clusterDomain : String}
    (hpod : DnsText podName) (hsvc : DnsText svcName) (hspace : DnsText nameSpace)
    (hdomain : DnsText clusterDomain) (port : Nat) :
    Xml.XmlText (createNetworkUrl podName svcName nameSpace clusterDomain port) := by
  have hhost : DnsText (podName ++ "." ++ (svcName ++ "." ++ nameSpace ++ ".svc." ++
      clusterDomain)) :=
    (hpod.append (by decide)).append ((((hsvc.append (by decide)).append hspace).append
      (by decide)).append hdomain)
  have hxml := (hhost.plainText.xmlText.append (by decide : Xml.XmlText ":")).append
    (dnsText_decimal port).plainText.xmlText
  simpa only [createNetworkUrl, createDnsDomain, String.append_assoc] using hxml

section Addresses

variable {n : Int32} (hg : DnsText g)

include hg

theorem siteGenerator_valid_names (n : Int32) :
    DnsText (c.siteGenerator {} g n).instanceName ∧ DnsText (c.fullName .nameNode g) := by
  rw [(siteGenerator_properties c g n).1]
  exact ⟨c.name.text, dnsText_fullName .nameNode hg⟩

/-- The names by replica count can be written to a document. -/
theorem siteAddresses_xmlText : ∀ name ∈ propertyNames (c.siteAddresses g n), Xml.XmlText name := by
  obtain ⟨hinst, hsts⟩ := siteGenerator_valid_names (c := c) hg n
  intro name hname
  have hkey {key : String} (hkey : Xml.XmlText key)
      (hmem : name ∈ (c.siteGenerator {} g n).keyNames key (c.fullName .nameNode g)) :
      Xml.XmlText name := by
    obtain ⟨i, -, rfl⟩ := List.mem_map.mp hmem
    have hdot : DnsText "." := by decide
    have htext := ((hinst.append hdot).append hsts).append ((by decide : DnsText "-").append
      (dnsText_decimal i))
    have hxml := hkey.append htext.plainText.xmlText
    simpa only [ordinalName, String.append_assoc] using hxml
  rw [siteAddresses, NameNodeHdfsSiteXmlGenerator.propertyNames_addresses
    (hinst.notMem (by decide)) (hsts.notMem (by decide)), List.mem_append, List.mem_append] at hname
  rcases hname with (hname | hname) | hname
  · refine hkey ?_ hname
    unfold NameNodeHdfsSiteXmlGenerator.httpKey
    split <;> decide
  · exact hkey (by decide) hname
  · exact hkey (by decide) hname

/-- The properties of a document of a group with a valid name have distinct names. -/
theorem document_names (info : ClusterComponentsInfo) (d : RangeOrder) :
    (propertyNames (siteTemplateProperties ++ (c.siteHead g n ++ c.siteAddresses g n) ++
        c.siteTail info d)).Nodup ∧
      ∀ name ∈ propertyNames (siteTemplateProperties ++ (c.siteHead g n ++ c.siteAddresses g n) ++
        c.siteTail info d), Xml.XmlText name := by
  obtain ⟨hinst, hsts⟩ := siteGenerator_valid_names (c := c) hg n
  have hsecured := (c.siteGenerator_secured {} g n).securityOnly
  constructor
  · rw [propertyNames_append, List.nodup_append]
    refine ⟨NameNodeHdfsSiteXmlGenerator.propertyNames_nodup hsecured (hinst.notMem (by decide))
      (hsts.notMem (by decide)), (show tailNames.Nodup by decide), ?_⟩
    rintro a ha b hb rfl
    exact NameNodeHdfsSiteXmlGenerator.propertyNames_tail_notMem hsecured _ d a hb ha
  · intro name hname
    have hfixed : name ∈ propertyNames (c.siteAddresses g n) ∨
        name ∈ propertyNames (fixedProperties c g n info d) := by
      simp only [fixedProperties, propertyNames_append, List.mem_append] at hname ⊢
      tauto
    rcases hfixed with h | h
    · exact siteAddresses_xmlText hg name h
    · exact fixedProperties_xmlText name h

variable (hdomain : DnsText c.clusterConfig.clusterDomain)

include hdomain

/-- The property with the address of a pod, under a key and with a port. -/
theorem address_mem_byReplicas {key : String} (hkey : key ∈ addressKeys) (port : Nat) {i : Nat}
    (hi : i ∈ ordinals n) :
    ⟨key ++ c.name.val ++ "." ++ ordinalName (c.fullName .nameNode g) i,
      createNetworkUrl (ordinalName (c.fullName .nameNode g) i) (c.fullName .nameNode g)
        c.nameSpace.val c.clusterConfig.clusterDomain port⟩ ∈
      (c.siteGenerator {} g n).byReplicas
        (key ++ (c.siteGenerator {} g n).instanceName ++ "." ++ c.fullName .nameNode g ++ "-%d")
        (addressTemplate (c.fullName .nameNode g) (c.fullName .nameNode g) c.nameSpace.val
          c.clusterConfig.clusterDomain port) := by
  have hpercent {s : String} (hs : DnsText s) : '%' ∉ s.toList := hs.notMem (by decide)
  have hsts := hpercent (dnsText_fullName (c := c) .nameNode hg)
  have hkeys : ∀ key ∈ addressKeys, '%' ∉ key.toList := by decide
  have hstart : '%' ∉ (key ++ c.name.val ++ "." ++ c.fullName .nameNode g).toList := by
    simp only [String.toList_append, List.mem_append, not_or]
    exact ⟨⟨⟨hkeys key hkey, hpercent c.name.text⟩, by decide⟩, hsts⟩
  have hreplicas : (c.siteGenerator {} g n).nameNodeReplicas = n := by
    rw [siteGenerator, RoleGroupBuilder.siteGenerator_eq]
    rfl
  refine List.mem_map.mpr ⟨i, by rwa [hreplicas], ?_⟩
  rw [(siteGenerator_properties c g n).1, sprintf_ordinal hstart,
    renderValue_eq_createNetworkUrl hsts hsts (hpercent c.nameSpace.text) (hpercent hdomain)]
  simp only [ordinalName, String.append_assoc]

/-- Each port of a NameNode besides that for metrics has an address in the document. -/
theorem address_mem {p : ContainerPort}
    (hp : p ∈ ContainerComponent.nameNode.getPorts c.clusterConfig) (hmetric : p.name ≠ "metric")
    {i : Nat} (hi : i ∈ ordinals n) :
    ⟨connectionName p.name c.name.val (ordinalName (c.fullName .nameNode g) i),
      createNetworkUrl (ordinalName (c.fullName .nameNode g) i) (c.fullName .nameNode g)
        c.nameSpace.val c.clusterConfig.clusterDomain p.containerPort⟩ ∈ c.siteAddresses g n := by
  have hfields : (c.siteGenerator {} g n).clusterConfig = c.clusterConfig ∧
      (c.siteGenerator {} g n).nameSpace = c.nameSpace.val ∧
      (c.siteGenerator {} g n).clusterDomain = c.clusterConfig.clusterDomain := by
    rw [siteGenerator, RoleGroupBuilder.siteGenerator_eq]
    exact ⟨rfl, rfl, rfl⟩
  obtain ⟨hconfig, hspace, hclusterDomain⟩ := hfields
  simp only [siteAddresses, NameNodeHdfsSiteXmlGenerator.addresses, hconfig, hspace,
    hclusterDomain, dfsNameNodeHttpAddressHa]
  have hmember (key : String) (hkey : key ∈ addressKeys) (port : Nat) :=
    address_mem_byReplicas (n := n) hg hdomain hkey port hi
  simp only [ContainerComponent.getPorts, List.mem_cons, List.not_mem_nil, or_false] at hp
  rcases hp with rfl | rfl | rfl
  · exact List.mem_append_left _ (List.mem_append_right _
      (hmember "dfs.namenode.rpc-address." (by decide) nameNodeRpcPort))
  · exact absurd rfl hmetric
  · refine List.mem_append_left _ (List.mem_append_left _ ?_)
    unfold httpPort
    cases isTlsEnabled c.clusterConfig with
    | true => exact hmember "dfs.namenode.https-address." (by decide) nameNodeHttpsPort
    | false => exact hmember "dfs.namenode.http-address." (by decide) nameNodeHttpPort

/-- The document of a group has, for each port that NameNode containers open besides that for
metrics, and for each pod of the NameNode group, the address of that port at the pod. -/
theorem nameNode_addresses_open (h : c.hdfsSite o r g = .ok text)
    (hn : c.nameNodeReplicas g = some n) {p : ContainerPort}
    (hp : p ∈ ContainerComponent.nameNode.getPorts c.clusterConfig) (hmetric : p.name ≠ "metric")
    {i : Nat} (hi : i ∈ ordinals n) :
    documentValue text (connectionName p.name c.name.val
        (ordinalName (c.fullName .nameNode g) i)) =
      some (createNetworkUrl (ordinalName (c.fullName .nameNode g) i) (c.fullName .nameNode g)
        c.nameSpace.val c.clusterConfig.clusterDomain p.containerPort) := by
  obtain ⟨info, n', ps, -, hn', hps, rfl⟩ := hdfsSite_eq_ok.mp h
  obtain rfl : n = n' := Option.some.inj (hn.symm.trans hn')
  obtain ⟨hsize, -⟩ := siteLeading_eq_ok hps
  rw [siteLeading_of_percent_free hsize (hg.notMem (by decide))] at hps
  cases hps
  obtain ⟨hnodup, hxml⟩ := document_names (c := c) (n := n) hg info o.site.serviceNames
  have hmem := List.mem_append_left (c.siteTail info o.site.serviceNames)
    (List.mem_append_right siteTemplateProperties (List.mem_append_right (c.siteHead g n)
      (address_mem hg hdomain hp hmetric hi)))
  refine (documentValue_of_mem hnodup hxml hmem).trans (congrArg some
    (Xml.replaceText_of_xmlText (xmlText_createNetworkUrl ?_ ?_ c.nameSpace.text hdomain _)))
  · exact (dnsText_fullName .nameNode hg).ordinalName i
  · exact dnsText_fullName .nameNode hg

end Addresses

end Site

/-- Servers that know the two policies only, and have the default ports. -/
def plainWeb : WebServer where
  scheme := fun policy => if policy = some "HTTPS_ONLY" then .https else .http
  port
    | .nameNode, .http => 9870
    | .nameNode, .https => 9871
    | .dataNode, .http => 9864
    | .dataNode, .https => 9865
    | .journalNode, .http => 8480
    | .journalNode, .https => 8481

/-- These servers are as it is assumed. -/
theorem plainWeb_lawful : plainWeb.Lawful := by
  constructor <;> decide

/-- The NameNode group has a document. -/
theorem nameNodeGroupWith_hdfsSite (clusterConfig : ClusterConfigSpec) :
    ∃ text, (nameNodeGroupWith clusterConfig).hdfsSite .stored .nameNode "default" = .ok text :=
  hdfsSite_ok (n := 2) (ofReplicas_replicasSet _ _ _ _) rfl (by decide) (by decide) .stored
    .nameNode

/-- With Kerberos and without TLS the probe asks under the wrong scheme. -/
theorem liveness_scheme_iff_kerberosCluster :
    ∃ spec text probe path p scheme, (kerberosCluster.statefulSetBuilder .nameNode "default"
        (completed .nameNode {})).containerSpec frameworkInputs .stored .nameNode = .ok spec ∧
      kerberosCluster.hdfsSite .stored .nameNode "default" = .ok text ∧
      spec.livenessProbe = some probe ∧
      probe.handler = .httpGet path (ContainerPort.name p) scheme ∧ p ∈ spec.ports ∧
      scheme ≠ plainWeb.scheme (documentValue text "dfs.http.policy") := by
  obtain ⟨spec, hspec⟩ := kerberosCluster_containerSpec (completed .nameNode {}) (.inl rfl)
  obtain ⟨text, htext⟩ := nameNodeGroupWith_hdfsSite kerberosCluster.clusterConfig
  obtain ⟨probe, path, p, scheme, hprobe, hhandler, hp, -, -, hscheme⟩ :=
    liveness_scheme_iff plainWeb_lawful rfl rfl hspec htext
  refine ⟨spec, text, probe, path, p, scheme, hspec, htext, hprobe, hhandler, hp, fun heq => ?_⟩
  exact absurd (hscheme.mp heq) (by decide)

theorem storage_on_volume_iff_kerberosCluster :
    ∃ spec text dir, (kerberosCluster.statefulSetBuilder .nameNode "default"
        (completed .nameNode {})).containerSpec frameworkInputs .stored .nameNode = .ok spec ∧
      kerberosCluster.hdfsSite .stored .nameNode "default" = .ok text ∧
      documentValue text "dfs.namenode.name.dir" = some dir ∧
      ∃ m ∈ spec.volumeMounts, m.name = "data" ∧ m.mountPath.toList <+: dir.toList := by
  obtain ⟨spec, hspec⟩ := kerberosCluster_containerSpec (completed .nameNode {}) (.inl rfl)
  obtain ⟨text, htext⟩ := nameNodeGroupWith_hdfsSite kerberosCluster.clusterConfig
  obtain ⟨dir, hdir, hmount⟩ := (storage_on_volume_iff rfl hspec htext).1.mpr (by decide)
  exact ⟨spec, text, dir, hspec, htext, hdir, hmount⟩

theorem nameNode_addresses_open_oneNameNodeGroup :
    ∃ text, oneNameNodeGroup.hdfsSite .stored .nameNode "default" = .ok text ∧
      documentValue text "dfs.namenode.rpc-address.hdfs.hdfs-namenode-default-1" = some
        "hdfs-namenode-default-1.hdfs-namenode-default.default.svc.cluster.local:8020" := by
  obtain ⟨text, htext⟩ := nameNodeGroupWith_hdfsSite {}
  have hvalue := nameNode_addresses_open (c := oneNameNodeGroup) (g := "default") (n := 2)
    (by decide) (by decide) htext (by decide) (p := ⟨"rpc", nameNodeRpcPort⟩) (by decide)
    (by decide) (i := 1) (by decide)
  refine ⟨text, htext, ?_⟩
  have hnames : connectionName "rpc" oneNameNodeGroup.name.val
      (ordinalName (oneNameNodeGroup.fullName .nameNode "default") 1) =
        "dfs.namenode.rpc-address.hdfs.hdfs-namenode-default-1" := by decide +kernel
  have haddress : createNetworkUrl
      (ordinalName (oneNameNodeGroup.fullName .nameNode "default") 1)
      (oneNameNodeGroup.fullName .nameNode "default") oneNameNodeGroup.nameSpace.val
      oneNameNodeGroup.clusterConfig.clusterDomain nameNodeRpcPort =
        "hdfs-namenode-default-1.hdfs-namenode-default.default.svc.cluster.local:8020" := by
    decide +kernel
  rw [hnames, haddress] at hvalue
  exact hvalue

end HdfsOperator
