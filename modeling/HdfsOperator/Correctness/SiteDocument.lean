import HdfsOperator.Models.SiteGenerator

/-!
# The shape of hdfs-site.xml

The collected properties fall into three parts. The leading part and the data directories
have fixed names that occur once; between them stand the properties by replica count, whose
names are rendered from templates and start with one of four keys. The merge can only mix up
the middle part, so every document ends with the same three properties and starts with the
leading part, whatever the group is called.
-/

namespace HdfsOperator

open Xml

/-- The template can be read. -/
theorem unmarshal_hdfsSiteTemplate :
    unmarshal hdfsSiteTemplate = some siteTemplateProperties :=
  unmarshal_templateDocument (by decide +kernel) "\n"

/-- The security properties of a server. -/
def securityProperties (clusterConfig : ClusterConfigSpec) : List XmlNameValuePair :=
  (if isKerberosEnabled clusterConfig then securityHdfsSiteXml else []) ++
    tlsHdfsSiteXml clusterConfig

/-- The starts of the names that are rendered from templates. -/
def addressKeys : List String :=
  ["dfs.namenode.http-address.", "dfs.namenode.https-address.", "dfs.namenode.rpc-address.",
    "dfs.namenode.name.dir."]

/-- A name that is rendered from a template. -/
def IsAddressKey (n : String) : Prop := ∃ p ∈ addressKeys, ∃ t, n = p ++ t

/-- The fixed names of the leading part. -/
def fixedNames (clusterConfig : ClusterConfigSpec) : List String :=
  propertyNames siteTemplateProperties ++ propertyNames (securityProperties clusterConfig) ++
    ["dfs.nameservices", "dfs.replication"]

/-- The starts of the names of the leading part that end in the instance name. -/
def instanceKeys : List String := ["dfs.client.failover.proxy.provider.", "dfs.ha.namenodes."]

/-- The names of the last three properties. -/
def tailNames : List String :=
  ["dfs.namenode.shared.edits.dir", "dfs.journalnode.edits.dir", "dfs.namenode.name.dir"]

/-- The names of the security properties. -/
theorem propertyNames_securityProperties (clusterConfig : ClusterConfigSpec) :
    propertyNames (securityProperties clusterConfig) =
      (if isKerberosEnabled clusterConfig then propertyNames securityHdfsSiteXml else []) ++
        [if isTlsEnabled clusterConfig then "dfs.datanode.registered.https.port"
          else "dfs.datanode.registered.http.port"] := by
  unfold securityProperties tlsHdfsSiteXml
  split <;> split <;> rfl

/-- The names of the security properties that a generator can have. -/
def securityNames : List String :=
  propertyNames securityHdfsSiteXml ++
    ["dfs.datanode.registered.https.port", "dfs.datanode.registered.http.port"]

/-- The fixed names that a leading part can have. -/
def siteNames : List String :=
  propertyNames siteTemplateProperties ++ securityNames ++ ["dfs.nameservices", "dfs.replication"]

/-- The fixed names, evaluated once. -/
private theorem siteNames_facts : siteNames.Nodup ∧ (∀ n ∈ tailNames, n ∉ siteNames) ∧
    ∀ p ∈ addressKeys ++ instanceKeys, ∀ n ∈ siteNames, ¬ p.toList <+: n.toList := by
  decide +kernel

theorem siteNames_nodup : siteNames.Nodup := siteNames_facts.1

theorem tailNames_notMem_siteNames : ∀ n ∈ tailNames, n ∉ siteNames := siteNames_facts.2.1

/-- No fixed name starts like a name of another kind. -/
theorem siteNames_start : ∀ p ∈ addressKeys ++ instanceKeys, ∀ n ∈ siteNames,
    ¬ p.toList <+: n.toList := siteNames_facts.2.2

theorem propertyNames_tlsHdfsSiteXml_sublist (clusterConfig : ClusterConfigSpec) :
    (propertyNames (tlsHdfsSiteXml clusterConfig)).Sublist
      ["dfs.datanode.registered.https.port", "dfs.datanode.registered.http.port"] := by
  unfold tlsHdfsSiteXml
  split
  · exact (List.nil_sublist _).cons_cons _
  · exact (List.Sublist.refl _).cons _

/-- The Kerberos properties that a server has, if Kerberos is on. -/
def kerberosProperties (clusterConfig : ClusterConfigSpec) : List XmlNameValuePair :=
  if isKerberosEnabled clusterConfig then securityHdfsSiteXml else []

theorem propertyNames_kerberosProperties_sublist (clusterConfig : ClusterConfigSpec) :
    (propertyNames (kerberosProperties clusterConfig)).Sublist
      (propertyNames securityHdfsSiteXml) := by
  unfold kerberosProperties
  split
  · exact List.Sublist.refl _
  · exact List.nil_sublist _

theorem propertyNames_securityProperties_sublist (clusterConfig : ClusterConfigSpec) :
    (propertyNames (securityProperties clusterConfig)).Sublist securityNames := by
  have happend := (propertyNames_kerberosProperties_sublist clusterConfig).append
    (propertyNames_tlsHdfsSiteXml_sublist clusterConfig)
  rwa [← propertyNames_append] at happend

/-- The fixed names are distinct, and none of them starts like a name of another kind. -/
theorem fixedNames_facts (clusterConfig : ClusterConfigSpec) :
    (fixedNames clusterConfig).Nodup ∧
      (∀ p ∈ addressKeys ++ instanceKeys, ∀ n ∈ fixedNames clusterConfig,
        ¬ p.toList <+: n.toList) ∧ ∀ n ∈ tailNames, n ∉ fixedNames clusterConfig := by
  have hsub : (fixedNames clusterConfig).Sublist siteNames :=
    ((propertyNames_securityProperties_sublist clusterConfig).append_left _).append_right _
  exact ⟨siteNames_nodup.sublist hsub, fun p hp n hn => siteNames_start p hp n (hsub.subset hn),
    fun n hn hm => tailNames_notMem_siteNames n hn (hsub.subset hm)⟩

/-- The keys, evaluated once. -/
private theorem addressKeys_facts : (∀ p ∈ addressKeys, '%' ∉ p.toList) ∧
    (∀ p ∈ addressKeys, XmlText p) ∧
    (∀ p ∈ addressKeys, ∀ q ∈ addressKeys, p ≠ q →
      ¬ p.toList <+: q.toList ∧ ¬ q.toList <+: p.toList) ∧
    ∀ p ∈ addressKeys, ∀ q ∈ instanceKeys,
      ¬ p.toList <+: q.toList ∧ ¬ q.toList <+: p.toList := by
  decide +kernel

private theorem addressKeys_percent : ∀ p ∈ addressKeys, '%' ∉ p.toList := addressKeys_facts.1

private theorem addressKeys_xmlText : ∀ p ∈ addressKeys, XmlText p := addressKeys_facts.2.1

theorem addressKeys_incomparable : ∀ p ∈ addressKeys, ∀ q ∈ addressKeys, p ≠ q →
    ¬ p.toList <+: q.toList ∧ ¬ q.toList <+: p.toList := addressKeys_facts.2.2.1

private theorem instanceKeys_incomparable : ∀ p ∈ addressKeys, ∀ q ∈ instanceKeys,
    ¬ p.toList <+: q.toList ∧ ¬ q.toList <+: p.toList := addressKeys_facts.2.2.2

/-- The names of the last part, evaluated once. -/
private theorem tailNames_facts : (tailNames.Nodup ∧
    ∀ p ∈ addressKeys ++ instanceKeys, ∀ n ∈ tailNames, ¬ p.toList <+: n.toList) ∧
    ∀ n ∈ tailNames, XmlText n := by
  decide +kernel

theorem tailNames_xmlText : ∀ n ∈ tailNames, XmlText n := tailNames_facts.2

namespace NameNodeHdfsSiteXmlGenerator

variable {g : NameNodeHdfsSiteXmlGenerator}

/-- The generator has the security properties of its cluster and nothing else yet. -/
def Secured (g : NameNodeHdfsSiteXmlGenerator) : Prop :=
  g.properties = securityProperties g.clusterConfig

/-- The generator has security properties and nothing else yet, each at most once. -/
structure SecurityOnly (g : NameNodeHdfsSiteXmlGenerator) : Prop where
  nodup : (propertyNames g.properties).Nodup
  mem : ∀ n ∈ propertyNames g.properties, n ∈ securityNames

/-- A generator whose names are among those of security properties. -/
theorem securityOnly_of_perm {l : List String} (h : (propertyNames g.properties).Perm l)
    (hl : l.Sublist securityNames) : g.SecurityOnly := by
  have hnodup : securityNames.Nodup :=
    (List.nodup_append.mp (List.nodup_append.mp siteNames_nodup).1).2.1
  exact ⟨h.nodup_iff.mpr (hnodup.sublist hl), fun n hn => hl.subset (h.mem_iff.mp hn)⟩

theorem Secured.securityOnly (hg : g.Secured) : g.SecurityOnly :=
  securityOnly_of_perm (List.Perm.of_eq (congrArg propertyNames hg))
    (propertyNames_securityProperties_sublist g.clusterConfig)

/-- The property with the NameNode ids of a stateful set. -/
def hosts (g : NameNodeHdfsSiteXmlGenerator) (sts : String) : XmlNameValuePair :=
  ⟨"dfs.ha.namenodes." ++ g.instanceName,
    ",".intercalate ((ordinals g.nameNodeReplicas).map (ordinalName sts))⟩

/-- The leading part of the collected properties. -/
def head (g : NameNodeHdfsSiteXmlGenerator) (sts : String) : List XmlNameValuePair :=
  g.properties ++ (g.makeServiceId ++ [g.makeHdfsReplication, g.hosts sts])

/-- The properties by replica count for one key and value template. -/
def byReplicas (g : NameNodeHdfsSiteXmlGenerator) (key value : String) : List XmlNameValuePair :=
  (ordinals g.nameNodeReplicas).map fun i => ⟨Printf.sprintf key i, renderValue value i⟩

/-- The middle part of the collected properties. -/
def addresses (g : NameNodeHdfsSiteXmlGenerator) (sts : String) : List XmlNameValuePair :=
  let http := dfsNameNodeHttpAddressHa g.clusterConfig g.instanceName sts sts g.nameSpace
  g.byReplicas http.2 (sts ++ "-%d." ++ http.1) ++
    g.byReplicas ("dfs.namenode.rpc-address." ++ g.instanceName ++ "." ++ sts ++ "-%d")
      (sts ++ "-%d." ++ createDnsDomain sts g.nameSpace g.clusterDomain nameNodeRpcPort) ++
    g.byReplicas ("dfs.namenode.name.dir." ++ g.instanceName ++ "." ++ sts ++ "-%d")
      nameNodeRootDataDir

/-- The last part of the collected properties. -/
def tail (g : NameNodeHdfsSiteXmlGenerator) (o : RangeOrder) : List XmlNameValuePair :=
  g.makeNamenodeSharedEditDir o :: makeRoleNodeDataDir

/-- The merge of everything before the last part. -/
def leading (g : NameNodeHdfsSiteXmlGenerator) : Go (List XmlNameValuePair) := do
  let sts ← g.statefulSetName
  checkSize g.nameNodeReplicas
  XmlConfiguration.distinctProperties ⟨siteTemplateProperties⟩ (g.head sts ++ g.addresses sts)

/-- What a call collects, in its three parts. -/
theorem collect_eq (g : NameNodeHdfsSiteXmlGenerator) (o : RangeOrder) :
    g.collect o = do
      let sts ← g.statefulSetName
      checkSize g.nameNodeReplicas
      return { g with properties := g.head sts ++ g.addresses sts ++ g.tail o } := by
  cases hsts : g.statefulSetName with
  | error e => simp only [collect, makeNameNodeHosts, hsts, Go.error_bind]
  | ok sts =>
    cases hsize : checkSize g.nameNodeReplicas with
    | error e =>
      simp only [collect, makeNameNodeHosts, createPodNamesByReplicas, hsts, hsize, Go.ok_bind,
        Go.error_bind]
    | ok u =>
      have hn := nonneg_of_checkSize hsize
      have hpods : createPodNamesByReplicas g.nameNodeReplicas sts = .ok _ :=
        createPodNamesByReplicas_eq_ok.mpr ⟨hn, rfl⟩
      have hxml (k v : String) : createXmlContentByReplicas g.nameNodeReplicas k v =
          .ok (g.byReplicas k v) := createXmlContentByReplicas_eq_ok.mpr ⟨hn, rfl⟩
      simp only [collect, makeNameNodeHosts, makeNameNodeHttp, makeNameNodeRpc,
        makeNameNodeNameDir, hsts, hpods, hxml, Go.ok_bind]
      rfl

/-- The rendered names start with one of the four keys. -/
theorem isAddressKey_of_mem_addresses {sts n : String}
    (h : n ∈ propertyNames (g.addresses sts)) : IsAddressKey n := by
  have hkey : ∀ p ∈ addressKeys, ∀ t v : String, ∀ n ∈ propertyNames (g.byReplicas (p ++ t) v),
      IsAddressKey n := by
    intro p hp t v n hn
    obtain ⟨x, hx, rfl⟩ := mem_propertyNames.mp hn
    obtain ⟨i, -, rfl⟩ := List.mem_map.mp hx
    exact ⟨p, hp, Printf.sprintf t i, Printf.sprintf_append (addressKeys_percent p hp) t i⟩
  simp only [addresses, propertyNames_append, List.mem_append, String.append_assoc] at h
  rcases h with (h | h) | h
  · unfold dfsNameNodeHttpAddressHa at h
    split at h
    · exact hkey "dfs.namenode.https-address." (by simp [addressKeys]) _ _ n
        (by simpa only [String.append_assoc] using h)
    · exact hkey "dfs.namenode.http-address." (by simp [addressKeys]) _ _ n
        (by simpa only [String.append_assoc] using h)
  · exact hkey _ (by simp [addressKeys]) _ _ n h
  · exact hkey _ (by simp [addressKeys]) _ _ n h

/-- The fixed names of the template and the leading part. -/
def headNames (g : NameNodeHdfsSiteXmlGenerator) : List String :=
  propertyNames siteTemplateProperties ++ propertyNames g.properties ++
    ["dfs.nameservices", "dfs.replication"]

/-- No fixed name is written twice. -/
theorem headNames_nodup (hg : g.SecurityOnly) : g.headNames.Nodup := by
  obtain ⟨hleft, hright, hdisjoint⟩ := List.nodup_append.mp siteNames_nodup
  obtain ⟨htemplate, -, hsecurity⟩ := List.nodup_append.mp hleft
  rw [headNames, List.nodup_append, List.nodup_append]
  refine ⟨⟨htemplate, hg.nodup, fun a ha b hb => hsecurity a ha b (hg.mem b hb)⟩, hright, ?_⟩
  intro a ha b hb
  refine hdisjoint a ?_ b hb
  rw [List.mem_append] at ha ⊢
  exact ha.imp_right (hg.mem a)

/-- The fixed names of a generator are among all of them. -/
theorem mem_siteNames_of_mem_headNames (hg : g.SecurityOnly) {n : String} (hn : n ∈ g.headNames) :
    n ∈ siteNames := by
  rw [headNames, List.mem_append, List.mem_append] at hn
  rw [siteNames, List.mem_append, List.mem_append]
  exact hn.imp_left fun h => h.imp_right (hg.mem n)

/-- The names of the template and the leading part, up to their order. -/
theorem propertyNames_head_perm (g : NameNodeHdfsSiteXmlGenerator) (sts : String) :
    (propertyNames (siteTemplateProperties ++ g.head sts)).Perm
      (g.headNames ++ instanceKeys.map (· ++ g.instanceName)) := by
  have hnames : propertyNames (siteTemplateProperties ++ g.head sts) =
      propertyNames siteTemplateProperties ++ propertyNames g.properties ++
        ["dfs.nameservices", "dfs.client.failover.proxy.provider." ++ g.instanceName,
          "dfs.replication", "dfs.ha.namenodes." ++ g.instanceName] := by
    rw [head, propertyNames_append, propertyNames_append, List.append_assoc]
    rfl
  rw [hnames, headNames, List.append_assoc _ _ (instanceKeys.map _)]
  exact List.Perm.append_left _ (List.Perm.cons _ (List.Perm.swap _ _ _))

/-- The template and the leading part have no name twice. -/
theorem propertyNames_head_nodup (hg : g.SecurityOnly) (sts : String) :
    (propertyNames (siteTemplateProperties ++ g.head sts)).Nodup := by
  rw [(propertyNames_head_perm g sts).nodup_iff, List.nodup_append]
  refine ⟨headNames_nodup hg, ?_, ?_⟩
  · simp [instanceKeys]
  · rintro n hn _ hm rfl
    obtain ⟨p, hp, rfl⟩ := List.mem_map.mp hm
    exact append_notMem (siteNames_start p (List.mem_append_right _ hp)) _
      (mem_siteNames_of_mem_headNames hg hn)

/-- A rendered name does not occur in the template or the leading part. -/
theorem isAddressKey_notMem_head (hg : g.SecurityOnly) (sts : String) {n : String}
    (hn : IsAddressKey n) : n ∉ propertyNames (siteTemplateProperties ++ g.head sts) := by
  obtain ⟨p, hp, t, rfl⟩ := hn
  rw [(propertyNames_head_perm g sts).mem_iff, List.mem_append, not_or]
  refine ⟨fun hm => append_notMem (siteNames_start p (List.mem_append_left _ hp)) t
    (mem_siteNames_of_mem_headNames hg hm), ?_⟩
  rintro hm
  obtain ⟨q, hq, he⟩ := List.mem_map.mp hm
  obtain ⟨hpq, hqp⟩ := instanceKeys_incomparable p hp q hq
  exact append_ne_append hqp hpq _ _ he

/-- Reading a rendered name back gives a rendered name. -/
theorem isAddressKey_replaceText {n : String} (hn : IsAddressKey n) :
    IsAddressKey (replaceText n) := by
  obtain ⟨p, hp, t, rfl⟩ := hn
  exact ⟨p, hp, replaceText t, by
    rw [replaceText_append, replaceText_of_xmlText (addressKeys_xmlText p hp)]⟩

/-- A name of the last part is no rendered name. -/
theorem not_isAddressKey_of_mem_tailNames {n : String} (hn : n ∈ tailNames) :
    ¬ IsAddressKey n := by
  rintro ⟨p, hp, t, rfl⟩
  exact append_notMem (tailNames_facts.1.2 p (List.mem_append_left _ hp)) t hn

/-- A name of the last part does not occur in the template or the leading part. -/
theorem tailNames_notMem_head (hg : g.SecurityOnly) (sts : String) {n : String}
    (hn : n ∈ tailNames) : n ∉ propertyNames (siteTemplateProperties ++ g.head sts) := by
  rw [(propertyNames_head_perm g sts).mem_iff, List.mem_append, not_or]
  refine ⟨fun hm => tailNames_notMem_siteNames n hn (mem_siteNames_of_mem_headNames hg hm), ?_⟩
  rintro hm
  obtain ⟨q, hq, rfl⟩ := List.mem_map.mp hm
  exact append_notMem (tailNames_facts.1.2 q (List.mem_append_right _ hq)) _ hn

/-- A name that ends in the instance name stands in the leading part only. -/
theorem instanceKey_ne {q n : String} (hq : q ∈ instanceKeys) (s : String)
    (hn : IsAddressKey n ∨ n ∈ tailNames) : n ≠ q ++ s := by
  rcases hn with ⟨p, hp, t, rfl⟩ | hn
  · obtain ⟨hpq, hqp⟩ := instanceKeys_incomparable p hp q hq
    exact append_ne_append hpq hqp _ _
  · rintro rfl
    exact append_notMem (tailNames_facts.1.2 q (List.mem_append_right _ hq)) s hn

/-- The names of the last part do not occur before it. -/
theorem propertyNames_tail_notMem (hg : g.SecurityOnly) (sts : String) (o : RangeOrder) :
    ∀ n ∈ propertyNames (g.tail o),
      n ∉ propertyNames (siteTemplateProperties ++ (g.head sts ++ g.addresses sts)) := by
  intro n hn
  rw [← List.append_assoc, propertyNames_append, List.mem_append, not_or]
  exact ⟨tailNames_notMem_head hg sts hn, fun hm =>
    not_isAddressKey_of_mem_tailNames hn (isAddressKey_of_mem_addresses hm)⟩

theorem propertyNames_tail_nodup (g : NameNodeHdfsSiteXmlGenerator) (o : RangeOrder) :
    (propertyNames (g.tail o)).Nodup := tailNames_facts.1.1

/-- The text of the document: the merged leading properties, then the last part. -/
theorem generate_text (hg : g.SecurityOnly) (o : RangeOrder) :
    Prod.fst <$> g.generate o = (fun ps => encode (ps ++ g.tail o)) <$> g.leading := by
  have hread : readDocument unmarshal hdfsSiteTemplate = .ok ⟨siteTemplateProperties⟩ := by
    rw [readDocument, unmarshal_hdfsSiteTemplate]
  have hmerge (sts : String) :
      append unmarshal hdfsSiteTemplate (g.head sts ++ g.addresses sts ++ g.tail o) =
      (fun ps => encode (ps ++ g.tail o)) <$>
        XmlConfiguration.distinctProperties ⟨siteTemplateProperties⟩
          (g.head sts ++ g.addresses sts) := by
    rw [append, hread, Go.ok_bind, XmlConfiguration.string, XmlConfiguration.merged,
      if_pos (by simp [siteTemplateProperties]),
      XmlConfiguration.distinctProperties_append (c := ⟨siteTemplateProperties⟩)
        (g.propertyNames_tail_nodup o) (propertyNames_tail_notMem hg sts o)]
    cases XmlConfiguration.distinctProperties ⟨siteTemplateProperties⟩
      (g.head sts ++ g.addresses sts) <;> rfl
  rw [generate, collect_eq, leading]
  cases g.statefulSetName with
  | error e => rfl
  | ok sts =>
    cases hsize : checkSize g.nameNodeReplicas with
    | error e => rfl
    | ok u =>
      simp only [Go.ok_bind, pure_bind, hmerge]
      cases XmlConfiguration.distinctProperties ⟨siteTemplateProperties⟩
        (g.head sts ++ g.addresses sts) <;> rfl

/-- The key of the http or https addresses. -/
def httpKey (g : NameNodeHdfsSiteXmlGenerator) : String :=
  if isTlsEnabled g.clusterConfig then "dfs.namenode.https-address."
  else "dfs.namenode.http-address."

/-- The names by replica count under one key. -/
def keyNames (g : NameNodeHdfsSiteXmlGenerator) (key sts : String) : List String :=
  (ordinals g.nameNodeReplicas).map (ordinalName (key ++ g.instanceName ++ "." ++ sts))

theorem httpKey_mem (g : NameNodeHdfsSiteXmlGenerator) : g.httpKey ∈ addressKeys := by
  unfold httpKey
  split <;> simp [addressKeys]

private theorem percent_notMem {key inst sts : String} (hkey : key ∈ addressKeys)
    (hinst : '%' ∉ inst.toList) (hsts : '%' ∉ sts.toList) :
    '%' ∉ (key ++ inst ++ "." ++ sts).toList := by
  have hk := addressKeys_percent key hkey
  simp only [String.toList_append, List.mem_append, not_or]
  exact ⟨⟨⟨hk, hinst⟩, by decide⟩, hsts⟩

/-- Without percent signs the middle part has the names by replica count under three keys. -/
theorem propertyNames_addresses {sts : String} (hinst : '%' ∉ g.instanceName.toList)
    (hsts : '%' ∉ sts.toList) :
    propertyNames (g.addresses sts) = g.keyNames g.httpKey sts ++
      g.keyNames "dfs.namenode.rpc-address." sts ++ g.keyNames "dfs.namenode.name.dir." sts := by
  have hnames : ∀ key ∈ addressKeys, ∀ v : String,
      propertyNames (g.byReplicas (key ++ g.instanceName ++ "." ++ sts ++ "-%d") v) =
        g.keyNames key sts := by
    intro key hkey v
    rw [propertyNames, byReplicas, List.map_map]
    exact List.map_congr_left fun i _ => sprintf_ordinal (percent_notMem hkey hinst hsts) i
  have hhttp : (dfsNameNodeHttpAddressHa g.clusterConfig g.instanceName sts sts g.nameSpace).2 =
      g.httpKey ++ g.instanceName ++ "." ++ sts ++ "-%d" := by
    unfold dfsNameNodeHttpAddressHa httpKey
    split <;> rfl
  simp only [addresses, propertyNames_append, hhttp]
  rw [hnames _ g.httpKey_mem, hnames _ (by simp [addressKeys]), hnames _ (by simp [addressKeys])]

/-- Names under different keys are different, and under one key they differ by the ordinal. -/
theorem propertyNames_addresses_nodup {sts : String} (hinst : '%' ∉ g.instanceName.toList)
    (hsts : '%' ∉ sts.toList) : (propertyNames (g.addresses sts)).Nodup := by
  have hone (key : String) : (g.keyNames key sts).Nodup :=
    (List.nodup_range).map (ordinalName_injective _)
  have htwo {key key' : String} (hne : key ≠ key') (hk : key ∈ addressKeys)
      (hk' : key' ∈ addressKeys) : ∀ a ∈ g.keyNames key sts, ∀ b ∈ g.keyNames key' sts, a ≠ b := by
    intro a ha b hb
    obtain ⟨i, -, rfl⟩ := List.mem_map.mp ha
    obtain ⟨j, -, rfl⟩ := List.mem_map.mp hb
    obtain ⟨h₁, h₂⟩ := addressKeys_incomparable key hk key' hk' hne
    simp only [ordinalName, String.append_assoc]
    exact append_ne_append h₁ h₂ _ _
  rw [propertyNames_addresses hinst hsts, List.nodup_append, List.nodup_append]
  have hrpc : "dfs.namenode.rpc-address." ∈ addressKeys := by simp [addressKeys]
  have hdir : "dfs.namenode.name.dir." ∈ addressKeys := by simp [addressKeys]
  have hhttp : g.httpKey ≠ "dfs.namenode.rpc-address." ∧ g.httpKey ≠ "dfs.namenode.name.dir." := by
    unfold httpKey
    split <;> decide
  refine ⟨⟨hone _, hone _, htwo hhttp.1 g.httpKey_mem hrpc⟩, hone _, ?_⟩
  intro a ha
  rcases List.mem_append.mp ha with ha | ha
  · exact htwo hhttp.2 g.httpKey_mem hdir a ha
  · exact htwo (by decide) hrpc hdir a ha

/-- Without percent signs no name occurs twice before the last part. -/
theorem propertyNames_nodup (hg : g.SecurityOnly) {sts : String}
    (hinst : '%' ∉ g.instanceName.toList) (hsts : '%' ∉ sts.toList) :
    (propertyNames (siteTemplateProperties ++ (g.head sts ++ g.addresses sts))).Nodup := by
  rw [← List.append_assoc, propertyNames_append, List.nodup_append]
  refine ⟨propertyNames_head_nodup hg sts, propertyNames_addresses_nodup hinst hsts, ?_⟩
  rintro a ha _ hb rfl
  exact isAddressKey_notMem_head hg sts (isAddressKey_of_mem_addresses hb) ha

end NameNodeHdfsSiteXmlGenerator

end HdfsOperator
