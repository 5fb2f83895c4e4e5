import HdfsOperator.Core.Variables
import HdfsOperator.Correctness.Containers

/-!
# Kerberos principals

With Kerberos on, two init scripts get a ticket, for a principal that the shell completes with the
realm. The generated `core-site.xml` of the same role group gives a principal to the server, which
Hadoop completes. The two texts are written by different functions, and so are the path of the
keytab and the volume that holds it. Overrides can replace the generated file.
-/

namespace HdfsOperator

open HdfsCluster Variables

/-- The names in core-site.xml can be held by XML. -/
theorem coreSiteProperties_xmlText (c : HdfsCluster) :
    ∀ n ∈ propertyNames ([defaultFs c.name.val] ++ coreSiteProperties c), Xml.XmlText n := by
  unfold coreSiteProperties
  cases isKerberosEnabled c.clusterConfig
  · exact (by decide : ∀ n ∈ ["fs.defaultFS", "ha.zookeeper.quorum"], Xml.XmlText n)
  · exact (by decide +kernel : ∀ n ∈ propertyNames ([defaultFs ""] ++
      (securityCoreSiteXml "" "" ++ [⟨"ha.zookeeper.quorum", ""⟩])), Xml.XmlText n)

/-- What a variable stands for in the files of Hadoop, in an environment. -/
abbrev ReadVariable := (List Char → Option (List Char)) → List Char → Option (List Char)

/-- What is assumed of Hadoop: a name after `env.` is read from the environment, if there is nothing
in it that could mark a default value. -/
def ReadVariable.ReadsEnv (read : ReadVariable) : Prop :=
  ∀ env name, name.all (fun ch => ch.isAlphanum || ch == '_') = true →
    read env ("env.".toList ++ name) = env name

/-- The role whose ticket the script of a component gets. -/
def ContainerComponent.ticketRole : ContainerComponent → Option Role
  | .formatNameNode => some .nameNode
  | .waitForNameNodes => some .dataNode
  | _ => none

/-- The properties of `core-site.xml` for the principal of a role. -/
theorem principal_mem (instanceName ns : String) (r : Role) :
    ⟨"dfs." ++ r.text ++ ".kerberos.principal",
        getKerberosServiceName r ++ "/" ++ principalHostPart instanceName ns⟩ ∈
      securityCoreSiteXml instanceName ns ∧
    ⟨"dfs." ++ r.text ++ ".keytab.file", keytabPath⟩ ∈ securityCoreSiteXml instanceName ns := by
  have hservices : "nn" ++ "/" = "nn/" ∧ "dn" ++ "/" = "dn/" ∧ "jn" ++ "/" = "jn/" := by decide
  have hprincipals : "dfs." ++ "namenode" ++ ".kerberos.principal" =
        "dfs.namenode.kerberos.principal" ∧
      "dfs." ++ "datanode" ++ ".kerberos.principal" = "dfs.datanode.kerberos.principal" ∧
      "dfs." ++ "journalnode" ++ ".kerberos.principal" = "dfs.journalnode.kerberos.principal" := by
    decide
  have hkeytabs : "dfs." ++ "namenode" ++ ".keytab.file" = "dfs.namenode.keytab.file" ∧
      "dfs." ++ "datanode" ++ ".keytab.file" = "dfs.datanode.keytab.file" ∧
      "dfs." ++ "journalnode" ++ ".keytab.file" = "dfs.journalnode.keytab.file" := by
    decide
  cases r <;>
    simp only [Role.text, getKerberosServiceName, hservices, hprincipals, hkeytabs] <;>
    simp [securityCoreSiteXml]

/-- The part of a principal before the realm. -/
def principalStart (c : HdfsCluster) (r : Role) : String :=
  getKerberosServiceName r ++ "/" ++
    (c.name.val ++ "." ++ c.nameSpace.val ++ ".svc.cluster.local@")

theorem principalStart_notMem (c : HdfsCluster) (r : Role) :
    '$' ∉ (principalStart c r).toList := by
  have hname := c.name.text.notMem (show dnsChar '$' = false by decide)
  have hspace := c.nameSpace.text.notMem (show dnsChar '$' = false by decide)
  have hservice : '$' ∉ (getKerberosServiceName r).toList := by cases r <;> decide
  simp only [principalStart, String.toList_append, List.mem_append, not_or]
  exact ⟨⟨hservice, by decide⟩, ⟨⟨hname, by decide⟩, hspace⟩, by decide⟩

/-- The principals in core-site.xml can be held by XML. -/
theorem xmlText_principal (c : HdfsCluster) (r : Role) : Xml.XmlText
    (getKerberosServiceName r ++ "/" ++ principalHostPart c.name.val c.nameSpace.val) := by
  have hservice : Xml.XmlText (getKerberosServiceName r ++ "/") := by cases r <;> decide
  have hname : Xml.XmlText (c.name.val ++ ".") := c.name.text.plainText.xmlText.append (by decide)
  exact hservice.append ((hname.append c.nameSpace.text.plainText.xmlText).append (by decide))

/-- What the shell makes of the principal of a script. -/
theorem expand_createKerberosPrincipal (c : HdfsCluster) (r : Role)
    {env : List Char → Option (List Char)} {realm : List Char}
    (hrealm : env "KERBEROS_REALM".toList = some realm) :
    expand env (createKerberosPrincipal c.name.val c.nameSpace.val r).toList =
      (principalStart c r).toList ++ realm := by
  have htext : (createKerberosPrincipal c.name.val c.nameSpace.val r).toList =
      (principalStart c r).toList ++ reference "KERBEROS_REALM".toList := by
    have hlit : ".svc.cluster.local@$\x7bKERBEROS_REALM\x7d".toList =
        ".svc.cluster.local@".toList ++ reference "KERBEROS_REALM".toList := by decide
    simp only [createKerberosPrincipal, principalStart, String.toList_append, hlit,
      List.append_assoc]
  rw [htext, expand_text_reference (principalStart_notMem c r) (by decide) hrealm]

/-- What Hadoop makes of the principal of a server. -/
theorem expand_principalHostPart {read : ReadVariable} (hread : read.ReadsEnv) (c : HdfsCluster)
    (r : Role) {env : List Char → Option (List Char)} {realm : List Char}
    (hrealm : env "KERBEROS_REALM".toList = some realm) :
    expand (read env) (getKerberosServiceName r ++ "/" ++
        principalHostPart c.name.val c.nameSpace.val).toList =
      (principalStart c r).toList ++ realm := by
  have htext : (getKerberosServiceName r ++ "/" ++
      principalHostPart c.name.val c.nameSpace.val).toList =
        (principalStart c r).toList ++ reference "env.KERBEROS_REALM".toList := by
    have hlit : ".svc.cluster.local@$\x7benv.KERBEROS_REALM\x7d".toList =
        ".svc.cluster.local@".toList ++ reference "env.KERBEROS_REALM".toList := by decide
    simp only [principalHostPart, principalStart, String.toList_append, hlit, List.append_assoc]
  have hvalue : read env "env.KERBEROS_REALM".toList = some realm :=
    (hread env "KERBEROS_REALM".toList (by decide)).trans hrealm
  rw [htext, expand_text_reference (principalStart_notMem c r) (by decide) hvalue]

section Agreement

variable {c : HdfsCluster} {fw : Framework} {o : RunOrders} {r : Role} {g : String}
  {overrides : Option OverridesSpec} {configs : GoMap String}

/-- The `core-site.xml` of a role group names the principal and the keytab of each role. -/
theorem coreSite_principal (hkerberos : isKerberosEnabled c.clusterConfig = true)
    (hconfigs : c.buildConfig fw o r g overrides = .ok configs) (r' : Role) :
    ∃ coreSite, configs.lookup coreSiteFileName = some coreSite ∧
      documentValue coreSite ("dfs." ++ r'.text ++ ".kerberos.principal") =
        some (getKerberosServiceName r' ++ "/" ++
          principalHostPart c.name.val c.nameSpace.val) ∧
      documentValue coreSite ("dfs." ++ r'.text ++ ".keytab.file") = some keytabPath := by
  obtain ⟨hprincipal, hkeytab⟩ := principal_mem c.name.val c.nameSpace.val r'
  have hmem {p : XmlNameValuePair} (hp : p ∈ securityCoreSiteXml c.name.val c.nameSpace.val) :
      p ∈ [defaultFs c.name.val] ++ coreSiteProperties c := by
    rw [coreSiteProperties, if_pos hkerberos]
    exact List.mem_append_right _ (List.mem_append_left _ hp)
  have hvalue {p : XmlNameValuePair} (hp : p ∈ securityCoreSiteXml c.name.val c.nameSpace.val) :=
    documentValue_of_mem (coreSiteProperties_nodup c) (coreSiteProperties_xmlText c) (hmem hp)
  refine ⟨_, buildConfig_coreSite hconfigs, (hvalue hprincipal).trans ?_, (hvalue hkeytab).trans ?_⟩
  · exact congrArg some (Xml.replaceText_of_xmlText (xmlText_principal c r'))
  · exact congrArg some (Xml.replaceText_of_xmlText (show Xml.XmlText keytabPath by decide))

/-- The script of a component that gets a ticket exports the realm just before. -/
theorem script_ticket {k : ContainerComponent} (hk : k.ticketRole = some r)
    (hkerberos : isKerberosEnabled c.clusterConfig = true) (bash : BashTexts) (ids : String) :
    k.script bash c ids = copyConfigText k.getContainerName ++ "\n\n" ++
      exportKrbRealmFromConfig krb5ConfPath ++
      getKerberosTicket (createKerberosPrincipal c.name.val c.nameSpace.val r) keytabPath ++
      k.body bash ids := by
  cases k <;> cases hk <;>
    simp only [ContainerComponent.script, ContainerComponent.kerberosCommands, hkerberos, if_true,
      String.append_assoc] <;>
    rfl

/-- The mount of the Kerberos secret in a Hadoop container. -/
theorem kerberos_mem_getVolumeMounts {clusterConfig : ClusterConfigSpec} {k : ContainerComponent}
    (hkerberos : isKerberosEnabled clusterConfig = true) (hk : k ≠ .oidc) :
    ⟨"kerberos", "/kubedoop/kerberos/"⟩ ∈ k.getVolumeMounts clusterConfig := by
  have hcommon : ⟨"kerberos", "/kubedoop/kerberos/"⟩ ∈ getCommonVolumeMounts clusterConfig := by
    rw [getCommonVolumeMounts, hkerberos]
    exact List.mem_append_left _ (List.mem_append_right _ (List.mem_singleton.mpr rfl))
  rw [ContainerComponent.getVolumeMounts, if_neg hk]
  exact List.mem_append_left _ (List.mem_append_left _ hcommon)

/-- The volume of the Kerberos secret in the pods of a role group. -/
theorem kerberos_mem_volumes {pods : PodFramework} {order : RangeOrder} {b : StatefulSetBuilder}
    {t : PodTemplate} {kerberos : KerberosSpec}
    (hkerberos : b.instance'.clusterConfig.authentication.bind AuthenticationSpec.kerberos =
      some kerberos)
    (ht : b.componentTemplate pods order r = .ok t) :
    createKerberosSecretPvc kerberos.secretClass b.instance'.name.val r ∈ t.volumes := by
  obtain ⟨init, -, ht⟩ := Go.bind_eq_ok.mp ht
  obtain ⟨volumes, -, ht⟩ := Go.bind_eq_ok.mp ht
  obtain ⟨claims, -, ht⟩ := Go.bind_eq_ok.mp ht
  cases ht
  refine List.mem_append_left _ ?_
  simp [getCommonVolumes, hkerberos]

/-- The principal that an init script gets a ticket for and the one that the server of the role is
given in the generated `core-site.xml` are the same in every environment with a realm, and belong to
a service that the mounted secret is asked for. The keytab is the one in that secret in both
places. -/
theorem kinit_principal_agrees {inputs : ContainerInputs} {pods : PodFramework}
    {order : RangeOrder} {settings : ConfigSpec} {t : PodTemplate} {spec : ContainerSpec}
    {k : ContainerComponent} {kerberos : KerberosSpec} {read : ReadVariable}
    (hinputs : inputs.Lawful) (hread : read.ReadsEnv) (hg : '{' ∉ g.toList)
    (hgroups : ∀ p ∈ c.nameNodePods, '{' ∉ p.group.toList) (hk : k.ticketRole = some r)
    (hkerberos : c.clusterConfig.authentication.bind AuthenticationSpec.kerberos = some kerberos)
    (ht : (c.statefulSetBuilder r g settings).componentTemplate pods order r = .ok t)
    (hspec : (c.statefulSetBuilder r g settings).containerSpec inputs order k = .ok spec)
    (hconfigs : c.buildConfig fw o r g overrides = .ok configs)
    {env : List Char → Option (List Char)} {realm : List Char}
    (hrealm : env "KERBEROS_REALM".toList = some realm) :
    ∃ principal coreSite value service host,
      (∃ before after, spec.args = [before ++ exportKrbRealmFromConfig krb5ConfPath ++
        getKerberosTicket principal "/kubedoop/kerberos/keytab" ++ after]) ∧
      configs.lookup coreSiteFileName = some coreSite ∧
      documentValue coreSite ("dfs." ++ r.text ++ ".kerberos.principal") = some value ∧
      documentValue coreSite ("dfs." ++ r.text ++ ".keytab.file") =
        some "/kubedoop/kerberos/keytab" ∧
      expand env principal.toList = (service ++ "/" ++ host).toList ++ realm ∧
      expand (read env) value.toList = (service ++ "/" ++ host).toList ++ realm ∧
      ∃ v ∈ t.volumes, v.source = .kerberosSecret kerberos.secretClass ("service=" ++ c.name.val)
        (service ++ ",HTTP") ∧ ⟨v.name, "/kubedoop/kerberos/"⟩ ∈ spec.volumeMounts := by
  have hon : isKerberosEnabled c.clusterConfig = true := by
    obtain ⟨a, ha, hkrb⟩ := Option.bind_eq_some_iff.mp hkerberos
    simp [isKerberosEnabled, ha, hkrb]
  have hne : k ≠ .oidc := by
    rintro rfl
    cases hk
  obtain ⟨-, hmounts, -, ids, -, hargs⟩ := containerSpec_eq_ok hinputs hg hgroups hne hspec
  obtain ⟨coreSite, hlookup, hprincipal, hkeytab⟩ := coreSite_principal hon hconfigs r
  have hscript := hargs.trans (congrArg ([·]) (script_ticket hk hon inputs.bash ids))
  refine ⟨_, coreSite, _, getKerberosServiceName r, _, ⟨_, _, hscript⟩, hlookup, hprincipal,
    hkeytab, expand_createKerberosPrincipal c r hrealm,
    expand_principalHostPart hread c r hrealm, _, kerberos_mem_volumes hkerberos ht, rfl, ?_⟩
  rw [hmounts]
  exact kerberos_mem_getVolumeMounts hon hne

end Agreement

section References

variable {c : HdfsCluster} {fw : Framework} {o : RunOrders} {r : Role} {g : String}
  {overrides : Option OverridesSpec} {configs : GoMap String}

/-- A principal refers to the realm. -/
theorem references_principalHostPart (c : HdfsCluster) {service : String}
    (h : '$' ∉ service.toList) :
    references (service ++ principalHostPart c.name.val c.nameSpace.val).toList =
      ["env.KERBEROS_REALM".toList] := by
  have hname := c.name.text.notMem (show dnsChar '$' = false by decide)
  have hspace := c.nameSpace.text.notMem (show dnsChar '$' = false by decide)
  have hlit : ".svc.cluster.local@$\x7benv.KERBEROS_REALM\x7d".toList =
      ".svc.cluster.local@".toList ++ reference "env.KERBEROS_REALM".toList := by decide
  have htext : (service ++ principalHostPart c.name.val c.nameSpace.val).toList =
      (service ++ (c.name.val ++ "." ++ c.nameSpace.val ++ ".svc.cluster.local@")).toList ++
        reference "env.KERBEROS_REALM".toList := by
    simp only [principalHostPart, String.toList_append, hlit, List.append_assoc]
  rw [htext]
  refine references_text_reference ?_ (by decide)
  simp only [String.toList_append, List.mem_append, not_or]
  exact ⟨h, ⟨⟨hname, by decide⟩, hspace⟩, by decide⟩

/-- A value that is read back as it was written, and refers to no variables but those in the
list. -/
def RefersTo (names : List String) (value : String) : Prop :=
  Xml.XmlText value ∧ ∀ name ∈ references value.toList, ∃ v ∈ names, name = ("env." ++ v).toList

/-- The Kerberos properties refer to the realm at most. -/
theorem refersTo_securityCoreSiteXml (c : HdfsCluster) :
    ∀ p ∈ securityCoreSiteXml c.name.val c.nameSpace.val, RefersTo ["KERBEROS_REALM"] p.value := by
  have hservices (service : String) (hxml : Xml.XmlText service) (h : '$' ∉ service.toList) :
      RefersTo ["KERBEROS_REALM"] (service ++ principalHostPart c.name.val c.nameSpace.val) := by
    have hname : Xml.XmlText (c.name.val ++ ".") := c.name.text.plainText.xmlText.append (by decide)
    refine ⟨hxml.append ((hname.append c.nameSpace.text.plainText.xmlText).append (by decide)), ?_⟩
    rw [references_principalHostPart c h]
    exact List.forall_mem_singleton.mpr ⟨_, List.mem_singleton.mpr rfl, by decide⟩
  have hfixed : ∀ value ∈ ["kerberos", keytabPath, "privacy"],
      RefersTo ["KERBEROS_REALM"] value := by
    intro value hvalue
    have hplain : ∀ value ∈ ["kerberos", keytabPath, "privacy"],
        Xml.XmlText value ∧ references value.toList = [] := by decide
    obtain ⟨hxml, hnone⟩ := hplain value hvalue
    exact ⟨hxml, by rw [hnone]; exact List.forall_mem_nil _⟩
  simp only [securityCoreSiteXml, List.forall_mem_cons]
  exact ⟨hfixed "kerberos" (by decide), hservices "jn/" (by decide) (by decide),
    hservices "jn/" (by decide) (by decide), hservices "nn/" (by decide) (by decide),
    hservices "dn/" (by decide) (by decide), hservices "HTTP/" (by decide) (by decide),
    hfixed keytabPath (by decide), hfixed keytabPath (by decide), hfixed keytabPath (by decide),
    hservices "jn/" (by decide) (by decide), hservices "nn/" (by decide) (by decide),
    hfixed "privacy" (by decide), List.forall_mem_nil _⟩

/-- The variables that `core-site.xml` refers to. -/
def coreSiteVariables (clusterConfig : ClusterConfigSpec) : List String :=
  (if isKerberosEnabled clusterConfig then ["KERBEROS_REALM"] else []) ++ ["ZOOKEEPER"]

theorem RefersTo.mono {names names' : List String} (h : names ⊆ names') {value : String}
    (hvalue : RefersTo names value) : RefersTo names' value :=
  ⟨hvalue.1, fun name hname => (hvalue.2 name hname).imp fun _ hv => ⟨h hv.1, hv.2⟩⟩

/-- Every value of core-site.xml refers to variables of the list only. -/
theorem refersTo_coreSite (c : HdfsCluster) :
    ∀ p ∈ [defaultFs c.name.val] ++ coreSiteProperties c,
      RefersTo (coreSiteVariables c.clusterConfig) p.value := by
  intro p hp
  rcases List.mem_append.mp hp with hp | hp
  · rw [List.mem_singleton.mp hp]
    refine ⟨(plainPair_defaultFs c).2.xmlText, ?_⟩
    have hnone : '$' ∉ (defaultFs c.name.val).value.toList := by
      simp only [defaultFs, String.toList_append, List.mem_append, not_or]
      exact ⟨⟨by decide, c.name.text.notMem (by decide)⟩, by decide⟩
    rw [references_eq_nil hnone]
    exact List.forall_mem_nil _
  · rcases List.mem_append.mp hp with hp | hp
    · cases hkerberos : isKerberosEnabled c.clusterConfig with
      | false =>
        rw [hkerberos] at hp
        cases hp
      | true =>
        rw [hkerberos] at hp
        refine (refersTo_securityCoreSiteXml c p hp).mono ?_
        rw [coreSiteVariables, hkerberos]
        exact List.subset_append_left _ _
    · rw [List.mem_singleton.mp hp]
      have hzookeeper : references "$\x7benv.ZOOKEEPER\x7d".toList = ["env.ZOOKEEPER".toList] := by
        decide
      refine ⟨by decide, ?_⟩
      rw [hzookeeper]
      exact List.forall_mem_singleton.mpr
        ⟨"ZOOKEEPER", List.mem_append_right _ (List.mem_singleton.mpr rfl), by decide⟩

/-- The command exports the realm. -/
theorem exportKrbRealmFromConfig_append (path rest : String) :
    exportKrbRealmFromConfig path ++ rest = "export " ++ "KERBEROS_REALM" ++ "=" ++
      ("$(grep -oP 'default_realm = \\K.*' " ++ path ++ ")\n" ++ rest) := by
  have hlit : "export KERBEROS_REALM=$(grep -oP 'default_realm = \\K.*' " =
      "export " ++ "KERBEROS_REALM" ++ "=" ++ "$(grep -oP 'default_realm = \\K.*' " := by
    decide +kernel
  unfold exportKrbRealmFromConfig
  rw [hlit]
  simp only [String.append_assoc]

/-- The Kerberos commands of a script begin with the export of the realm. -/
theorem ContainerComponent.kerberosCommands_starts (k : ContainerComponent) (c : HdfsCluster) :
    ∃ command, k.kerberosCommands c = "export " ++ "KERBEROS_REALM" ++ "=" ++ command := by
  have hends : ∃ rest, k.kerberosCommands c = exportKrbRealmFromConfig krb5ConfPath ++ rest := by
    cases k with
    | zkfc | formatZookeeper | oidc => exact ⟨"", String.append_empty.symm⟩
    | nameNode | dataNode | journalNode => exact ⟨"\n", rfl⟩
    | formatNameNode =>
      exact ⟨getKerberosTicket (createKerberosPrincipal c.name.val c.nameSpace.val .nameNode)
        keytabPath, rfl⟩
    | waitForNameNodes =>
      exact ⟨getKerberosTicket (createKerberosPrincipal c.name.val c.nameSpace.val .dataNode)
        keytabPath, rfl⟩
  obtain ⟨rest, hrest⟩ := hends
  exact ⟨_, hrest.trans (exportKrbRealmFromConfig_append krb5ConfPath rest)⟩

/-- Every variable that a value in the generated `core-site.xml` of a role group refers to is set in
every Hadoop container of its pods: it is in the environment of the container, or its script exports
it before the server is started. -/
theorem coreSite_references_set {inputs : ContainerInputs} {order : RangeOrder}
    {settings : ConfigSpec} {spec : ContainerSpec} {k : ContainerComponent}
    (hinputs : inputs.Lawful) (hg : '{' ∉ g.toList)
    (hgroups : ∀ p ∈ c.nameNodePods, '{' ∉ p.group.toList) (hk : k ∈ roleComponents r)
    (hspec : (c.statefulSetBuilder r g settings).containerSpec inputs order k = .ok spec)
    (hconfigs : c.buildConfig fw o r g overrides = .ok configs) :
    ∃ coreSite, configs.lookup coreSiteFileName = some coreSite ∧
      ∀ name value, documentValue coreSite name = some value →
        ∀ ref ∈ references value.toList, ∃ v, ref = ("env." ++ v).toList ∧
          (v ∈ spec.envVars.map EnvVar.name ∨ ∃ ids command, spec.args =
            [copyConfigText spec.name ++ (if k.isServer then "\n" else "\n\n") ++
              "export " ++ v ++ "=" ++ command ++ k.body inputs.bash ids]) := by
  obtain ⟨hne, -⟩ := roleComponents_facts r k hk
  obtain ⟨hname, -, henv, ids, -, hargs⟩ := containerSpec_eq_ok hinputs hg hgroups hne hspec
  refine ⟨_, buildConfig_coreSite hconfigs, fun name value hvalue ref href => ?_⟩
  rw [documentValue_encode] at hvalue
  obtain ⟨q, hq, -, rfl⟩ := mem_of_effectiveValue hvalue
  obtain ⟨p, hp, rfl⟩ := List.mem_map.mp hq
  obtain ⟨hxml, hrefs⟩ := refersTo_coreSite c p hp
  have hread : (replacePair p).value = p.value := Xml.replaceText_of_xmlText hxml
  rw [hread] at href
  obtain ⟨v, hv, rfl⟩ := hrefs ref href
  refine ⟨v, rfl, ?_⟩
  rcases List.mem_append.mp hv with hv | hv
  · cases hkerberos : isKerberosEnabled c.clusterConfig with
    | false =>
      rw [hkerberos] at hv
      cases hv
    | true =>
      rw [hkerberos] at hv
      rw [List.mem_singleton.mp hv, hname]
      obtain ⟨command, hcommand⟩ := k.kerberosCommands_starts c
      refine .inr ⟨ids, command, hargs.trans (congrArg ([·]) ?_)⟩
      show ContainerComponent.script inputs.bash c ids k = _
      rw [ContainerComponent.script, hkerberos, if_pos rfl, hcommand]
      simp only [String.append_assoc]
  · rw [List.mem_singleton.mp hv, henv]
    refine .inl (List.mem_map.mpr ⟨⟨"ZOOKEEPER", .configMapKeyRef inputs.zookeeperConfigMapName
      "ZOOKEEPER"⟩, List.mem_append_left _ (List.mem_append_left _ ?_), rfl⟩)
    simp

end References

/-- An environment in which every variable is the same realm. -/
def exampleRealm (_ : List Char) : Option (List Char) := some "EXAMPLE".toList

/-- A reader that knows no variables but those of the environment. -/
def readEnv : ReadVariable := fun env name =>
  if "env.".toList.isPrefixOf name then env (name.drop 4) else none

/-- The reader above reads variables of the environment. -/
theorem readEnv_readsEnv : readEnv.ReadsEnv := fun _ _ _ => rfl

theorem kerberosCluster_buildConfig :
    ∃ configs, kerberosCluster.buildConfig plainFramework .stored .nameNode "default" none =
      .ok configs :=
  buildConfig_ok (n := 2) (HdfsCluster.ofReplicas_replicasSet _ _ _ _) (by decide) (by decide)
    (by decide) rfl plainFramework .stored .nameNode none

theorem kinit_principal_agrees_kerberosCluster :
    ∃ spec configs principal value, (kerberosCluster.statefulSetBuilder .nameNode "default"
        (completed .nameNode {})).containerSpec frameworkInputs .stored .formatNameNode = .ok spec ∧
      kerberosCluster.buildConfig plainFramework .stored .nameNode "default" none = .ok configs ∧
      ((configs.lookup coreSiteFileName).bind fun text =>
        documentValue text "dfs.namenode.kerberos.principal") = some value ∧
      expand exampleRealm principal = expand (readEnv exampleRealm) value.toList := by
  obtain ⟨t, ht⟩ := nameNodeGroupWith_componentTemplate kerberosCluster.clusterConfig {}
  obtain ⟨spec, hspec⟩ := kerberosCluster_containerSpec (completed .nameNode {}) (.inr rfl)
  obtain ⟨configs, hconfigs⟩ := kerberosCluster_buildConfig
  obtain ⟨principal, coreSite, value, service, host, -, hlookup, hvalue, -, hshell, hhadoop, -⟩ :=
    kinit_principal_agrees (c := kerberosCluster) frameworkInputs_lawful readEnv_readsEnv
      (by decide) kerberosCluster_plain rfl rfl ht hspec hconfigs
      (show exampleRealm "KERBEROS_REALM".toList = some "EXAMPLE".toList from rfl)
  refine ⟨spec, configs, principal.toList, value, hspec, hconfigs, ?_, hshell.trans hhadoop.symm⟩
  rw [hlookup]
  exact hvalue

theorem coreSite_references_set_kerberosCluster :
    ∃ spec configs coreSite, (kerberosCluster.statefulSetBuilder .nameNode "default"
        (completed .nameNode {})).containerSpec frameworkInputs .stored .formatNameNode = .ok spec ∧
      kerberosCluster.buildConfig plainFramework .stored .nameNode "default" none = .ok configs ∧
      configs.lookup coreSiteFileName = some coreSite ∧
      ∀ name value, documentValue coreSite name = some value →
        ∀ ref ∈ references value.toList, ∃ v, ref = ("env." ++ v).toList := by
  obtain ⟨spec, hspec⟩ := kerberosCluster_containerSpec (completed .nameNode {}) (.inr rfl)
  obtain ⟨configs, hconfigs⟩ := kerberosCluster_buildConfig
  obtain ⟨coreSite, hlookup, hset⟩ := coreSite_references_set frameworkInputs_lawful (by decide)
    kerberosCluster_plain (by decide) hspec hconfigs
  exact ⟨spec, configs, coreSite, hspec, hconfigs, hlookup, fun name value hvalue ref href =>
    (hset name value hvalue ref href).imp fun _ hv => hv.1⟩

end HdfsOperator
