import HdfsOperator.Correctness.NameNodeIds
import HdfsOperator.Models.Scripts

/-!
# What scripts say

A script is the commands that copy configuration files, the Kerberos commands when Kerberos is on,
and a body that does not depend on it. Rendering does not fail if no group name has a brace and
the parser does with a block what the library says; what is left is that the ids of NameNodes
cannot be listed.
-/

namespace HdfsOperator

open Template (Plain Block Marked plain_toList plain_append plain_intercalate plain_of_notMem)

theorem zkfcBody_plain : Plain zkfcBody.toList := plain_toList rfl (by decide)

theorem formatZookeeperBody_plain : Plain formatZookeeperBody.toList := by
  unfold formatZookeeperBody
  iterate 7 refine plain_append ?_ (plain_toList rfl (by decide +kernel))
  exact plain_toList rfl (by decide)

theorem formatNameNodeTail_plain : Plain formatNameNodeTail.toList := by
  unfold formatNameNodeTail
  iterate 11 refine plain_append ?_ (plain_toList rfl (by decide +kernel))
  exact plain_toList rfl (by decide)

theorem waitScriptTail_plain : Plain waitScriptTail.toList := by
  unfold waitScriptTail
  iterate 9 refine plain_append ?_ (plain_toList rfl (by decide +kernel))
  exact plain_toList rfl (by decide)

/-- The commands that copy the files are plain. -/
theorem copyConfigText_plain {containerName : String} (h : Plain containerName.toList) :
    Plain (copyConfigText containerName).toList := by
  have hdir : Plain (configDir containerName).toList :=
    plain_append (plain_toList rfl (by decide)) h
  have hmount : Plain (configMountDir containerName).toList :=
    plain_append (plain_toList rfl (by decide)) h
  have hlog : Plain (createComponentLog4jPropertiesName containerName).toList :=
    plain_append h (plain_toList rfl (by decide))
  have hlit : Plain "mkdir -p ".toList ∧ Plain "cp ".toList ∧ Plain "/*".toList ∧
      Plain ".xml".toList ∧ Plain " ".toList ∧ Plain "/".toList ∧
      Plain "log4j.properties".toList := by decide
  obtain ⟨hmkdir, hcp, hall, hxml, hblank, hslash, hname⟩ := hlit
  refine plain_intercalate (plain_toList rfl (by decide)) fun s hs => ?_
  simp only [copyConfig, List.map_cons, List.map_nil, List.mem_cons, List.not_mem_nil,
    or_false] at hs
  rcases hs with rfl | rfl | rfl
  · exact plain_append hmkdir hdir
  · exact plain_append (plain_append (plain_append (plain_append (plain_append hcp hmount) hall)
      hxml) hblank) hdir
  · exact plain_append (plain_append (plain_append (plain_append (plain_append (plain_append
      (plain_append hcp hmount) hslash) hlog) hblank) hdir) hslash) hname

/-- The names of containers are plain. -/
theorem getContainerName_plain (k : ContainerComponent) : Plain k.getContainerName.toList := by
  cases k <;> exact plain_toList rfl (by decide)

/-- The field of the environment, with a blank after it or without one. -/
theorem parseAction_kerberosEnv (blank : Bool) :
    Template.parseAction (".kerberosEnv".toList ++ if blank then [' '] else []) =
      some (.field "kerberosEnv") := by cases blank <;> decide +kernel

theorem parseAction_kinitScript :
    Template.parseAction ".kinitScript ".toList = some (.field "kinitScript") := by decide +kernel

/-- The block of a script: with a blank before closing braces or without, with or without a ticket,
and with some newlines before its end. -/
def kerberosBlock (blank ticket : Bool) (newlines : Nat) : Block where
  inner := "if .kerberosEnabled".toList ++ (if blank then [' '] else [])
  closed := by cases blank <;> decide
  key := "kerberosEnabled"
  parseAction_inner := by cases blank <;> decide +kernel
  fields :=
    (⟨['\n'], ".kerberosEnv".toList ++ (if blank then [' '] else []),
      List.forall_mem_singleton.mpr rfl, by cases blank <;> decide⟩, "kerberosEnv") ::
    if ticket then
      [(⟨['\n', '\n'], ".kinitScript ".toList,
        List.forall_mem_cons.mpr ⟨rfl, List.forall_mem_singleton.mpr rfl⟩, by decide⟩,
        "kinitScript")]
    else []
  parseAction_fields := by
    intro f hf
    rcases List.mem_cons.mp hf with rfl | hf
    · exact parseAction_kerberosEnv blank
    · cases ticket with
      | true =>
        obtain rfl := List.mem_singleton.mp hf
        exact parseAction_kinitScript
      | false => cases hf
  last := ⟨List.replicate newlines '\n', "end".toList ++ (if blank then [' '] else []),
    fun ch hch => by rw [List.eq_of_mem_replicate hch]; rfl, by cases blank <;> decide⟩
  parseAction_last := by
    show Template.parseAction ("end".toList ++ _) = _
    cases blank <;> decide +kernel

/-- The blocks of the scripts as they stand in the templates. -/
theorem kerberosBlock_text :
    .ofList (kerberosBlock true false 1).text = kerberosEnvBlock ∧
    .ofList (kerberosBlock true true 2).text = formatNameNodeBlock ∧
    .ofList (kerberosBlock false false 1).text = serverKerberosBlock := by decide +kernel

/-- The text of the script of DataNode pods between the block and the ids. -/
def waitScriptMiddle : String :=
  "\n\necho \"Waiting for namenodes to get ready:\"\nn=0\nwhile [ $\x7bn\x7d -lt 12 ];\ndo\n" ++
  "    ALL_NODES_READY=true\n    for namenode_id in "

theorem waitScriptMiddle_plain : Plain waitScriptMiddle.toList :=
  plain_append (plain_toList rfl (by decide +kernel)) (plain_toList rfl (by decide))

/-- The wait script up to the ids. -/
theorem waitScriptHead_eq :
    waitScriptHead = copyConfigText waitForNameNodesContainer ++ "\n\n" ++
      .ofList (kerberosBlock true true 1).text ++ waitScriptMiddle := by decide +kernel

section Output

variable (data : String → Option Template.Value) {on : Bool} {env kinit : String} (blank : Bool)
  (newlines : Nat)

/-- What a block with the environment writes. -/
theorem ofList_output (hon : data "kerberosEnabled" = some (.bool on))
    (henv : data "kerberosEnv" = some (.text env)) :
    .ofList ((kerberosBlock blank false newlines).output data) = if on then env else "" := by
  have hkey : (kerberosBlock blank false newlines).key = "kerberosEnabled" := rfl
  have hfields : (kerberosBlock blank false newlines).fields.map Prod.snd = ["kerberosEnv"] := rfl
  rw [Block.output_eq, hkey, hfields, hon, Template.truth_bool]
  cases on with
  | false => rw [if_neg Bool.false_ne_true, if_neg Bool.false_ne_true, String.ofList_nil]
  | true => simp [henv]

/-- What a block with the environment and the ticket writes. -/
theorem ofList_output_ticket (hon : data "kerberosEnabled" = some (.bool on))
    (henv : data "kerberosEnv" = some (.text env))
    (hkinit : data "kinitScript" = some (.text kinit)) :
    .ofList ((kerberosBlock blank true newlines).output data) =
      if on then env ++ kinit else "" := by
  have hkey : (kerberosBlock blank true newlines).key = "kerberosEnabled" := rfl
  have hfields : (kerberosBlock blank true newlines).fields.map Prod.snd =
      ["kerberosEnv", "kinitScript"] := rfl
  rw [Block.output_eq, hkey, hfields, hon, Template.truth_bool]
  cases on with
  | false => rw [if_neg Bool.false_ne_true, if_neg Bool.false_ne_true, String.ofList_nil]
  | true => simp [henv, hkinit]

end Output

namespace ContainerComponent

/-- The components whose containers run a Hadoop server of the same name. -/
def isServer : ContainerComponent → Bool
  | .nameNode | .dataNode | .journalNode => true
  | _ => false

/-- The Kerberos commands of a script. -/
def kerberosCommands (c : HdfsCluster) : ContainerComponent → String
  | .nameNode | .dataNode | .journalNode => exportKrbRealmFromConfig krb5ConfPath ++ "\n"
  | .formatNameNode => exportKrbRealmFromConfig krb5ConfPath ++
      getKerberosTicket (createKerberosPrincipal c.name.val c.nameSpace.val .nameNode) keytabPath
  | .waitForNameNodes => exportKrbRealmFromConfig krb5ConfPath ++
      getKerberosTicket (createKerberosPrincipal c.name.val c.nameSpace.val .dataNode) keytabPath
  | _ => exportKrbRealmFromConfig krb5ConfPath

/-- The ids in a script. -/
def ids (b : StatefulSetBuilder) (o : RangeOrder) : ContainerComponent → Go String
  | .formatNameNode => do
    let nameNodeReplicates ← deref b.replicas
    let podNames ← createPodNamesByReplicas nameNodeReplicates
      (b.roleGroupInfo .nameNode).getFullName
    return " ".intercalate podNames
  | .waitForNameNodes => nameNodeIds b.instance' o
  | _ => .ok ""

/-- The part of a script that does not depend on Kerberos, with the given ids. -/
def body (bash : BashTexts) (ids : String) : ContainerComponent → String
  | .nameNode => "\n".intercalate (bash.serverLines nameNodeContainer)
  | .dataNode => "\n".intercalate (bash.serverLines dataNodeContainer)
  | .journalNode => "\n".intercalate (bash.serverLines journalNodeContainer)
  | .zkfc => zkfcBody
  | .formatZookeeper => formatZookeeperBody
  | .formatNameNode => formatNameNodeBody ids
  | .waitForNameNodes => waitScriptMiddle ++ ids ++ waitScriptTail
  | .oidc => ""

/-- A script: it copies configuration files, executes the Kerberos commands if Kerberos is on, and
goes on with its body. -/
def script (bash : BashTexts) (c : HdfsCluster) (ids : String) (k : ContainerComponent) : String :=
  copyConfigText k.getContainerName ++ (if k.isServer then "\n" else "\n\n") ++
    (if isKerberosEnabled c.clusterConfig then k.kerberosCommands c else "") ++ k.body bash ids

end ContainerComponent

/-- Texts of the operator framework without actions. -/
def BashTexts.Plain (bash : BashTexts) : Prop :=
  ∀ serverName : String, Template.Plain serverName.toList →
    ∀ line ∈ bash.serverLines serverName, Template.Plain line.toList

section Data

variable (clusterConfig : ClusterConfigSpec)

/-- The data says whether Kerberos is on. -/
theorem exportData_kerberosEnabled :
    (createExportKrbRealmEnvData clusterConfig).lookup "kerberosEnabled" =
      some (.bool (isKerberosEnabled clusterConfig)) :=
  GoMap.lookup_ofList_of_mem (by simp) (by simp)

/-- The data has the command that exports the realm. -/
theorem exportData_kerberosEnv :
    (createExportKrbRealmEnvData clusterConfig).lookup "kerberosEnv" =
      some (.text (exportKrbRealmFromConfig krb5ConfPath)) :=
  GoMap.lookup_ofList_of_mem (by simp) (by simp)

end Data

theorem newlines_plain : Plain "\n".toList ∧ Plain "\n\n".toList := by decide

section Parse

variable {parser : Template.Parser} (hparser : parser.Lawful)

include hparser

/-- A template with one block is rendered to the text around the block and what the block prints. -/
theorem parseTemplate_block {tmpl t t' out : String} {data : GoMap Template.Value} {b : Block}
    (htmpl : tmpl = t ++ .ofList b.text ++ t')
    (hout : .ofList (b.output fun key => data.lookup key) = out) (ht : Plain t.toList)
    (ht' : Plain t'.toList) : parseTemplate parser tmpl data = .ok [t ++ out ++ t'] := by
  rw [parseTemplate, htmpl, hparser.block b _ ht ht', hout]

/-- The script of a server copies files, exports the realm and starts the server. -/
theorem parseTemplate_serverTemplate {bash : BashTexts} (hbash : bash.Plain)
    (clusterConfig : ClusterConfigSpec) {serverName : String} (hname : Plain serverName.toList) :
    parseTemplate parser (serverTemplate bash clusterConfig serverName)
        (createExportKrbRealmEnvData clusterConfig) =
      .ok [copyConfigText serverName ++ "\n" ++
        (if isKerberosEnabled clusterConfig then exportKrbRealmFromConfig krb5ConfPath ++ "\n"
          else "") ++ "\n".intercalate (bash.serverLines serverName)] := by
  have hlines := plain_intercalate newlines_plain.1 (hbash serverName hname)
  have hcopy := plain_append (copyConfigText_plain hname) newlines_plain.1
  have hne : bash.serverLines serverName ≠ [] := List.cons_ne_nil _ _
  cases hkrb : isKerberosEnabled clusterConfig with
  | false =>
    have htmpl : serverTemplate bash clusterConfig serverName =
        copyConfigText serverName ++ "\n" ++ "\n".intercalate (bash.serverLines serverName) := by
      rw [serverTemplate, hkrb]
      exact String.intercalate_cons_of_ne_nil hne
    rw [parseTemplate, htmpl, hparser.plain _ (plain_append hcopy hlines)]
    simp
  | true =>
    have htmpl : serverTemplate bash clusterConfig serverName =
        copyConfigText serverName ++ "\n" ++ .ofList (kerberosBlock false false 1).text ++
          ("\n" ++ "\n".intercalate (bash.serverLines serverName)) := by
      rw [serverTemplate, hkrb, kerberosBlock_text.2.2, if_pos rfl, List.append_assoc,
        List.singleton_append, List.singleton_append,
        String.intercalate_cons_of_ne_nil (List.cons_ne_nil _ _),
        String.intercalate_cons_of_ne_nil hne]
      simp only [String.append_assoc]
    rw [parseTemplate_block hparser htmpl (ofList_output _ _ _
      (exportData_kerberosEnabled clusterConfig) (exportData_kerberosEnv clusterConfig)) hcopy
      (plain_append newlines_plain.1 hlines), hkrb]
    simp only [if_true, String.append_assoc]

/-- A script with the block that exports the realm. -/
theorem parseTemplate_env (clusterConfig : ClusterConfigSpec) {containerName body : String}
    (hname : Plain containerName.toList) (hbody : Plain body.toList) :
    parseTemplate parser (copyConfigText containerName ++ "\n\n" ++ kerberosEnvBlock ++ body)
        (createExportKrbRealmEnvData clusterConfig) =
      .ok [copyConfigText containerName ++ "\n\n" ++
        (if isKerberosEnabled clusterConfig then exportKrbRealmFromConfig krb5ConfPath else "") ++
        body] := by
  have htmpl : copyConfigText containerName ++ "\n\n" ++ kerberosEnvBlock ++ body =
      copyConfigText containerName ++ "\n\n" ++ .ofList (kerberosBlock true false 1).text ++
        body := by
    rw [kerberosBlock_text.1]
  exact parseTemplate_block hparser htmpl (ofList_output _ _ _
    (exportData_kerberosEnabled clusterConfig) (exportData_kerberosEnv clusterConfig))
    (plain_append (copyConfigText_plain hname) newlines_plain.2) hbody

end Parse

/-- What the init scripts with a ticket find in their data. -/
theorem ticketData_lookup (c : HdfsCluster) (r : Role) :
    (c.ticketData r).lookup "kerberosEnabled" =
        some (.bool (isKerberosEnabled c.clusterConfig)) ∧
      (c.ticketData r).lookup "kerberosEnv" =
        some (.text (exportKrbRealmFromConfig krb5ConfPath)) ∧
      (c.ticketData r).lookup "kinitScript" = some (.text (getKerberosTicket
        (createKerberosPrincipal c.name.val c.nameSpace.val r) keytabPath)) := by
  have hcopied : c.ticketData r = (createExportKrbRealmEnvData c.clusterConfig).insert
      "kinitScript" (.text (getKerberosTicket
        (createKerberosPrincipal c.name.val c.nameSpace.val r) keytabPath)) := rfl
  rw [hcopied]
  refine ⟨?_, ?_, AList.lookup_insert _⟩
  · rw [AList.lookup_insert_ne (by decide)]
    exact exportData_kerberosEnabled c.clusterConfig
  · rw [AList.lookup_insert_ne (by decide)]
    exact exportData_kerberosEnv c.clusterConfig

/-- The commands of the init scripts that get a ticket for the principal of a role. -/
def ticketCommands (c : HdfsCluster) (r : Role) : String :=
  exportKrbRealmFromConfig krb5ConfPath ++
    getKerberosTicket (createKerberosPrincipal c.name.val c.nameSpace.val r) keytabPath

/-- A script with a block that exports the realm and gets a ticket. -/
theorem parseTemplate_ticket {parser : Template.Parser} (hparser : parser.Lawful)
    (c : HdfsCluster) (r : Role) {containerName body tmpl : String} {newlines : Nat}
    (htmpl : tmpl = copyConfigText containerName ++ "\n\n" ++
      .ofList (kerberosBlock true true newlines).text ++ body)
    (hname : Plain containerName.toList) (hbody : Plain body.toList) :
    parseTemplate parser tmpl (c.ticketData r) =
      .ok [copyConfigText containerName ++ "\n\n" ++
        (if isKerberosEnabled c.clusterConfig then ticketCommands c r else "") ++ body] := by
  obtain ⟨hon, henv, hkinit⟩ := ticketData_lookup c r
  exact parseTemplate_block hparser htmpl (ofList_output_ticket _ _ _ hon henv hkinit)
    (plain_append (copyConfigText_plain hname) newlines_plain.2) hbody

/-- The names of pods of groups without an opening brace have none. -/
theorem ids_plain {c : HdfsCluster} {names : List String}
    (h : ∀ x ∈ names, ∃ p : Pod, '{' ∉ p.group.toList ∧ c.podName p = x) :
    Plain (" ".intercalate names).toList := by
  refine plain_intercalate (by decide) fun s hs => plain_of_notMem ?_
  obtain ⟨p, hp, rfl⟩ := h s hs
  have hname := c.name.text.notMem (show dnsChar '{' = false by decide)
  have hnumber := (dnsText_decimal p.ordinal).notMem (show dnsChar '{' = false by decide)
  have hrole : '{' ∉ Role.nameNode.text.toList := by decide
  simp only [HdfsCluster.podName, ordinalName_toList, HdfsCluster.fullName,
    RoleGroupInfo.getFullName, String.toList_append, List.mem_append, List.mem_cons, not_or]
  exact ⟨⟨⟨⟨⟨hname, by decide⟩, hrole⟩, by decide⟩, hp⟩, by decide, hnumber⟩

/-- The ids are plain if the group names are. -/
theorem nameNodeIds_plain {c : HdfsCluster} {o : RangeOrder} {text : String}
    (hgroups : ∀ p ∈ c.nameNodePods, '{' ∉ p.group.toList) (h : nameNodeIds c o = .ok text) :
    Plain text.toList := by
  obtain ⟨-, -, rfl⟩ := nameNodeIds_eq_ok.mp h
  refine ids_plain (c := c) fun x hx => ?_
  obtain ⟨p, hp, rfl⟩ := List.mem_map.mp (mem_podNames.mp hx)
  exact ⟨p, hgroups p hp, rfl⟩

/-- The names of the pods of a group are plain if its name is. -/
theorem podNames_plain {b : StatefulSetBuilder} {n : Int32} {podNames : List String}
    (hgroup : '{' ∉ b.groupName.toList)
    (h : createPodNamesByReplicas n (b.roleGroupInfo .nameNode).getFullName = .ok podNames) :
    Plain (" ".intercalate podNames).toList := by
  obtain ⟨-, rfl⟩ := createPodNamesByReplicas_eq_ok.mp h
  exact ids_plain (c := b.instance')
    (List.forall_mem_map.mpr fun i _ => ⟨⟨b.groupName, i⟩, hgroup, rfl⟩)

theorem formatNameNodeBody_plain {ids : String} (hids : Plain ids.toList) :
    Plain (formatNameNodeBody ids).toList :=
  plain_append (plain_append (plain_append (plain_toList rfl (by decide +kernel))
    (plain_toList rfl (by decide))) hids) formatNameNodeTail_plain

/-- The script of DataNode pods with the given ids. -/
def waitScript (c : HdfsCluster) (ids : String) : String :=
  copyConfigText waitForNameNodesContainer ++ "\n\n" ++
    (if isKerberosEnabled c.clusterConfig then ticketCommands c .dataNode else "") ++
    (waitScriptMiddle ++ ids ++ waitScriptTail)

/-- The script of DataNode pods fails only if the ids cannot be listed. -/
theorem getArgs_eq_waitScript {parser : Template.Parser} (hparser : parser.Lawful)
    {c : HdfsCluster} (hgroups : ∀ p ∈ c.nameNodePods, '{' ∉ p.group.toList) (o : RangeOrder) :
    getArgs parser c o = (do
      let ids ← nameNodeIds c o
      return [waitScript c ids]) := by
  unfold getArgs
  cases hids : nameNodeIds c o with
  | error e => rfl
  | ok text =>
    have htmpl : waitScriptHead ++ text ++ waitScriptTail =
        copyConfigText waitForNameNodesContainer ++ "\n\n" ++
          .ofList (kerberosBlock true true 1).text ++
            (waitScriptMiddle ++ text ++ waitScriptTail) := by
      rw [waitScriptHead_eq]
      simp only [String.append_assoc]
    exact parseTemplate_ticket hparser c .dataNode htmpl (getContainerName_plain .waitForNameNodes)
      (plain_append (plain_append waitScriptMiddle_plain (nameNodeIds_plain hgroups hids))
        waitScriptTail_plain)

namespace ContainerComponent

variable {parser : Template.Parser} {bash : BashTexts} {b : StatefulSetBuilder} (o : RangeOrder)

/-- The first init script of NameNode pods fails only if the ids cannot be listed. -/
theorem getArgs_formatNameNode (hparser : parser.Lawful) (hgroup : '{' ∉ b.groupName.toList) :
    getArgs parser bash b o .formatNameNode = (do
      let ids ← ids b o .formatNameNode
      return [script bash b.instance' ids .formatNameNode]) := by
  simp only [getArgs, ids]
  cases hreplicas : deref b.replicas with
  | error e => rfl
  | ok n =>
    cases hnames : createPodNamesByReplicas n (b.roleGroupInfo .nameNode).getFullName with
    | error e => simp [hnames]
    | ok podNames =>
      have hbody := formatNameNodeBody_plain (podNames_plain hgroup hnames)
      have htmpl (ids : String) : formatNameNodeTemplate ids =
          copyConfigText formatNameNodeContainer ++ "\n\n" ++
            .ofList (kerberosBlock true true 2).text ++ formatNameNodeBody ids := by
        rw [kerberosBlock_text.2.1]
        rfl
      simp only [Go.ok_bind, hnames]
      exact parseTemplate_ticket hparser b.instance' .nameNode (htmpl _)
        (getContainerName_plain .formatNameNode) hbody

/-- What the container of a component executes: if no group has a brace in its name, the only way to
fail is that the ids in the script cannot be listed. -/
theorem getArgs_eq (hparser : parser.Lawful) (hbash : bash.Plain)
    (hgroup : '{' ∉ b.groupName.toList)
    (hgroups : ∀ p ∈ b.instance'.nameNodePods, '{' ∉ p.group.toList) {k : ContainerComponent}
    (hk : k ≠ .oidc) :
    k.getArgs parser bash b o = (do
      let ids ← k.ids b o
      return [k.script bash b.instance' ids]) := by
  cases k with
  | nameNode =>
    exact parseTemplate_serverTemplate hparser hbash _ (getContainerName_plain .nameNode)
  | dataNode =>
    exact parseTemplate_serverTemplate hparser hbash _ (getContainerName_plain .dataNode)
  | journalNode =>
    exact parseTemplate_serverTemplate hparser hbash _ (getContainerName_plain .journalNode)
  | zkfc => exact parseTemplate_env hparser _ (getContainerName_plain .zkfc) zkfcBody_plain
  | formatZookeeper =>
    exact parseTemplate_env hparser _ (getContainerName_plain .formatZookeeper)
      formatZookeeperBody_plain
  | formatNameNode => exact getArgs_formatNameNode o hparser hgroup
  | waitForNameNodes => exact getArgs_eq_waitScript hparser hgroups o
  | oidc => exact absurd rfl hk

/-- No action is left in the Kerberos commands. -/
theorem kerberosCommands_plain (c : HdfsCluster) (k : ContainerComponent) :
    Plain (k.kerberosCommands c).toList := by
  have hexport : Plain (exportKrbRealmFromConfig krb5ConfPath).toList := by
    unfold exportKrbRealmFromConfig
    exact plain_append (plain_append (plain_toList rfl (by decide +kernel))
      (plain_toList rfl (by decide))) (plain_toList rfl (by decide))
  have hname : Plain c.name.val.toList :=
    plain_of_notMem (c.name.text.notMem (show dnsChar '{' = false by decide))
  have hspace : Plain c.nameSpace.val.toList :=
    plain_of_notMem (c.nameSpace.text.notMem (show dnsChar '{' = false by decide))
  have hprincipal (r : Role) :
      Plain (createKerberosPrincipal c.name.val c.nameSpace.val r).toList := by
    have hservice : Plain (getKerberosServiceName r).toList := by
      cases r <;> exact plain_toList rfl (by decide)
    exact plain_append (plain_append hservice (by decide)) (plain_append (plain_append
      (plain_append hname (by decide)) hspace) (plain_toList rfl (by decide +kernel)))
  have hticket (r : Role) : Plain (getKerberosTicket
      (createKerberosPrincipal c.name.val c.nameSpace.val r) keytabPath).toList := by
    have hkeytab : Plain keytabPath.toList := plain_toList rfl (by decide)
    unfold getKerberosTicket
    refine plain_append (plain_append (plain_append (plain_append (plain_append (plain_append
      (plain_append (plain_append ?_ (hprincipal r)) ?_) hkeytab) ?_) (hprincipal r)) ?_) hkeytab)
      ?_
    all_goals exact plain_toList rfl (by decide)
  cases k with
  | nameNode | dataNode | journalNode => exact plain_append hexport newlines_plain.1
  | formatNameNode => exact plain_append hexport (hticket .nameNode)
  | waitForNameNodes => exact plain_append hexport (hticket .dataNode)
  | zkfc | formatZookeeper | oidc => exact hexport

/-- The body of every script is plain. -/
theorem body_plain (hbash : bash.Plain) {ids : String} (hids : Plain ids.toList)
    (k : ContainerComponent) : Plain (k.body bash ids).toList := by
  cases k with
  | nameNode =>
    exact plain_intercalate newlines_plain.1 (hbash _ (getContainerName_plain .nameNode))
  | dataNode =>
    exact plain_intercalate newlines_plain.1 (hbash _ (getContainerName_plain .dataNode))
  | journalNode =>
    exact plain_intercalate newlines_plain.1 (hbash _ (getContainerName_plain .journalNode))
  | zkfc => exact zkfcBody_plain
  | formatZookeeper => exact formatZookeeperBody_plain
  | formatNameNode => exact formatNameNodeBody_plain hids
  | waitForNameNodes =>
    exact plain_append (plain_append waitScriptMiddle_plain hids) waitScriptTail_plain
  | oidc => exact plain_of_notMem List.not_mem_nil

/-- The ids in a script have no opening brace. -/
theorem plain_of_ids {k : ContainerComponent} {ids : String} (hgroup : '{' ∉ b.groupName.toList)
    (hgroups : ∀ p ∈ b.instance'.nameNodePods, '{' ∉ p.group.toList)
    (h : k.ids b o = .ok ids) : Plain ids.toList := by
  cases k with
  | formatNameNode =>
    obtain ⟨n, -, h⟩ := Go.bind_eq_ok.mp h
    obtain ⟨podNames, hnames, h⟩ := Go.bind_eq_ok.mp h
    rw [← Except.ok.inj h]
    exact podNames_plain hgroup hnames
  | waitForNameNodes => exact nameNodeIds_plain hgroups h
  | nameNode | dataNode | journalNode | zkfc | formatZookeeper | oidc =>
    rw [← Except.ok.inj h]
    exact plain_of_notMem List.not_mem_nil

/-- Every script that is written is plain, so rendering it again would change nothing. -/
theorem script_plain (hbash : bash.Plain) {ids : String} (hids : Plain ids.toList)
    (c : HdfsCluster) (k : ContainerComponent) : Plain (k.script bash c ids).toList := by
  refine plain_append (plain_append (plain_append
    (copyConfigText_plain (getContainerName_plain k)) ?_) ?_) (body_plain hbash hids k)
  · split
    · exact newlines_plain.1
    · exact newlines_plain.2
  · split
    · exact kerberosCommands_plain c k
    · exact plain_of_notMem List.not_mem_nil

/-- A script begins with the commands that copy configuration files. -/
theorem script_starts (bash : BashTexts) (c : HdfsCluster) (ids : String)
    (k : ContainerComponent) :
    ∃ rest, k.script bash c ids = copyConfigText k.getContainerName ++ "\n" ++ rest := by
  have htwo : "\n\n" = "\n" ++ "\n" := by decide
  refine ⟨(if k.isServer then "" else "\n") ++
    (if isKerberosEnabled c.clusterConfig then k.kerberosCommands c else "") ++ k.body bash ids, ?_⟩
  cases hserver : k.isServer with
  | true => simp [script, hserver, String.append_assoc]
  | false => simp only [script, hserver, htwo, Bool.false_eq_true, if_false, String.append_assoc]

end ContainerComponent

end HdfsOperator
