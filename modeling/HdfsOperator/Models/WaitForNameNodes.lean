import HdfsOperator.Core.Template
import HdfsOperator.Models.Replicas
import HdfsOperator.Models.Security

/-!
# Waiting for NameNodes

The init script of DataNode pods waits until every NameNode answers. The ids of the
NameNodes are written into the text of the script, which is then rendered as a template. The
parser of templates is a parameter.
-/

namespace HdfsOperator

/-- The loop that collects the pod names of the NameNode groups. -/
def nameNodePodNames (c : HdfsCluster) : List (String × RoleGroupSpec) → Go (List String)
  | [] => .ok []
  | (groupName, roleGroupSpec) :: groups => do
    let replicas ← deref roleGroupSpec.replicas
    let groupPodNames ← createPodNamesByReplicas replicas (c.fullName .nameNode groupName)
    let podNames ← nameNodePodNames c groups
    return groupPodNames ++ podNames

/-- The ids in the script. -/
def nameNodeIds (c : HdfsCluster) (o : RangeOrder) : Go String := do
  let nameNode ← deref c.nameNode
  let podNames ← nameNodePodNames c (nameNode.roleGroups.range o)
  return " ".intercalate podNames

/-- The path of the Kerberos configuration. -/
def krb5ConfPath : String := "/kubedoop/kerberos/krb5.conf"

/-- The command that reads the realm. -/
def exportKrbRealmFromConfig (krb5ConfPath : String) : String :=
  "export KERBEROS_REALM=$(grep -oP 'default_realm = \\K.*' " ++ krb5ConfPath ++ ")\n"

/-- The service part of a principal. -/
def getKerberosServiceName : Role → String
  | .nameNode => "nn"
  | .dataNode => "dn"
  | .journalNode => "jn"

/-- The principal of a role. -/
def createKerberosPrincipal (instanceName ns : String) (r : Role) : String :=
  getKerberosServiceName r ++ "/" ++
    (instanceName ++ "." ++ ns ++ ".svc.cluster.local@$\x7bKERBEROS_REALM\x7d")

/-- The commands that get a ticket. -/
def getKerberosTicket (principal keytabLocation : String) : String :=
  "\necho \"Getting ticket for " ++ principal ++ "\" from " ++ keytabLocation ++
    "\nkinit \"" ++ principal ++ "\" -kt " ++ keytabLocation ++ "\n"

/-- The data of scripts that need the Kerberos realm. -/
def createExportKrbRealmEnvData (clusterConfig : ClusterConfigSpec) : GoMap Template.Value :=
  .ofList [("kerberosEnabled", .bool (isKerberosEnabled clusterConfig)),
    ("kerberosEnv", .text (exportKrbRealmFromConfig krb5ConfPath))]

/-- The data of scripts that get a ticket. -/
def createGetKerberosTicketData (principal : String) : GoMap Template.Value :=
  .ofList [("kinitScript", .text (getKerberosTicket principal keytabPath))]

/-- The entries of `src` are added to `dst`. -/
def mapsCopy {V : Type} (dst src : GoMap V) : GoMap V :=
  (src.range .stored).foldl (fun m e => m.insert e.1 e.2) dst

/-- The data of the init scripts that get a ticket for the principal of a role. -/
def HdfsCluster.ticketData (c : HdfsCluster) (r : Role) : GoMap Template.Value :=
  mapsCopy (createExportKrbRealmEnvData c.clusterConfig)
    (createGetKerberosTicketData (createKerberosPrincipal c.name.val c.nameSpace.val r))

/-- Renders a script; a template that cannot be rendered panics. -/
def parseTemplate (parser : Template.Parser) (tmpl : String) (data : GoMap Template.Value) :
    Go (List String) :=
  match parser tmpl fun key => data.lookup key with
  | .ok content => .ok [content]
  | .error err => .error (.panic (.raised err))

/-- The text of the script before the ids. -/
def waitScriptHead : String :=
  "mkdir -p /kubedoop/config/wait-for-namenodes\n" ++
  "cp /kubedoop/mount/config/wait-for-namenodes/*.xml /kubedoop/config/wait-for-namenodes\n" ++
  "cp /kubedoop/mount/config/wait-for-namenodes/wait-for-namenodes.log4j.properties " ++
  "/kubedoop/config/wait-for-namenodes/log4j.properties\n\n" ++
  "\x7b\x7b if .kerberosEnabled \x7d\x7d\n\x7b\x7b- .kerberosEnv \x7d\x7d\n\n" ++
  "\x7b\x7b- .kinitScript \x7d\x7d\n\x7b\x7b- end \x7d\x7d\n\n" ++
  "echo \"Waiting for namenodes to get ready:\"\nn=0\nwhile [ $\x7bn\x7d -lt 12 ];\ndo\n" ++
  "    ALL_NODES_READY=true\n    for namenode_id in "

/-- The text of the script after the ids. -/
def waitScriptTail : String :=
  ";\n    do\n        echo -n \"Checking pod $namenode_id... \"\n" ++
  "        SERVICE_STATE=$(/kubedoop/hadoop/bin/hdfs haadmin -getServiceState $namenode_id " ++
  "| tail -n1 || true)\n" ++
  "        if [ \"$SERVICE_STATE\" = \"active\" ] || " ++
  "[ \"$SERVICE_STATE\" = \"standby\" ]; then\n" ++
  "            echo \"$SERVICE_STATE\"\n        else\n            echo \"not ready\"\n" ++
  "            ALL_NODES_READY=false\n        fi\n    done\n" ++
  "    if [ \"$ALL_NODES_READY\" == \"true\" ]; then\n" ++
  "        echo \"All namenodes ready!\"\n        break\n    fi\n    echo \"\"\n" ++
  "    n=$((n + 1))\n    sleep 5\ndone\n"

/-- The arguments of the container: the script, with the ids in its loop. -/
def getArgs (parser : Template.Parser) (c : HdfsCluster) (o : RangeOrder) : Go (List String) := do
  let ids ← nameNodeIds c o
  parseTemplate parser (waitScriptHead ++ ids ++ waitScriptTail) (c.ticketData .dataNode)

end HdfsOperator
