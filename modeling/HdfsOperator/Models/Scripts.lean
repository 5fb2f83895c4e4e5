import HdfsOperator.Core.Directories
import HdfsOperator.Models.StatefulSets

/-!
# The scripts of containers

Every Hadoop container starts with a script. It first copies configuration files from the mounted
ConfigMap to a directory of its own. When Kerberos is on it then exports the realm, and two of
the init scripts get a ticket as well; this part is a block of a template. What the operator
framework supplies for the scripts of the servers is a parameter, and so is its parser.
-/

namespace HdfsOperator

open Directories (Command)

/-- The components that containers are built for. -/
inductive ContainerComponent
  | nameNode
  | zkfc
  | formatNameNode
  | formatZookeeper
  | dataNode
  | waitForNameNodes
  | journalNode
  | oidc
  deriving DecidableEq, Repr

/-- The name of the container of a component. -/
def ContainerComponent.getContainerName : ContainerComponent → String
  | .nameNode => nameNodeContainer
  | .zkfc => zkfcContainer
  | .formatNameNode => formatNameNodeContainer
  | .formatZookeeper => formatZookeeperContainer
  | .dataNode => dataNodeContainer
  | .waitForNameNodes => waitForNameNodesContainer
  | .journalNode => journalNodeContainer
  | .oidc => oidcContainer

/-- Where the ConfigMap is mounted in a container. -/
def configMountDir (containerName : String) : String := "/kubedoop/mount/config/" ++ containerName

/-- The directory that the script of a container copies configuration files to. -/
def configDir (containerName : String) : String := "/kubedoop/config/" ++ containerName

/-- The first commands of the script of a container. -/
def copyConfig (containerName : String) : List Command :=
  [.mkdir (configDir containerName),
   .copyAll (configMountDir containerName) ".xml" (configDir containerName),
   .copyAs (configMountDir containerName) (createComponentLog4jPropertiesName containerName)
     (configDir containerName) "log4j.properties"]

/-- The first lines of the script of a container. -/
def copyConfigText (containerName : String) : String :=
  "\n".intercalate ((copyConfig containerName).map Command.text)

/-- The block that exports the realm. -/
def kerberosEnvBlock : String :=
  "\x7b\x7b if .kerberosEnabled \x7d\x7d\n\x7b\x7b- .kerberosEnv \x7d\x7d\n\x7b\x7b- end \x7d\x7d"

/-- The script of the failover controller after the block. -/
def zkfcBody : String := "\n\n/kubedoop/hadoop/bin/hdfs zkfc\n"

/-- The script of the failover controller. -/
def zkfcTemplate : String :=
  copyConfigText zkfcContainer ++ "\n\n" ++ kerberosEnvBlock ++ zkfcBody

/-- The second init script of NameNode pods after the block. -/
def formatZookeeperBody : String :=
  "\n\necho \"Attempt to format ZooKeeper...\"\n" ++
  "if [[ \"0\" -eq \"$(echo $POD_NAME | sed -e 's/.*-//')\" ]] ; then\n" ++
  "    set +e\n    /kubedoop/hadoop/bin/hdfs zkfc -formatZK -nonInteractive\n" ++
  "    EXITCODE=$?\n    set -e\n    if [[ $EXITCODE -eq 0 ]]; then\n" ++
  "        echo \"Successfully formatted\"\n    elif [[ $EXITCODE -eq 2 ]]; then\n" ++
  "        echo \"ZNode already existed, did nothing\"\n    else\n" ++
  "        echo \"Zookeeper format failed with exit code $EXITCODE\"\n" ++
  "        exit $EXITCODE\n    fi\n\nelse\n    echo \"ZooKeeper already formatted!\"\nfi\n"

/-- The second init script of NameNode pods. -/
def formatZookeeperTemplate : String :=
  copyConfigText formatZookeeperContainer ++ "\n\n" ++ kerberosEnvBlock ++ formatZookeeperBody

/-- The block of the first init script of NameNode pods. -/
def formatNameNodeBlock : String :=
  "\x7b\x7b if .kerberosEnabled \x7d\x7d\n\x7b\x7b- .kerberosEnv \x7d\x7d\n\n" ++
  "\x7b\x7b- .kinitScript \x7d\x7d\n\n\x7b\x7b- end \x7d\x7d"

/-- The text of the first init script of NameNode pods after the ids. -/
def formatNameNodeTail : String :=
  "\ndo\n    echo -n \"Checking pod $namenode_id... \"\n" ++
  "    SERVICE_STATE=$(/kubedoop/hadoop/bin/hdfs haadmin -getServiceState $namenode_id " ++
  "| tail -n1 || true)\n    if [ \"$SERVICE_STATE\" == \"active\" ]\n    then\n" ++
  "        ACTIVE_NAMENODE=$namenode_id\n        echo \"active\"\n        break\n    fi\n" ++
  "    echo \"\"\ndone\n\nif [ ! -f \"/kubedoop/data/namenode/current/VERSION\" ]\nthen\n" ++
  "    if [ -z $\x7bACTIVE_NAMENODE+x\x7d ]\n    then\n" ++
  "        echo \"Create pod $POD_NAME as active namenode.\"\n" ++
  "        /kubedoop/hadoop/bin/hdfs namenode -format -noninteractive\n    else\n" ++
  "        echo \"Create pod $POD_NAME as standby namenode.\"\n" ++
  "        /kubedoop/hadoop/bin/hdfs namenode -bootstrapStandby -nonInteractive\n    fi\nelse\n" ++
  "    cat \"/kubedoop/data/namenode/current/VERSION\"\n" ++
  "    echo \"Pod $POD_NAME already formatted. Skipping...\"\nfi\n"

/-- The first init script of NameNode pods after the block, with the ids in its loop. -/
def formatNameNodeBody (namenodeIds : String) : String :=
  "\n\n\necho \"Start formatting namenode $POD_NAME. Checking for active namenodes:\"\n" ++
  "for namenode_id in " ++ namenodeIds ++ formatNameNodeTail

/-- The first init script of NameNode pods. -/
def formatNameNodeTemplate (namenodeIds : String) : String :=
  copyConfigText formatNameNodeContainer ++ "\n\n" ++ formatNameNodeBlock ++
    formatNameNodeBody namenodeIds

/-- What the operator framework supplies for the scripts of servers. -/
structure BashTexts where
  commonBashTrapFunctions : String
  removeVectorShutdownFileCommand : String
  invokePrepareSignalHandlers : String
  exportPodAddress : String
  invokeWaitForTermination : String
  createVectorShutdownFileCommand : String

/-- The lines of the script of a server after the Kerberos part. -/
def BashTexts.serverLines (bash : BashTexts) (serverName : String) : List String :=
  [bash.commonBashTrapFunctions, bash.removeVectorShutdownFileCommand,
   bash.invokePrepareSignalHandlers, bash.exportPodAddress,
   "/kubedoop/hadoop/bin/hdfs " ++ serverName ++ " &",
   bash.invokeWaitForTermination, bash.createVectorShutdownFileCommand]

/-- The block that exports the realm in the scripts of servers. -/
def serverKerberosBlock : String :=
  "\x7b\x7b if .kerberosEnabled\x7d\x7d\n\x7b\x7b- .kerberosEnv\x7d\x7d\n\x7b\x7b- end\x7d\x7d"

/-- The script of a server. Its container has the name of the server; the block is left out when
Kerberos is off. -/
def serverTemplate (bash : BashTexts) (clusterConfig : ClusterConfigSpec) (serverName : String) :
    String :=
  "\n".intercalate ([copyConfigText serverName] ++
    (if isKerberosEnabled clusterConfig then [serverKerberosBlock] else []) ++
    bash.serverLines serverName)

/-- The arguments of the container of each component. -/
def ContainerComponent.getArgs (parser : Template.Parser) (bash : BashTexts)
    (b : StatefulSetBuilder) (o : RangeOrder) : ContainerComponent → Go (List String)
  | .nameNode =>
    parseTemplate parser (serverTemplate bash b.instance'.clusterConfig nameNodeContainer)
      (createExportKrbRealmEnvData b.instance'.clusterConfig)
  | .dataNode =>
    parseTemplate parser (serverTemplate bash b.instance'.clusterConfig dataNodeContainer)
      (createExportKrbRealmEnvData b.instance'.clusterConfig)
  | .journalNode =>
    parseTemplate parser (serverTemplate bash b.instance'.clusterConfig journalNodeContainer)
      (createExportKrbRealmEnvData b.instance'.clusterConfig)
  | .zkfc =>
    parseTemplate parser zkfcTemplate (createExportKrbRealmEnvData b.instance'.clusterConfig)
  | .formatZookeeper =>
    parseTemplate parser formatZookeeperTemplate
      (createExportKrbRealmEnvData b.instance'.clusterConfig)
  | .formatNameNode => do
    let nameNodeReplicates ← deref b.replicas
    let podNames ← createPodNamesByReplicas nameNodeReplicates
      (b.roleGroupInfo .nameNode).getFullName
    parseTemplate parser (formatNameNodeTemplate (" ".intercalate podNames))
      (b.instance'.ticketData .nameNode)
  | .waitForNameNodes => HdfsOperator.getArgs parser b.instance' o
  | .oidc => .ok ["/kubedoop/oauth2-proxy/oauth2-proxy --upstream=$\x7bUPSTREAM\x7d"]

end HdfsOperator
