import HdfsOperator.Models.Components
import HdfsOperator.Models.PropertyMerge
import HdfsOperator.Models.Replicas
import HdfsOperator.Models.Security

/-!
# Generators of site files

The generators of `core-site.xml` and `hdfs-site.xml`. The `hdfs-site.xml` of every role
comes from one generator, which looks its own group name up among the NameNode groups and
merges its properties into a fixed template.
-/

namespace HdfsOperator

/-- The document that `core-site.xml` starts from. -/
def coreSiteTemplate (instanceName : String) : String :=
  templateDocument [⟨"fs.defaultFS", "hdfs://" ++ instanceName ++ "/"⟩]

/-- The document without properties. -/
def emptyXmlConfig : String := templateDocument []

/-- The generator of `core-site.xml`. -/
structure CoreSiteXmlGenerator where
  instanceName : String
  isDiscovery : Bool := false
  properties : List XmlNameValuePair := []

namespace CoreSiteXmlGenerator

/-- The text of `core-site.xml`. -/
def generate (c : CoreSiteXmlGenerator) : Go String :=
  if c.properties ≠ [] then append unmarshal (coreSiteTemplate c.instanceName) c.properties
  else .ok (coreSiteTemplate c.instanceName)

/-- Adds the address of the coordination service. -/
def haZookeeperQuorum (c : CoreSiteXmlGenerator) : CoreSiteXmlGenerator :=
  { c with properties := c.properties ++ [⟨"ha.zookeeper.quorum", "$\x7benv.ZOOKEEPER\x7d"⟩] }

/-- Adds the Kerberos properties of a server or a client. -/
def enableKerberos (c : CoreSiteXmlGenerator) (clusterConfig : ClusterConfigSpec) (ns : String) :
    CoreSiteXmlGenerator :=
  if isKerberosEnabled clusterConfig then
    if c.isDiscovery then
      { c with properties := c.properties ++ securityDiscoveryCoreSiteXml c.instanceName ns }
    else { c with properties := c.properties ++ securityCoreSiteXml c.instanceName ns }
  else c

end CoreSiteXmlGenerator

/-- The properties of the document that `hdfs-site.xml` starts from. -/
def siteTemplateProperties : List XmlNameValuePair :=
  [⟨"dfs.datanode.registered.hostname", "$\x7benv.POD_ADDRESS\x7d"⟩,
   ⟨"dfs.datanode.registered.ipc.port", "$\x7benv.IPC_PORT\x7d"⟩,
   ⟨"dfs.datanode.registered.port", "$\x7benv.DATA_PORT\x7d"⟩,
   ⟨"dfs.ha.automatic-failover.enabled", "true"⟩,
   ⟨"dfs.ha.fencing.methods", "shell(/bin/true)"⟩,
   ⟨"dfs.ha.namenode.id", "$\x7benv.POD_NAME\x7d"⟩,
   ⟨"dfs.namenode.datanode.registration.unsafe.allow-address-override", "true"⟩]

/-- The document that `hdfs-site.xml` starts from. -/
def hdfsSiteTemplate : String := templateDocument siteTemplateProperties ++ "\n"

/-- The data directory of NameNodes. -/
def nameNodeRootDataDir : String := "/kubedoop/data/namenode"

/-- The data directory of JournalNodes. -/
def journalNodeRootDataDir : String := "/kubedoop/data/journalnode"

/-- The http port of NameNodes. -/
def nameNodeHttpPort : Nat := 9870

/-- The https port of NameNodes. -/
def nameNodeHttpsPort : Nat := 9871

/-- The RPC port of NameNodes. -/
def nameNodeRpcPort : Nat := 8020

/-- The domain and the key template of the http or https addresses. -/
def dfsNameNodeHttpAddressHa (clusterSpec : ClusterConfigSpec)
    (instanceName statefulsetName svcName nameSpace : String) : String × String :=
  if isTlsEnabled clusterSpec then
    (createDnsDomain svcName nameSpace clusterSpec.clusterDomain nameNodeHttpsPort,
      "dfs.namenode.https-address." ++ instanceName ++ "." ++ statefulsetName ++ "-%d")
  else
    (createDnsDomain svcName nameSpace clusterSpec.clusterDomain nameNodeHttpPort,
      "dfs.namenode.http-address." ++ instanceName ++ "." ++ statefulsetName ++ "-%d")

/-- The generator of `hdfs-site.xml`. -/
structure NameNodeHdfsSiteXmlGenerator where
  nameNodeReplicas : Int32
  instanceName : String
  groupName : String
  nameSpace : String
  clusterDomain : String
  hdfsReplication : Int32
  clusterConfig : ClusterConfigSpec
  clusterComponentInfo : ClusterComponentsInfo
  properties : List XmlNameValuePair := []

/-- A new generator, which has no properties yet. -/
def newNameNodeHdfsSiteXmlGenerator (instanceName groupName : String) (nameNodeReplicas : Int32)
    (nameSpace : String) (clusterConfig : ClusterConfigSpec) (clusterDomain : String)
    (hdfsReplication : Int32) (clusterComponentInfo : ClusterComponentsInfo) :
    NameNodeHdfsSiteXmlGenerator :=
  { nameNodeReplicas, instanceName, groupName, nameSpace, clusterDomain, hdfsReplication,
    clusterConfig, clusterComponentInfo }

namespace NameNodeHdfsSiteXmlGenerator

/-- Adds the Kerberos properties. -/
def enablerKerberos (c : NameNodeHdfsSiteXmlGenerator) (clusterConfig : ClusterConfigSpec) :
    NameNodeHdfsSiteXmlGenerator :=
  if isKerberosEnabled clusterConfig then
    { c with properties := c.properties ++ securityHdfsSiteXml }
  else c

/-- Adds the port property. -/
def enableHttps (c : NameNodeHdfsSiteXmlGenerator) : NameNodeHdfsSiteXmlGenerator :=
  { c with properties := c.properties ++ tlsHdfsSiteXml c.clusterConfig }

/-- The stateful set of the NameNode group that has the generator's group name. -/
def statefulSetName (c : NameNodeHdfsSiteXmlGenerator) : Go String := do
  let info ← deref (c.clusterComponentInfo.nameNode.lookup c.groupName)
  return info.roleGroupInfo.getFullName

/-- The name service and its failover proxy. -/
def makeServiceId (c : NameNodeHdfsSiteXmlGenerator) : List XmlNameValuePair :=
  [⟨"dfs.nameservices", c.instanceName⟩,
   ⟨"dfs.client.failover.proxy.provider." ++ c.instanceName,
     "org.apache.hadoop.hdfs.server.namenode.ha.ConfiguredFailoverProxyProvider"⟩]

/-- The number of block replicas. -/
def makeHdfsReplication (c : NameNodeHdfsSiteXmlGenerator) : XmlNameValuePair :=
  ⟨"dfs.replication", toString c.hdfsReplication.toInt⟩

/-- The address of the shared edit log. -/
def makeNamenodeSharedEditDir (c : NameNodeHdfsSiteXmlGenerator) (o : RangeOrder) :
    XmlNameValuePair :=
  ⟨"dfs.namenode.shared.edits.dir", createJournalUrl
    (c.clusterComponentInfo.getJournalNodeServicesForSharedEdits o) c.instanceName⟩

/-- The data directories. -/
def makeRoleNodeDataDir : List XmlNameValuePair :=
  [⟨"dfs.journalnode.edits.dir", journalNodeRootDataDir⟩,
   ⟨"dfs.namenode.name.dir", nameNodeRootDataDir⟩]

/-- The ids of the NameNodes. -/
def makeNameNodeHosts (c : NameNodeHdfsSiteXmlGenerator) : Go XmlNameValuePair := do
  let nameNodeStatefulSetName ← c.statefulSetName
  let pods ← createPodNamesByReplicas c.nameNodeReplicas nameNodeStatefulSetName
  return ⟨"dfs.ha.namenodes." ++ c.instanceName, ",".intercalate pods⟩

/-- The http or https addresses of the NameNodes. -/
def makeNameNodeHttp (c : NameNodeHdfsSiteXmlGenerator) : Go (List XmlNameValuePair) := do
  let statefulSetName ← c.statefulSetName
  let svc ← c.statefulSetName
  let (dnsDomain, keyTemplate) :=
    dfsNameNodeHttpAddressHa c.clusterConfig c.instanceName statefulSetName svc c.nameSpace
  let valueTemplate := statefulSetName ++ "-%d." ++ dnsDomain
  createXmlContentByReplicas c.nameNodeReplicas keyTemplate valueTemplate

/-- The RPC addresses of the NameNodes. -/
def makeNameNodeRpc (c : NameNodeHdfsSiteXmlGenerator) : Go (List XmlNameValuePair) := do
  let statefulSetName ← c.statefulSetName
  let svc ← c.statefulSetName
  let dnsDomain := createDnsDomain svc c.nameSpace c.clusterDomain nameNodeRpcPort
  let keyTemplate :=
    "dfs.namenode.rpc-address." ++ c.instanceName ++ "." ++ statefulSetName ++ "-%d"
  let valueTemplate := statefulSetName ++ "-%d." ++ dnsDomain
  createXmlContentByReplicas c.nameNodeReplicas keyTemplate valueTemplate

/-- The name directories of the NameNodes. -/
def makeNameNodeNameDir (c : NameNodeHdfsSiteXmlGenerator) : Go (List XmlNameValuePair) := do
  let statefulSetName ← c.statefulSetName
  let keyTemplate := "dfs.namenode.name.dir." ++ c.instanceName ++ "." ++ statefulSetName ++ "-%d"
  createXmlContentByReplicas c.nameNodeReplicas keyTemplate nameNodeRootDataDir

/-- The generator after all properties have been collected. The order is that of the loop over
the JournalNode groups. -/
def collect (c : NameNodeHdfsSiteXmlGenerator) (o : RangeOrder) :
    Go NameNodeHdfsSiteXmlGenerator := do
  let hosts ← c.makeNameNodeHosts
  let http ← c.makeNameNodeHttp
  let rpc ← c.makeNameNodeRpc
  let nameDir ← c.makeNameNodeNameDir
  return { c with
    properties := c.properties ++ (c.makeServiceId ++ [c.makeHdfsReplication, hosts]) ++
      (http ++ rpc ++ nameDir) ++ (c.makeNamenodeSharedEditDir o :: makeRoleNodeDataDir) }

/-- The text of `hdfs-site.xml`, and the generator, which keeps the properties it collected. -/
def generate (c : NameNodeHdfsSiteXmlGenerator) (o : RangeOrder) :
    Go (String × NameNodeHdfsSiteXmlGenerator) := do
  let c ← c.collect o
  let text ← append unmarshal hdfsSiteTemplate c.properties
  return (text, c)

end NameNodeHdfsSiteXmlGenerator

/-- The generator of the `hdfs-site.xml` of DataNodes. -/
structure DataNodeHdfsSiteXmlGenerator extends NameNodeHdfsSiteXmlGenerator where
  dataNodeConfig : GoMap String

/-- A new generator for DataNodes, with the replicas of the NameNode group of the same name. -/
def newDataNodeHdfsSiteXmlGenerator (instance' : HdfsCluster) (groupName : String)
    (dataNodeConfig : GoMap String) (clusterComponentInfo : ClusterComponentsInfo)
    (o : RangeOrder) : DataNodeHdfsSiteXmlGenerator :=
  { toNameNodeHdfsSiteXmlGenerator := newNameNodeHdfsSiteXmlGenerator instance'.name.val groupName
      (clusterComponentInfo.getNameNodeReplicas groupName o) instance'.nameSpace.val
      instance'.clusterConfig instance'.clusterConfig.clusterDomain
      instance'.clusterConfig.dfsReplication clusterComponentInfo
    dataNodeConfig }

/-- The text with the DataNode properties added. The builder of DataNodes does not come here:
it chains `enablerKerberos`, which hands on the generator of NameNodes. -/
def DataNodeHdfsSiteXmlGenerator.generate (c : DataNodeHdfsSiteXmlGenerator)
    (o config : RangeOrder) : Go String := do
  let (nameNodeSiteXml, _) ← c.toNameNodeHdfsSiteXmlGenerator.generate o
  appendXmlContent unmarshal nameNodeSiteXml c.dataNodeConfig config

end HdfsOperator
