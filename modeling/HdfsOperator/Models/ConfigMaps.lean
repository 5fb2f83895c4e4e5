import HdfsOperator.Models.SiteGenerator

/-!
# The ConfigMaps of role groups

Each role supplies the files of its ConfigMap; the common builder adds them, then the
overrides of the specification, then the configuration of the log agent. What the library
functions of the operator framework return is a parameter.
-/

namespace HdfsOperator

/-- The file names of the configuration files. -/
def coreSiteFileName : String := "core-site.xml"
@[inherit_doc coreSiteFileName] def hdfsSiteFileName : String := "hdfs-site.xml"
@[inherit_doc coreSiteFileName] def hadoopPolicyFileName : String := "hadoop-policy.xml"
@[inherit_doc coreSiteFileName] def securityFileName : String := "security.properties"
@[inherit_doc coreSiteFileName] def sslClientFileName : String := "ssl-client.xml"
@[inherit_doc coreSiteFileName] def sslServerFileName : String := "ssl-server.xml"
@[inherit_doc coreSiteFileName] def vectorConfigFileName : String := "vector.yaml"

/-- The content of `hadoop-policy.xml`. -/
def makeHadoopPolicyData : String := emptyXmlConfig

/-- The content of `security.properties`. -/
def makeSecurityPropertiesData : String :=
  "networkaddress.cache.negative.ttl=0\nnetworkaddress.cache.ttl=30"

/-- What the operator framework does for the builders. -/
structure Framework where
  /-- The text of a configuration document with the entries of a map. -/
  marshal : GoMap String → Except String String
  /-- The configuration of the log agent of a role group. -/
  makeVectorYaml : RoleGroupInfo → String → Except String String

/-- A framework that never fails: documents list the entries of a map as they are stored. -/
def plainFramework : Framework where
  marshal entries := .ok (encode (mapProperties entries .stored))
  makeVectorYaml info aggregator := .ok ("sinks:\n  vector:\n    address: " ++ aggregator ++
    "\n    inputs: [" ++ info.getFullName ++ "]\n")

/-- A document that the framework writes; a failure panics. -/
def mustMarshal (fw : Framework) (entries : GoMap String) : Go String :=
  match fw.marshal entries with
  | .ok text => .ok text
  | .error err => .error (.panic (.raised err))

/-- The document with the given entries when TLS is on, and the empty document otherwise. -/
def makeSslData (fw : Framework) (clusterSpec : ClusterConfigSpec)
    (entries : TlsSpec → List (String × String)) : Go String :=
  if isTlsEnabled clusterSpec then do
    let authentication ← deref clusterSpec.authentication
    let tls ← deref authentication.tls
    mustMarshal fw (.ofList (entries tls))
  else return emptyXmlConfig

/-- The content of `ssl-client.xml`. -/
def makeSslClientData (fw : Framework) (clusterSpec : ClusterConfigSpec) : Go String :=
  makeSslData fw clusterSpec fun tls =>
    [("ssl.client.truststore.location", "/kubedoop/tls/truststore.p12"),
     ("ssl.client.truststore.type", "pkcs12"),
     ("ssl.client.truststore.password", tls.jksPassword)]

/-- The content of `ssl-server.xml`. -/
def makeSslServerData (fw : Framework) (clusterSpec : ClusterConfigSpec) : Go String :=
  makeSslData fw clusterSpec fun tls =>
    [("ssl.server.truststore.location", "/kubedoop/tls/truststore.p12"),
     ("ssl.server.truststore.type", "pkcs12"),
     ("ssl.server.truststore.password", tls.jksPassword),
     ("ssl.server.keystore.location", "/kubedoop/tls/keystore.p12"),
     ("ssl.server.keystore.type", "pkcs12"),
     ("ssl.server.keystore.password", tls.jksPassword)]

/-- The common part of the log settings. -/
def log4jProperties : String :=
  "log4j.rootLogger=INFO, CONSOLE, FILE\n\n" ++
  "log4j.appender.CONSOLE=org.apache.log4j.ConsoleAppender\n" ++
  "log4j.appender.CONSOLE.Threshold=DEBUG\n" ++
  "log4j.appender.CONSOLE.layout=org.apache.log4j.PatternLayout\n" ++
  "log4j.appender.CONSOLE.layout.ConversionPattern=" ++
  "%d\x7bISO8601\x7d %-5p %c\x7b2\x7d (%F:%M(%L)) - %m%n\n\n" ++
  "log4j.appender.FILE=org.apache.log4j.RollingFileAppender\n" ++
  "log4j.appender.FILE.Threshold=INFO\n" ++
  "log4j.appender.FILE.MaxFileSize=5MB\n" ++
  "log4j.appender.FILE.MaxBackupIndex=1\n" ++
  "log4j.appender.FILE.layout=org.apache.log4j.xml.XMLLayout\n" ++
  "log4j.appender.FILE.layout.ConversionPattern=" ++
  "%d\x7bISO8601\x7d %-5p %c\x7b2\x7d (%F:%M(%L)) - %m%n\n"

/-- The log settings of a container. -/
def makeLog4jPropertiesData (containerComponent : String) : String :=
  log4jProperties ++ "\n" ++ "log4j.appender.FILE.File=" ++ "/kubedoop/log/" ++ "/" ++
    containerComponent ++ "/" ++ containerComponent ++ ".log4j.xml"

/-- The file name of the log settings of a container. -/
def createComponentLog4jPropertiesName (component : String) : String :=
  component ++ ".log4j.properties"

/-- Overrides of the specification: file name, then key, then value. -/
structure OverridesSpec where
  configOverrides : GoMap (GoMap String) := ∅

/-- What the builder of a role group is given. -/
structure RoleGroupBuilder where
  instance' : HdfsCluster
  groupName : String
  /-- The replica count of the role group itself. -/
  replicas : Option Int32
  overrides : Option OverridesSpec
  clusterComponentInfo : ClusterComponentsInfo

/-- The iteration orders of the loops that write site files. -/
structure SiteOrders where
  /-- The loop over the JournalNode groups. -/
  serviceNames : RangeOrder
  /-- The loop over the NameNode groups that adds up replicas. -/
  replicas : RangeOrder

namespace RoleGroupBuilder

/-- The content of `core-site.xml`, which all roles write alike. -/
def makeCoreSiteData (b : RoleGroupBuilder) : Go String :=
  ({ instanceName := b.instance'.name.val : CoreSiteXmlGenerator }.enableKerberos
    b.instance'.clusterConfig b.instance'.nameSpace.val).haZookeeperQuorum.generate

/-- The generator that the builders of NameNodes and JournalNodes make. -/
def siteGenerator (b : RoleGroupBuilder) (nameNodeReplicas : Int32) :
    NameNodeHdfsSiteXmlGenerator :=
  let clusterSpec := b.instance'.clusterConfig
  ((newNameNodeHdfsSiteXmlGenerator b.instance'.name.val b.groupName nameNodeReplicas
    b.instance'.nameSpace.val clusterSpec clusterSpec.clusterDomain clusterSpec.dfsReplication
    b.clusterComponentInfo).enablerKerberos clusterSpec).enableHttps

/-- The additional properties of DataNodes. -/
def dataNodeConfig : GoMap String :=
  .ofList [("dfs.datanode.data.dir", "[DISK]" ++ "/kubedoop/data/" ++ "/" ++ "data" ++ "/" ++
    Role.dataNode.text)]

/-- The generator that the builder of DataNodes makes. -/
def dataSiteGenerator (b : RoleGroupBuilder) (o : SiteOrders) : NameNodeHdfsSiteXmlGenerator :=
  let generator := newDataNodeHdfsSiteXmlGenerator b.instance' b.groupName dataNodeConfig
    b.clusterComponentInfo o.replicas
  (generator.enablerKerberos b.instance'.clusterConfig).enableHttps

/-- The replicas of the NameNode group that has the name of the builder's group. -/
def getNameNodeReplicas (b : RoleGroupBuilder) : Go Int32 := do
  let info ← deref (b.clusterComponentInfo.nameNode.lookup b.groupName)
  return info.replicas

/-- The content of `hdfs-site.xml`, for each role. -/
def makeHdfsSiteData (b : RoleGroupBuilder) (o : SiteOrders) : Role → Go String
  | .nameNode => do
    let replicas ← deref b.replicas
    let (text, _) ← (b.siteGenerator replicas).generate o.serviceNames
    return text
  | .dataNode => do
    -- The generator that arrives here is that of NameNodes: the DataNode properties are not added.
    let (text, _) ← (b.dataSiteGenerator o).generate o.serviceNames
    return text
  | .journalNode => do
    let replicas ← b.getNameNodeReplicas
    let (text, _) ← (b.siteGenerator replicas).generate o.serviceNames
    return text

/-- The containers of a role that have log settings. -/
def logComponents : Role → List String
  | .nameNode => ["namenode", "zkfc", "format-namenodes", "format-zookeeper"]
  | .dataNode => ["datanode", "wait-for-namenodes"]
  | .journalNode => ["journalnode"]

/-- The files of a role with the given documents. -/
def configFiles (r : Role) (coreSite hdfsSite sslClient sslServer : String) :
    List (String × String) :=
  [(coreSiteFileName, coreSite), (hdfsSiteFileName, hdfsSite),
    (hadoopPolicyFileName, makeHadoopPolicyData), (securityFileName, makeSecurityPropertiesData),
    (sslClientFileName, sslClient), (sslServerFileName, sslServer)] ++
    (logComponents r).map fun component =>
      (createComponentLog4jPropertiesName component, makeLog4jPropertiesData component)

/-- The files of a role group. -/
def buildConfig (fw : Framework) (b : RoleGroupBuilder) (o : SiteOrders) (r : Role) :
    Go (GoMap String) := do
  let coreSite ← b.makeCoreSiteData
  let hdfsSite ← b.makeHdfsSiteData o r
  let sslClient ← makeSslClientData fw b.instance'.clusterConfig
  let sslServer ← makeSslServerData fw b.instance'.clusterConfig
  return .ofList (configFiles r coreSite hdfsSite sslClient sslServer)

/-- The overrides that a role supplies itself: DataNodes supply none. -/
def getConfigOverrides (b : RoleGroupBuilder) : Role → Option (GoMap (GoMap String))
  | .dataNode => some ∅
  | .nameNode | .journalNode => b.overrides.map OverridesSpec.configOverrides

end RoleGroupBuilder

/-- Whether the log agent is on. -/
def isVectorEnable : Option LoggingSpec → Go Bool
  | none => .ok false
  | some roleLoggingConfig => deref roleLoggingConfig.enableVectorAgent

/-- What a role supplies to the common builder. -/
structure ConfigMapComponentBuilder where
  buildConfig : Go (GoMap String)
  getConfigOverrides : Option (GoMap (GoMap String))

/-- The common builder of ConfigMaps. -/
structure ConfigMapBuilder where
  roleGroupInfo : RoleGroupInfo
  overrides : Option OverridesSpec
  roleConfig : Option ConfigSpec
  component : ConfigMapComponentBuilder
  vectorAggregatorConfigMapName : String

/-- The iteration orders of the loops of the common builder. -/
structure BuildOrders where
  configs : RangeOrder
  overrides : RangeOrder

namespace ConfigMapBuilder

/-- The loop that adds the files of the role. -/
def addConfigs (data : GoMap String) (configs : List (String × String)) : GoMap String :=
  configs.foldl (fun data e => data.insert e.1 e.2) data

/-- The loop over the overrides: an entry replaces a file when it has the file name as a key. -/
def applyOverrides (data : GoMap String) (overrides : List (String × GoMap String)) :
    GoMap String :=
  overrides.foldl (fun data e =>
    match e.2.lookup e.1 with
    | some content => data.insert e.1 content
    | none => data) data

/-- The overrides that the role supplies: the loops over them discard every key and value. -/
def applyComponentOverrides (data : GoMap String) (_overrides : GoMap (GoMap String)) :
    GoMap String := data

/-- The configuration of the log agent; empty when the agent is off. -/
def buildVectorConfig (fw : Framework) (b : ConfigMapBuilder) (logging : Option LoggingSpec) :
    Go String :=
  match logging.bind LoggingSpec.enableVectorAgent with
  | none => .ok ""
  | some enabled =>
    if b.vectorAggregatorConfigMapName = "" then
      .error (.error "vector is enabled but vectorAggregatorConfigMapName is not set")
    else if enabled then
      match fw.makeVectorYaml b.roleGroupInfo b.vectorAggregatorConfigMapName with
      | .ok s => .ok s
      | .error err => .error (.error err)
    else .ok ""

/-- The files after the overrides have been applied. -/
def overridden (b : ConfigMapBuilder) (o : BuildOrders) : Go (GoMap String) := do
  let configs ← b.component.buildConfig
  let data := addConfigs ∅ (configs.range o.configs)
  let data :=
    match b.overrides with
    | some overrides => applyOverrides data (overrides.configOverrides.range o.overrides)
    | none => data
  match b.component.getConfigOverrides with
  | some componentOverrides => return applyComponentOverrides data componentOverrides
  | none => return data

/-- The step that adds the configuration of the log agent. -/
def addVectorConfig (fw : Framework) (b : ConfigMapBuilder) (data : GoMap String) :
    Go (GoMap String) :=
  match b.roleConfig with
  | none => return data
  | some roleConfig => do
    let spec ← deref roleConfig.roleGroupConfigSpec
    let isEnabled ← isVectorEnable spec.logging
    if isEnabled then do
      let vectorConfig ← b.buildVectorConfig fw spec.logging
      return if vectorConfig ≠ "" then data.insert vectorConfigFileName vectorConfig else data
    else return data

/-- The data of the ConfigMap. -/
def build (fw : Framework) (b : ConfigMapBuilder) (o : BuildOrders) : Go (GoMap String) := do
  let data ← b.overridden o
  b.addVectorConfig fw data

end ConfigMapBuilder

/-- The builder of the ConfigMap of a role group. -/
def newConfigMapBuilder (fw : Framework) (b : RoleGroupBuilder) (o : SiteOrders) (r : Role)
    (configSpec : Option ConfigSpec) : ConfigMapBuilder where
  roleGroupInfo := ⟨b.instance'.name.val, r.text, b.groupName⟩
  overrides := b.overrides
  roleConfig := configSpec
  component := ⟨b.buildConfig fw o r, b.getConfigOverrides r⟩
  vectorAggregatorConfigMapName := b.instance'.clusterConfig.vectorAggregatorConfigMapName

/-- The iteration orders of one run over a cluster. -/
structure RunOrders where
  /-- The loops that fill the registry. -/
  populate : Role → RangeOrder
  /-- The loops that write site files. -/
  site : SiteOrders

/-- The order in which every loop visits the keys as they are stored. -/
def RunOrders.stored : RunOrders :=
  ⟨fun _ => RangeOrder.stored, ⟨RangeOrder.stored, RangeOrder.stored⟩⟩

namespace HdfsCluster

/-- The builder of the role group `g` of the role `r`. -/
def builder (c : HdfsCluster) (info : ClusterComponentsInfo) (r : Role) (g : String)
    (overrides : Option OverridesSpec) : RoleGroupBuilder where
  instance' := c
  groupName := g
  replicas := ((c.groups r).lookup g).bind RoleGroupSpec.replicas
  overrides := overrides
  clusterComponentInfo := info

/-- The `hdfs-site.xml` of the role group `g` of the role `r`, in a run over the cluster. -/
def hdfsSite (c : HdfsCluster) (o : RunOrders) (r : Role) (g : String) : Go String := do
  let info ← clusterComponents c o.populate
  (c.builder info r g none).makeHdfsSiteData o.site r

/-- The files of the role group `g` of the role `r`, in a run over the cluster. -/
def buildConfig (c : HdfsCluster) (fw : Framework) (o : RunOrders) (r : Role) (g : String)
    (overrides : Option OverridesSpec) : Go (GoMap String) := do
  let info ← clusterComponents c o.populate
  (c.builder info r g overrides).buildConfig fw o.site r

/-- The data of the ConfigMap of the role group `g` of the role `r`, in a run over the cluster. -/
def configMap (c : HdfsCluster) (fw : Framework) (o : RunOrders) (r : Role) (g : String)
    (overrides : Option OverridesSpec) (configSpec : Option ConfigSpec) (d : BuildOrders) :
    Go (GoMap String) := do
  let info ← clusterComponents c o.populate
  (newConfigMapBuilder fw (c.builder info r g overrides) o.site r configSpec).build fw d

end HdfsCluster

end HdfsOperator
