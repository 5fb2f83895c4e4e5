import HdfsOperator.Models.Scripts

/-!
# The containers of pods

What a component supplies for its container besides the script: environment variables, volume
mounts, ports and probes. The services of a role group list ports of their own. The variables of
the OIDC proxy are a parameter.
-/

namespace HdfsOperator

/-- Where the Kerberos secret is mounted. -/
def securityVolumeMounts : List VolumeMount := [⟨"kerberos", "/kubedoop/kerberos/"⟩]

/-- Where the server certificate is mounted. -/
def tlsVolumeMounts : List VolumeMount := [⟨"tls", "/kubedoop/tls/"⟩]

/-- The mounts that all Hadoop containers share. -/
def getCommonVolumeMounts (clusterConfig : ClusterConfigSpec) : List VolumeMount :=
  [⟨"log", "/kubedoop/log/"⟩] ++
    (if isKerberosEnabled clusterConfig then securityVolumeMounts else []) ++
    (if isTlsEnabled clusterConfig then tlsVolumeMounts else [])

namespace ContainerComponent

/-- The volume with the configuration files of a container. -/
def configVolumeName : ContainerComponent → String
  | .nameNode | .zkfc | .dataNode | .journalNode | .oidc => "hdfs-config"
  | .formatNameNode => "format-namenodes-config"
  | .formatZookeeper => "format-zookeeper-config"
  | .waitForNameNodes => "wait-for-namenodes-config"

/-- The volume with the log settings of a container. -/
def logVolumeName : ContainerComponent → String
  | .nameNode | .zkfc | .dataNode | .journalNode | .oidc => "hdfs-log-config"
  | .formatNameNode => "format-namenodes-log-config"
  | .formatZookeeper => "format-zookeeper-log-config"
  | .waitForNameNodes => "wait-for-namenodes-log-config"

/-- The mounts of a container for data and for the listener. -/
def dataVolumeMounts : ContainerComponent → List VolumeMount
  | .nameNode => [⟨"listener", "/kubedoop/listener/"⟩, ⟨"data", "/kubedoop/data/"⟩]
  | .dataNode => [⟨"listener", "/kubedoop/listener/"⟩, ⟨"data", "/kubedoop/data/data"⟩]
  | .journalNode | .formatNameNode => [⟨"data", "/kubedoop/data/"⟩]
  | .zkfc | .formatZookeeper | .waitForNameNodes | .oidc => []

/-- The mounts of a container. They replace those that every container starts with, and the OIDC
proxy has none. -/
def getVolumeMounts (clusterConfig : ClusterConfigSpec) (k : ContainerComponent) :
    List VolumeMount :=
  if k = .oidc then []
  else getCommonVolumeMounts clusterConfig ++
    [⟨k.configVolumeName, configMountDir k.getContainerName⟩,
     ⟨k.logVolumeName, "/kubedoop/mount/log/" ++ k.getContainerName⟩] ++ k.dataVolumeMounts

end ContainerComponent

/-- A port of a container or of a service. -/
structure ContainerPort where
  name : String
  containerPort : Nat
  deriving DecidableEq

/-- The port of the web interface. -/
def httpPort (clusterConfig : ClusterConfigSpec) (httpsPort httpPort : Nat) : ContainerPort :=
  if isTlsEnabled clusterConfig then ⟨"https", httpsPort⟩ else ⟨"http", httpPort⟩

/-- The ports of the metrics exporters. -/
def getMetricsPort : Role → Nat
  | .nameNode => 8183
  | .dataNode => 8082
  | .journalNode => 8081

/-- The ports at which Hadoop itself publishes metrics. -/
def getNativeMetricsPort (clusterConfig : ClusterConfigSpec) : Role → Nat
  | .nameNode => if isTlsEnabled clusterConfig then 9871 else 9870
  | .dataNode => if isTlsEnabled clusterConfig then 9865 else 9864
  | .journalNode => if isTlsEnabled clusterConfig then 8481 else 8480

/-- The ports of the container of a component. -/
def ContainerComponent.getPorts (clusterConfig : ClusterConfigSpec) :
    ContainerComponent → List ContainerPort
  | .nameNode => [⟨"rpc", nameNodeRpcPort⟩, ⟨"metric", getMetricsPort .nameNode⟩,
      httpPort clusterConfig nameNodeHttpsPort nameNodeHttpPort]
  | .journalNode => [⟨"rpc", 8485⟩, ⟨"metric", getMetricsPort .journalNode⟩,
      httpPort clusterConfig 8481 8480]
  | .dataNode => [⟨"metric", getMetricsPort .dataNode⟩, ⟨"data", 9866⟩, ⟨"ipc", 9867⟩,
      httpPort clusterConfig 9865 9864]
  | .oidc => [⟨"oidc", 4180⟩]
  | .zkfc | .formatNameNode | .formatZookeeper | .waitForNameNodes => []

/-- The ports of the service of a role group. The list of DataNodes does not look at TLS. -/
def getServicePorts (clusterConfig : ClusterConfigSpec) : Role → List ContainerPort
  | .nameNode => [⟨"rpc", nameNodeRpcPort⟩, ⟨"metric", getMetricsPort .nameNode⟩, ⟨"oidc", 4180⟩,
      httpPort clusterConfig nameNodeHttpsPort nameNodeHttpPort]
  | .dataNode => [⟨"data", 9866⟩, ⟨"http", 9864⟩, ⟨"ipc", 9867⟩]
  | .journalNode => [⟨"rpc", 8485⟩, ⟨"metric", getMetricsPort .journalNode⟩, ⟨"oidc", 4180⟩,
      httpPort clusterConfig 8481 8480]

/-- The ports of the metrics service of a role group. -/
def metricsServicePorts (clusterConfig : ClusterConfigSpec) (r : Role) : List ContainerPort :=
  [⟨"metric", getNativeMetricsPort clusterConfig r⟩]

/-- The schemes of web requests. -/
inductive URIScheme
  | http
  | https
  deriving DecidableEq, Repr

/-- What a probe does, at a port with the given name. -/
inductive ProbeHandler
  | httpGet (path port : String) (scheme : URIScheme)
  | tcpSocket (port : String)
  deriving DecidableEq

/-- The port of a probe. -/
def ProbeHandler.port : ProbeHandler → String
  | .httpGet _ port _ => port
  | .tcpSocket port => port

/-- A probe of a container. -/
structure Probe where
  handler : ProbeHandler
  failureThreshold : Nat
  initialDelaySeconds : Nat := 10
  periodSeconds : Nat := 10
  successThreshold : Nat := 1
  timeoutSeconds : Nat := 1
  deriving DecidableEq

/-- A web request to the container. -/
def tlsHttpGetAction (clusterConfig : ClusterConfigSpec) (probePath : String) : ProbeHandler :=
  if isTlsEnabled clusterConfig then .httpGet probePath "https" .https
  else .httpGet probePath "http" .http

namespace ContainerComponent

/-- The probe after which a container is started anew. -/
def getLivenessProbe (clusterConfig : ClusterConfigSpec) : ContainerComponent → Option Probe
  | .nameNode => some
      { handler := tlsHttpGetAction clusterConfig "dfshealth.html", failureThreshold := 5 }
  | .dataNode => some
      { handler := tlsHttpGetAction clusterConfig "/datanode.html", failureThreshold := 5 }
  | .journalNode => some
      { handler := tlsHttpGetAction clusterConfig "/journalnode.html", failureThreshold := 5 }
  | _ => none

/-- The probe on which the container is ready. -/
def getReadinessProbe : ContainerComponent → Option Probe
  | .nameNode | .journalNode => some { handler := .tcpSocket "rpc", failureThreshold := 3 }
  | .dataNode => some { handler := .tcpSocket "ipc", failureThreshold := 3 }
  | _ => none

end ContainerComponent

/-- Where the value of a variable comes from. -/
inductive EnvVarSource
  | value (text : String)
  | fieldRef (fieldPath : String)
  | configMapKeyRef (name key : String)
  | secretKeyRef (name key : String)
  deriving DecidableEq

/-- An environment variable. -/
structure EnvVar where
  name : String
  source : EnvVarSource
  deriving DecidableEq

/-- The option that names the Kerberos configuration. -/
def krb5ConfOption : String := "-Djava.security.krb5.conf=" ++ krb5ConfPath

/-- The variables of containers that use Kerberos. -/
def securityEnvs : List EnvVar :=
  [⟨"HADOOP_OPTS", .value krb5ConfOption⟩, ⟨"KRB5_CONFIG", .value krb5ConfPath⟩,
   ⟨"KRB5_CLIENT_KTNAME", .value keytabPath⟩]

namespace ContainerComponent

/-- The variable with the options of a server. -/
def getEnvName : ContainerComponent → Option String
  | .nameNode => some "HDFS_NAMENODE_OPTS"
  | .dataNode => some "HDFS_DATANODE_OPTS"
  | .journalNode => some "HDFS_JOURNALNODE_OPTS"
  | _ => none

/-- The option that names the security properties of a container. -/
def securityPropertiesOption (k : ContainerComponent) : String :=
  "-Djava.security.properties=" ++ configDir k.getContainerName ++ "/" ++ securityFileName

/-- The option that starts the metrics exporter of a role. -/
def javaAgentOption (r : Role) : String :=
  "-javaagent:/kubedoop/jmx/jmx_prometheus_javaagent.jar=" ++ toString (getMetricsPort r) ++
    ":/kubedoop/jmx/" ++ r.text ++ ".yaml"

/-- The options of a server; `role` is the role whose metrics it publishes. -/
def jvmArgs (clusterConfig : ClusterConfigSpec) (role : Option Role) (k : ContainerComponent) :
    List String :=
  (if isKerberosEnabled clusterConfig then [krb5ConfOption] else []) ++
    ["-Xmx419430k"] ++ role.toList.map javaAgentOption ++ [k.securityPropertiesOption]

/-- The variables of a Hadoop container. -/
def getCommonContainerEnv (clusterConfig : ClusterConfigSpec) (zookeeperConfigMapName : String)
    (role : Option Role) (k : ContainerComponent) : List EnvVar :=
  [⟨"HADOOP_CONF_DIR", .value (configDir k.getContainerName)⟩,
   ⟨"HADOOP_HOME", .value "/kubedoop//hadoop"⟩,
   ⟨"POD_NAME", .fieldRef "metadata.name"⟩,
   ⟨"ZOOKEEPER", .configMapKeyRef zookeeperConfigMapName "ZOOKEEPER"⟩] ++
    (if isKerberosEnabled clusterConfig then securityEnvs else []) ++
    k.getEnvName.toList.map fun envName =>
      ⟨envName, .value (" ".intercalate (k.jvmArgs clusterConfig role))⟩

/-- The role whose server runs in the container. -/
def serverRole : ContainerComponent → Option Role
  | .nameNode => some .nameNode
  | .dataNode => some .dataNode
  | .journalNode => some .journalNode
  | _ => none

/-- The variables of the container of a component. -/
def getEnvVars (clusterConfig : ClusterConfigSpec) (zookeeperConfigMapName : String)
    (oidcEnvVars : List EnvVar) (k : ContainerComponent) : List EnvVar :=
  if k = .oidc then oidcEnvVars
  else k.getCommonContainerEnv clusterConfig zookeeperConfigMapName k.serverRole

/-- The command of a container. -/
def getCommand (k : ContainerComponent) : List String :=
  if k = .oidc then ["sh", "-c"] else ["/bin/bash", "-x", "-euo", "pipefail", "-c"]

end ContainerComponent

/-- A container with everything that the builder sets. -/
structure ContainerSpec extends Container where
  command : List String
  args : List String
  envVars : List EnvVar
  ports : List ContainerPort
  livenessProbe : Option Probe
  readinessProbe : Option Probe
  volumeMounts : List VolumeMount
  deriving DecidableEq

/-- What containers are built with besides the settings of the role group. -/
structure ContainerInputs where
  parser : Template.Parser
  bash : BashTexts
  zookeeperConfigMapName : String
  oidcEnvVars : List EnvVar

/-- Builds the container of a component. -/
def StatefulSetBuilder.containerSpec (inputs : ContainerInputs) (b : StatefulSetBuilder)
    (o : RangeOrder) (k : ContainerComponent) : Go ContainerSpec := do
  let clusterConfig := b.instance'.clusterConfig
  let args ← k.getArgs inputs.parser inputs.bash b o
  return { b.makeContainer k.getContainerName with
    command := k.getCommand
    args := ["\n".intercalate args]
    envVars := k.getEnvVars clusterConfig inputs.zookeeperConfigMapName inputs.oidcEnvVars
    ports := k.getPorts clusterConfig
    livenessProbe := k.getLivenessProbe clusterConfig
    readinessProbe := k.getReadinessProbe
    volumeMounts := k.getVolumeMounts clusterConfig }

/-- The components of the main containers of a role. -/
def mainComponents : Role → List ContainerComponent
  | .nameNode => [.nameNode, .zkfc]
  | .dataNode => [.dataNode]
  | .journalNode => [.journalNode]

/-- The components of the init containers of a role. -/
def initComponents : Role → List ContainerComponent
  | .nameNode => [.formatNameNode, .formatZookeeper]
  | .dataNode => [.waitForNameNodes]
  | .journalNode => []

/-- The pod that is handed to the framework: what the role supplies, the log agent and the OIDC
proxy. -/
def StatefulSetBuilder.podTemplate (fw : PodFramework) (b : StatefulSetBuilder) (o : RangeOrder)
    (r : Role) : Go PodTemplate := do
  let template ← b.componentTemplate fw o r
  let template ← b.addVectorContainer fw template
  b.addOIDCContainer fw template

end HdfsOperator
