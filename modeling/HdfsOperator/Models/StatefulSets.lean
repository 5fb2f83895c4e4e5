import HdfsOperator.Models.ConfigMaps
import HdfsOperator.Models.Resources
import HdfsOperator.Models.RoleConfig
import HdfsOperator.Models.WaitForNameNodes

/-!
# The stateful sets of role groups

Each role supplies the containers, volumes and claims of its pods; the common builder adds
them, then the log agent, then the OIDC proxy. Of a container the name and the resources are
kept. The text of the scripts is not, but what computing it can do is.
-/

namespace HdfsOperator

/-- A container of a pod, with the resources that it was given. -/
structure Container where
  name : String
  resources : Option ResourcesSpec
  deriving DecidableEq

/-- Where the content of a volume comes from. -/
inductive VolumeSource
  | emptyDir (sizeLimit : Quantity)
  | configMap (name : String)
  | kerberosSecret (secretClass scope kerberosServiceNames : String)
  | tlsSecret (secretClass scope pkcs12Password : String)
  | listener (listenerClass : String) (storage : Quantity)
  deriving DecidableEq

/-- A volume of a pod. -/
structure Volume where
  name : String
  source : VolumeSource
  deriving DecidableEq

/-- A volume in the file system of a container. -/
structure VolumeMount where
  name : String
  mountPath : String
  deriving DecidableEq

/-- What the operator framework supplies for the log agent: the resources and mounts of its
container, and volumes of its own. -/
structure VectorFactory where
  resources : Option ResourcesSpec
  volumeMounts : List VolumeMount
  volumes : List Volume

/-- A claim that a stateful set makes for each of its pods. -/
structure PersistentVolumeClaim where
  name : String
  listenerClass : Option String := none
  storage : Quantity
  deriving DecidableEq

/-- What the common builder collects for the pods of a stateful set. -/
structure PodTemplate where
  containers : List Container
  initContainers : List Container
  volumes : List Volume
  volumeClaimTemplates : List PersistentVolumeClaim
  deriving DecidableEq

/-- A stateful set. -/
structure StatefulSet where
  template : PodTemplate
  serviceAccountName : String
  deriving DecidableEq

/-- An `AuthenticationClass`: the host name of its OIDC provider, if it has one. -/
structure AuthenticationClass where
  oidcHostname : Option String

/-- Why an object was not read. -/
inductive GetError
  | notFound
  | other (message : String)

/-- What the operator framework and the API server do for the builders of stateful sets. -/
structure PodFramework where
  /-- Renders templates. -/
  parser : Template.Parser
  /-- The log agent, with the names of the volumes that it reads its settings and the logs from. -/
  newVector : String → String → VectorFactory
  /-- Reads the `AuthenticationClass` with the given namespace and name. -/
  getAuthenticationClass : String → String → Except GetError AuthenticationClass
  /-- The object that the framework makes of a template. -/
  getObject : PodTemplate → Except String PodTemplate
  /-- The object has the containers that were added, and no others; their order is its own. -/
  getObject_containers : ∀ {t t' : PodTemplate}, getObject t = .ok t' →
    t'.containers.Perm t.containers

/-- The names of containers. -/
def nameNodeContainer : String := "namenode"
@[inherit_doc nameNodeContainer] def dataNodeContainer : String := "datanode"
@[inherit_doc nameNodeContainer] def journalNodeContainer : String := "journalnode"
@[inherit_doc nameNodeContainer] def zkfcContainer : String := "zkfc"
@[inherit_doc nameNodeContainer] def formatNameNodeContainer : String := "format-namenodes"
@[inherit_doc nameNodeContainer] def formatZookeeperContainer : String := "format-zookeeper"
@[inherit_doc nameNodeContainer] def waitForNameNodesContainer : String := "wait-for-namenodes"
@[inherit_doc nameNodeContainer] def oidcContainer : String := "oidc"
@[inherit_doc nameNodeContainer] def vectorContainer : String := "vector"

/-- The resources of `zkfc` when none are configured. -/
def zkfcDefaultResources : ResourcesSpec where
  cpu := some { max := .milli 400, min := .milli 100 }
  memory := some { limit := .mebi 512 }

/-- The resources that a container is given; those of `zkfc` have a default of their own. -/
def componentResources (containerName : String) (roleGroupConfig : RoleGroupConfigSpec) :
    Option ResourcesSpec :=
  if containerName = zkfcContainer then
    match roleGroupConfig.resources with
    | none => some zkfcDefaultResources
    | some resources => some resources
  else roleGroupConfig.resources

/-- Builds a container. -/
def buildWithComponent (roleGroupConfig : Option RoleGroupConfigSpec) (containerName : String) :
    Container where
  name := containerName
  resources := roleGroupConfig.bind (componentResources containerName)

/-- The volume of the Kerberos secret. -/
def createKerberosSecretPvc (secretClass instanceName : String) (r : Role) : Volume where
  name := "kerberos"
  source := .kerberosSecret secretClass ("service=" ++ instanceName)
    (getKerberosServiceName r ++ ",HTTP")

/-- The volume of the server certificate. -/
def createTlsSecretPvc (secretClass jksPassword : String) (roleGroupInfo : RoleGroupInfo) :
    Volume where
  name := "tls"
  source := .tlsSecret secretClass
    ("pod,node,service=" ++ createServiceMetricsName roleGroupInfo) jksPassword

/-- The volumes that all roles share. -/
def getCommonVolumes (clusterConfig : ClusterConfigSpec) (instanceName : String) (r : Role)
    (roleGroupInfo : RoleGroupInfo) : List Volume :=
  let kerberos := clusterConfig.authentication.bind AuthenticationSpec.kerberos
  let tls := clusterConfig.authentication.bind AuthenticationSpec.tls
  [⟨"log", .emptyDir (.mebi 150)⟩] ++
    (kerberos.toList.map fun k => createKerberosSecretPvc k.secretClass instanceName r) ++
    -- The volume of the certificate is added twice.
    (tls.toList.flatMap fun t =>
      [createTlsSecretPvc t.secretClass t.jksPassword roleGroupInfo,
       createTlsSecretPvc t.secretClass t.jksPassword roleGroupInfo])

/-- What the builder of a stateful set is given. -/
structure StatefulSetBuilder where
  instance' : HdfsCluster
  groupName : String
  replicas : Option Int32
  config : ConfigSpec

namespace StatefulSetBuilder

/-- The identity of the role group. -/
def roleGroupInfo (b : StatefulSetBuilder) (r : Role) : RoleGroupInfo :=
  ⟨b.instance'.name.val, r.text, b.groupName⟩

/-- The container with the given name. -/
def makeContainer (b : StatefulSetBuilder) (containerName : String) : Container :=
  buildWithComponent b.config.roleGroupConfigSpec containerName

@[inherit_doc makeContainer] def makeNameNodeContainer (b : StatefulSetBuilder) : Container :=
  b.makeContainer nameNodeContainer

@[inherit_doc makeContainer] def makeZkfcContainer (b : StatefulSetBuilder) : Container :=
  b.makeContainer zkfcContainer

@[inherit_doc makeContainer] def makeDataNodeContainer (b : StatefulSetBuilder) : Container :=
  b.makeContainer dataNodeContainer

@[inherit_doc makeContainer] def makeJournalNodeContainer (b : StatefulSetBuilder) : Container :=
  b.makeContainer journalNodeContainer

@[inherit_doc makeContainer] def makeFormatZookeeperContainer (b : StatefulSetBuilder) :
    Container :=
  b.makeContainer formatZookeeperContainer

/-- The container that formats a NameNode; its script lists the pods of the role group. -/
def makeFormatNameNodeContainer (b : StatefulSetBuilder) : Go Container := do
  let nameNodeReplicates ← deref b.replicas
  let _ ← createPodNamesByReplicas nameNodeReplicates (b.roleGroupInfo .nameNode).getFullName
  return b.makeContainer formatNameNodeContainer

/-- The container that waits for NameNodes; its script lists the pods of all their groups. -/
def makeWaitForNameNodesContainer (fw : PodFramework) (b : StatefulSetBuilder) (o : RangeOrder) :
    Go Container := do
  let _ ← getArgs fw.parser b.instance' o
  return b.makeContainer waitForNameNodesContainer

/-- The main containers of each role. -/
def getMainContainers (b : StatefulSetBuilder) : Role → List Container
  | .nameNode => [b.makeNameNodeContainer, b.makeZkfcContainer]
  | .dataNode => [b.makeDataNodeContainer]
  | .journalNode => [b.makeJournalNodeContainer]

/-- The init containers of each role. -/
def getInitContainers (fw : PodFramework) (b : StatefulSetBuilder) (o : RangeOrder) :
    Role → Go (List Container)
  | .nameNode => do
    let format ← b.makeFormatNameNodeContainer
    return [format, b.makeFormatZookeeperContainer]
  | .dataNode => do
    let wait ← b.makeWaitForNameNodesContainer fw o
    return [wait]
  | .journalNode => return []

/-- The claim for data, with the given size. -/
def dataClaim (storageSize : Quantity) : PersistentVolumeClaim where
  name := "data"
  storage := storageSize

/-- The claim for data of DataNodes. -/
def createDataNodeDataPvcTemplate (b : StatefulSetBuilder) : Go PersistentVolumeClaim := do
  let roleGroupConfig ← deref b.config.roleGroupConfigSpec
  let resources ← deref roleGroupConfig.resources
  let storage ← deref resources.storage
  return dataClaim storage.capacity

/-- The claim for data of NameNodes and JournalNodes, with a size of their own when none is set. -/
def createDefaultedDataPvcTemplate (b : StatefulSetBuilder) : Go PersistentVolumeClaim := do
  let roleGroupConfig ← deref b.config.roleGroupConfigSpec
  match roleGroupConfig.resources.bind ResourcesSpec.storage with
  | some storage => return dataClaim storage.capacity
  | none => return dataClaim (.gibi 10)

/-- The claim for data of each role. -/
def createDataPvcTemplate (b : StatefulSetBuilder) : Role → Go PersistentVolumeClaim
  | .dataNode => b.createDataNodeDataPvcTemplate
  | .nameNode | .journalNode => b.createDefaultedDataPvcTemplate

/-- The listener class, with the given text when it is empty. -/
def listenerClassOr (listenerClass : String) : String :=
  if listenerClass = "" then clusterInternal else listenerClass

/-- The claim for the listener of NameNodes. -/
def createNameNodeListenPvcTemplate (b : StatefulSetBuilder) : PersistentVolumeClaim where
  name := "listener"
  listenerClass := some (listenerClassOr (b.config.listenerClass.getD ""))
  storage := .mebi 10

/-- The volume for the listener of DataNodes. -/
def createDataNodeListenPvcTemplate (b : StatefulSetBuilder) : Go Volume := do
  let listenerClass ← deref b.config.listenerClass
  return ⟨"listener", .listener (listenerClassOr listenerClass) (.mebi 10)⟩

/-- The volumes of each role that have the ConfigMap of the role group as their content. -/
def configVolumeNames : Role → List String
  | .nameNode => ["hdfs-config", "hdfs-log-config", "format-namenodes-config",
      "format-namenodes-log-config", "format-zookeeper-config", "format-zookeeper-log-config"]
  | .dataNode => ["hdfs-config", "hdfs-log-config", "wait-for-namenodes-config",
      "wait-for-namenodes-log-config"]
  | .journalNode => ["hdfs-config", "hdfs-log-config"]

/-- The volumes of each role. -/
def getVolumes (b : StatefulSetBuilder) (r : Role) : Go (List Volume) := do
  let configVolumes := (configVolumeNames r).map fun name =>
    (⟨name, .configMap (b.roleGroupInfo r).getFullName⟩ : Volume)
  match r with
  | .dataNode => do
    let listener ← b.createDataNodeListenPvcTemplate
    return configVolumes ++ [listener]
  | .nameNode | .journalNode => return configVolumes

/-- The claims of each role. -/
def getVolumeClaimTemplates (b : StatefulSetBuilder) (r : Role) :
    Go (List PersistentVolumeClaim) := do
  let data ← b.createDataPvcTemplate r
  match r with
  | .nameNode => return [data, b.createNameNodeListenPvcTemplate]
  | .dataNode | .journalNode => return [data]

/-- The log agent of a pod; it reads its settings from the ConfigMap of the role group. -/
def getVectorFactory (fw : PodFramework) : VectorFactory := fw.newVector "hdfs-config" "log"

/-- Adds the log agent when the log settings ask for it. -/
def addVectorContainer (fw : PodFramework) (b : StatefulSetBuilder) (t : PodTemplate) :
    Go PodTemplate :=
  match b.config.roleGroupConfigSpec.bind RoleGroupConfigSpec.logging with
  | none => .ok t
  | some logging => do
    let vectorEnable ← isVectorEnable (some logging)
    if vectorEnable then
      return { t with
        containers := t.containers ++ [⟨vectorContainer, (getVectorFactory fw).resources⟩]
        volumes := t.volumes ++ (getVectorFactory fw).volumes }
    else return t

/-- The OIDC proxy of a role group; none when its provider is not found or has no OIDC settings. -/
def makeOidcContainer (fw : PodFramework) (b : StatefulSetBuilder)
    (authentication : AuthenticationSpec) : Go (Option Container) :=
  match fw.getAuthenticationClass b.instance'.nameSpace.val authentication.authenticationClass with
  | .error .notFound => .ok none
  | .error (.other err) => .error (.error err)
  | .ok authClass =>
    if authClass.oidcHostname = none ∨ authentication.oidc = none then .ok none
    else .ok (some (b.makeContainer oidcContainer))

/-- Adds the OIDC proxy when an authentication class is configured. -/
def addOIDCContainer (fw : PodFramework) (b : StatefulSetBuilder) (t : PodTemplate) :
    Go PodTemplate :=
  match b.instance'.clusterConfig.authentication with
  | none => .ok t
  | some authentication =>
    if authentication.authenticationClass = "" then .ok t
    else do
      let oidc ← b.makeOidcContainer fw authentication
      return { t with containers := t.containers ++ oidc.toList }

/-- What the role supplies for its pods, with the volumes that all roles share. -/
def componentTemplate (fw : PodFramework) (b : StatefulSetBuilder) (o : RangeOrder) (r : Role) :
    Go PodTemplate := do
  let initContainers ← b.getInitContainers fw o r
  let commonVolumes := getCommonVolumes b.instance'.clusterConfig b.instance'.name.val r
    (b.roleGroupInfo r)
  let volumes ← b.getVolumes r
  let volumeClaimTemplates ← b.getVolumeClaimTemplates r
  return ⟨b.getMainContainers r, initContainers, commonVolumes ++ volumes, volumeClaimTemplates⟩

/-- The stateful set of a role group. -/
def build (fw : PodFramework) (b : StatefulSetBuilder) (o : RangeOrder) (r : Role) :
    Go StatefulSet := do
  let template ← b.componentTemplate fw o r
  let template ← b.addVectorContainer fw template
  let template ← b.addOIDCContainer fw template
  match fw.getObject template with
  | .error err => .error (.error err)
  | .ok sts => do
    let serviceAccountName ← createServiceAccountName b.instance'.name.val
    return ⟨sts, serviceAccountName⟩

end StatefulSetBuilder

/-- The builder of the stateful set of the role group `g` of the role `r`. -/
def HdfsCluster.statefulSetBuilder (c : HdfsCluster) (r : Role) (g : String)
    (config : ConfigSpec) : StatefulSetBuilder where
  instance' := c
  groupName := g
  replicas := ((c.groups r).lookup g).bind RoleGroupSpec.replicas
  config := config

/-- The stateful set of the role group `g` of the role `r`. -/
def HdfsCluster.statefulSet (c : HdfsCluster) (fw : PodFramework) (o : RangeOrder) (r : Role)
    (g : String) (config : ConfigSpec) : Go StatefulSet :=
  (c.statefulSetBuilder r g config).build fw o r

end HdfsOperator
