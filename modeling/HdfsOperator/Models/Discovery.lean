import HdfsOperator.Models.SiteGenerator

/-!
# The discovery ConfigMap

The configuration for clients. The NameNode addresses come from the listeners of the pods:
two passes over the pods, one for each port, ask the API server for the pod and its
listener. A pass asks for each pod at most once, so the port and the pod tell the calls
apart, and answers are a function of both: they may change from call to call. Addresses are
cached by listener across both passes.
-/

namespace HdfsOperator

/-- An address of a listener with its ports by name. -/
structure IngressAddressSpec where
  address : String
  ports : GoMap Int32

/-- One lookup: the port that its pass is about, and the pod. -/
structure Lookup where
  portName : String
  podName : String
  deriving DecidableEq

/-- The answers of the API server to the calls that are made for each lookup. -/
structure ApiClient where
  /-- The labels of the pod, in the order in which the loop visits them. -/
  getPod : Lookup → Except String (List (String × String))
  /-- The ingress addresses of a listener. -/
  getListener : Lookup → String → Except String (List IngressAddressSpec)

/-- The start of the label that names the listener of a pod. -/
def listenerLabel : String := "listeners.kubedoop.dev/mnt"

/-- The listener named by the labels of a pod. -/
def listenerOfLabels (labels : List (String × String)) : Option String :=
  (labels.find? fun e => listenerLabel.toList.isPrefixOf e.1.toList).map Prod.snd

section Lookup

variable (client : ApiClient)

/-- The listener of a pod. -/
def getListenerNameByPodName (l : Lookup) : Go String :=
  match client.getPod l with
  | .error err => .error (.error err)
  | .ok labels =>
    match listenerOfLabels labels with
    | some listenerName => .ok listenerName
    | none => .error (.error "not found listener name by pod name")

/-- The first address of the listener of a pod, from the cache if it is there. -/
def getListenerAddress (l : Lookup) (cache : GoMap IngressAddressSpec) :
    Go (IngressAddressSpec × GoMap IngressAddressSpec) := do
  let cacheKey ← getListenerNameByPodName client l
  match cache.lookup cacheKey with
  | some address => return (address, cache)
  | none =>
    match client.getListener l cacheKey with
    | .error _ => throw (.error "listener resource not found")
    | .ok [] => throw (.error "listener addresses not found")
    | .ok (address :: _) => return (address, cache.insert cacheKey address)

/-- The port of an address with a given name. -/
def getPort (address : IngressAddressSpec) (portName : String) : Go Int32 :=
  match address.ports.lookup portName with
  | some port => .ok port
  | none => .error (.error ("not found port in address " ++ portName ++ " by port name"))

/-- The property name for the address of a pod. -/
def connectionName (portName instanceName podName : String) : String :=
  "dfs.namenode." ++ portName ++ "-address." ++ instanceName ++ "." ++ podName

/-- One pass over the pods; the first failure ends it. -/
def createPortNameAddress (instanceName portName : String) :
    List String → GoMap IngressAddressSpec →
      Go (List XmlNameValuePair × GoMap IngressAddressSpec)
  | [], cache => .ok ([], cache)
  | podName :: podNames, cache => do
    let (address, cache) ← getListenerAddress client ⟨portName, podName⟩ cache
    let port ← getPort address portName
    let name := connectionName portName instanceName podName
    let value := address.address ++ ":" ++ toString port.toInt
    let (connections, cache) ← createPortNameAddress instanceName portName podNames cache
    return (⟨name, value⟩ :: connections, cache)

/-- The port name of the web interface. -/
def webPort (clusterConfig : ClusterConfigSpec) : String :=
  if isTlsEnabled clusterConfig then "https" else "http"

/-- The addresses of the pods: a failure of the second pass is dropped. -/
def createConnections (c : HdfsCluster) (podNames : List String) : Go (List XmlNameValuePair) := do
  let schema := webPort c.clusterConfig
  let (httpConnections, cache) ← createPortNameAddress client c.name.val schema podNames ∅
  match createPortNameAddress client c.name.val "rpc" podNames cache with
  | .ok (rpcConnections, _) => return httpConnections ++ rpcConnections
  | .error _ => return httpConnections

/-- The names of all NameNode pods, computed from the specification. -/
def getPodNames (instanceName : String) (nameNodeGroups : GoMap RoleGroupSpec) (o : RangeOrder) :
    List String :=
  (nameNodeGroups.range o).flatMap fun e =>
    match e.2.replicas with
    | some replicas => (ordinals replicas).map (ordinalName (instanceName ++ "-namenode-" ++ e.1))
    | none => []

/-- The ids of the NameNodes. -/
def makeDiscoveryHosts (instanceName : String) (podNames : List String) : XmlNameValuePair :=
  ⟨"dfs.ha.namenodes." ++ instanceName, ",".intercalate podNames⟩

/-- The properties that depend on the NameNode pods. -/
def makeDynamicHdfsSiteXml (c : HdfsCluster) (o : RangeOrder) : Go (List XmlNameValuePair) := do
  let nameNode ← deref c.nameNode
  let podNames := getPodNames c.name.val nameNode.roleGroups o
  let hosts := makeDiscoveryHosts c.name.val podNames
  let connections ← createConnections client c podNames
  return hosts :: connections

/-- The properties that do not depend on the NameNode pods. -/
def commonHdfsSiteXml (c : HdfsCluster) : List XmlNameValuePair :=
  [⟨"dfs.nameservices", c.name.val⟩,
   ⟨"dfs.client.failover.proxy.provider." ++ c.name.val,
     "org.apache.hadoop.hdfs.server.namenode.ha.ConfiguredFailoverProxyProvider"⟩]

/-- The `hdfs-site.xml` of clients. -/
def makeHdfsSiteXmlData (c : HdfsCluster) (o : RangeOrder) : Go String := do
  let properties ← makeDynamicHdfsSiteXml client c o
  let properties :=
    if isKerberosEnabled c.clusterConfig then properties ++ securityDiscoveryHdfsSiteXml
    else properties
  XmlConfiguration.string ⟨commonHdfsSiteXml c⟩ properties

/-- The `core-site.xml` of clients. -/
def makeCoreSiteXmlData (c : HdfsCluster) : Go String :=
  (CoreSiteXmlGenerator.enableKerberos { instanceName := c.name.val, isDiscovery := true }
    c.clusterConfig c.nameSpace.val).generate

/-- The data of the discovery ConfigMap. -/
def buildDiscovery (c : HdfsCluster) (o : RangeOrder) : Go (GoMap String) := do
  let hdfsSiteXml ← makeHdfsSiteXmlData client c o
  let coreSiteXml ← makeCoreSiteXmlData c
  return .ofList [("core-site.xml", coreSiteXml), ("hdfs-site.xml", hdfsSiteXml)]

end Lookup

end HdfsOperator
