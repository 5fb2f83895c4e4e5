import HdfsOperator.Models.XmlConfiguration

/-!
# Properties for Kerberos and TLS

The property lists that the generators add when security is on. Servers and clients have
separate lists for `hdfs-site.xml` and for `core-site.xml`.
-/

namespace HdfsOperator

/-- The host part of the service principals. -/
def principalHostPart (instanceName ns : String) : String :=
  instanceName ++ "." ++ ns ++ ".svc.cluster.local@$\x7benv.KERBEROS_REALM\x7d"

/-- The path of the keytab. -/
def keytabPath : String := "/kubedoop/kerberos/keytab"

/-- The Kerberos properties of a server in `hdfs-site.xml`. -/
def securityHdfsSiteXml : List XmlNameValuePair :=
  [⟨"dfs.block.access.token.enable", "true"⟩,
   ⟨"dfs.http.policy", "HTTPS_ONLY"⟩,
   ⟨"hadoop.kerberos.keytab.login.autorenewal.enabled", "true"⟩,
   ⟨"dfs.https.server.keystore.resource", "ssl-server.xml"⟩,
   ⟨"dfs.https.client.keystore.resource", "ssl-client.xml"⟩,
   ⟨"dfs.encrypt.data.transfer", "true"⟩,
   ⟨"dfs.data.transfer.protection", "privacy"⟩]

/-- The Kerberos properties of a client in `hdfs-site.xml`. -/
def securityDiscoveryHdfsSiteXml : List XmlNameValuePair :=
  [⟨"hadoop.kerberos.keytab.login.autorenewal.enabled", "true"⟩,
   ⟨"dfs.data.transfer.protection", "privacy"⟩,
   ⟨"dfs.encrypt.data.transfer", "true"⟩]

/-- The Kerberos properties of a client in `core-site.xml`. -/
def securityDiscoveryCoreSiteXml (instanceName ns : String) : List XmlNameValuePair :=
  [⟨"hadoop.security.authentication", "kerberos"⟩,
   ⟨"dfs.journalnode.kerberos.principal", "jn/" ++ principalHostPart instanceName ns⟩,
   ⟨"dfs.namenode.kerberos.principal", "nn/" ++ principalHostPart instanceName ns⟩,
   ⟨"dfs.datanode.kerberos.principal", "dn/" ++ principalHostPart instanceName ns⟩,
   ⟨"hadoop.rpc.protection", "privacy"⟩]

/-- The Kerberos properties of a server in `core-site.xml`. -/
def securityCoreSiteXml (instanceName ns : String) : List XmlNameValuePair :=
  [⟨"hadoop.security.authentication", "kerberos"⟩,
   ⟨"dfs.journalnode.kerberos.principal", "jn/" ++ principalHostPart instanceName ns⟩,
   ⟨"dfs.journalnode.kerberos.internal.spnego.principal",
     "jn/" ++ principalHostPart instanceName ns⟩,
   ⟨"dfs.namenode.kerberos.principal", "nn/" ++ principalHostPart instanceName ns⟩,
   ⟨"dfs.datanode.kerberos.principal", "dn/" ++ principalHostPart instanceName ns⟩,
   ⟨"dfs.web.authentication.kerberos.principal", "HTTP/" ++ principalHostPart instanceName ns⟩,
   ⟨"dfs.journalnode.keytab.file", keytabPath⟩,
   ⟨"dfs.namenode.keytab.file", keytabPath⟩,
   ⟨"dfs.datanode.keytab.file", keytabPath⟩,
   ⟨"dfs.journalnode.kerberos.principal.pattern", "jn/" ++ principalHostPart instanceName ns⟩,
   ⟨"dfs.namenode.kerberos.principal.pattern", "nn/" ++ principalHostPart instanceName ns⟩,
   ⟨"hadoop.rpc.protection", "privacy"⟩]

/-- The port property of a server in `hdfs-site.xml`. -/
def tlsHdfsSiteXml (clusterSpec : ClusterConfigSpec) : List XmlNameValuePair :=
  if isTlsEnabled clusterSpec then
    [⟨"dfs.datanode.registered.https.port", "$\x7benv.HTTPS_PORT\x7d"⟩]
  else
    [⟨"dfs.datanode.registered.http.port", "$\x7benv.HTTP_PORT\x7d"⟩]

/-- Clients are given only properties that servers have too. -/
theorem securityDiscoveryHdfsSiteXml_subset :
    securityDiscoveryHdfsSiteXml ⊆ securityHdfsSiteXml := by decide

/-- Clients are given only properties that servers have too. -/
theorem securityDiscoveryCoreSiteXml_subset (instanceName ns : String) :
    securityDiscoveryCoreSiteXml instanceName ns ⊆ securityCoreSiteXml instanceName ns := by
  intro p hp
  simp only [securityDiscoveryCoreSiteXml, List.mem_cons, List.not_mem_nil, or_false] at hp
  simp only [securityCoreSiteXml, List.mem_cons]
  tauto

end HdfsOperator
