import HdfsOperator.Correctness.ServerSettings
import HdfsOperator.Models.Oidc

/-!
# The OIDC proxy and the server behind it

The secret for cookies is a text that decodes to a key. The proxy asks for the web interface by
plain http, at a port that depends on TLS, while the server goes by its `hdfs-site.xml`.
-/

namespace HdfsOperator

open Encodings

namespace OidcComponent

/-- The text that is encoded last is determined by the first bytes of the digest. -/
theorem token_inj {bytes bytes' : List Byte}
    (h : textBytes (base64Encode (textBytes ((hexEncode bytes).take 16))) =
      textBytes (base64Encode (textBytes ((hexEncode bytes').take 16)))) :
    bytes.take 8 = bytes'.take 8 := by
  have htoken := base64Encode_inj (textBytes_inj (base64Encode_small _) (base64Encode_small _) h)
  have htake (bytes : List Byte) : (hexEncode bytes).take 16 = hexEncode (bytes.take 8) :=
    take_hexEncode 8 bytes
  rw [htake, htake] at htoken
  exact hexEncode_inj (textBytes_inj (hexEncode_small _) (hexEncode_small _) htoken)

/-- The secret for cookies decodes to a key of 24 bytes, and two clusters have the same secret
exactly when the digests of their ids begin with the same eight bytes. -/
theorem cookieSecret_key (libs : Libraries) (c c' : OidcComponent) :
    (∃ secret key, ⟨"OAUTH2_PROXY_COOKIE_SECRET", .value secret⟩ ∈ c.getEnvVars libs ∧
      base64Decode secret.toList = some key ∧ key.length = 24) ∧
    (cookieSecret libs c.uid = cookieSecret libs c'.uid ↔
      (libs.sha256 c.uid).take 8 = (libs.sha256 c'.uid).take 8) := by
  have htext (uid : String) : (cookieSecret libs uid).toList =
      base64Encode (textBytes (base64Encode (textBytes ((hexEncode (libs.sha256 uid)).take 16)))) :=
    String.toList_ofList
  refine ⟨⟨_, _, List.mem_cons_self, by rw [htext]; exact base64Decode_encode _, ?_⟩, fun h => ?_,
    fun h => ?_⟩
  · have hdigest := libs.sha256_length c.uid
    simp only [textBytes, List.length_map, length_base64Encode, List.length_take, length_hexEncode,
      hdigest]
    rfl
  · have hlist := congrArg String.toList h
    rw [htext, htext] at hlist
    exact token_inj (base64Encode_inj hlist)
  · have htake (bytes : List Byte) : (hexEncode bytes).take 16 = hexEncode (bytes.take 8) :=
      take_hexEncode 8 bytes
    unfold cookieSecret
    simp only [htake, h]

end OidcComponent

/-- The proxy asks at the port that belongs to the setting of TLS. -/
theorem WebServer.Lawful.port_eq {web : WebServer} (hweb : web.Lawful)
    (clusterConfig : ClusterConfigSpec) (r : Role) :
    web.port r (if isTlsEnabled clusterConfig then .https else .http) =
      getHttpPort clusterConfig r := by
  obtain ⟨-, -, ⟨hnn, hnns⟩, ⟨hdn, hdns⟩, ⟨hjn, hjns⟩⟩ := hweb
  unfold getHttpPort httpPort
  cases isTlsEnabled clusterConfig with
  | false => cases r <;> assumption
  | true => cases r <;> assumption

/-- The two schemes have different ports. -/
theorem WebServer.Lawful.port_ne {web : WebServer} (hweb : web.Lawful) (r : Role) :
    web.port r .http ≠ web.port r .https := by
  obtain ⟨-, -, ⟨hnn, hnns⟩, ⟨hdn, hdns⟩, ⟨hjn, hjns⟩⟩ := hweb
  cases r <;> omega

/-- The proxy asks for the web interface at a port that the server in its pod opens. It finds the
interface there exactly when neither Kerberos nor TLS is on. Its own port is open, but the services
of DataNodes do not list it. -/
theorem oidc_upstream_served_iff {libs : Libraries} {inputs : ContainerInputs}
    {b : StatefulSetBuilder} {order : RangeOrder} {spec : ContainerSpec} {c : HdfsCluster}
    {o : RunOrders} {r : Role} {g text uid : String} {oidcProvider : OIDCProvider}
    {oidc : OidcSpec} {extraScopes : List String} {web : WebServer} (hweb : web.Lawful)
    (hspec : b.oidcContainer libs inputs order
      (oidcComponent c r uid oidcProvider oidc extraScopes) = .ok spec)
    (h : c.hdfsSite o r g = .ok text) :
    ∃ port, ⟨"UPSTREAM", .value ("http://$(POD_IP):" ++ toString port)⟩ ∈ spec.envVars ∧
      (∀ k : ContainerComponent, k.serverRole = some r →
        ∃ p ∈ k.getPorts c.clusterConfig, p.containerPort = port) ∧
      (web.scheme (documentValue text "dfs.http.policy") = .http ∧
          web.port r (web.scheme (documentValue text "dfs.http.policy")) = port ↔
        isKerberosEnabled c.clusterConfig = false ∧ isTlsEnabled c.clusterConfig = false) ∧
      ⟨"oidc", 4180⟩ ∈ spec.ports ∧
      (⟨"oidc", 4180⟩ ∈ getServicePorts c.clusterConfig r ↔ r ≠ .dataNode) := by
  obtain ⟨args, -, hspec⟩ := Go.bind_eq_ok.mp hspec
  cases hspec
  refine ⟨getHttpPort c.clusterConfig r, ?_, fun k hk => ?_, ?_, List.mem_singleton.mpr rfl, ?_⟩
  · show _ ∈ OidcComponent.getEnvVars libs _
    simp [OidcComponent.getEnvVars, oidcComponent]
  · refine ⟨_, (serverPorts_facts hk c.clusterConfig).2, ?_⟩
    unfold getHttpPort getNativeMetricsPort httpPort
    cases isTlsEnabled c.clusterConfig <;> cases r <;> rfl
  · rw [hweb.scheme_eq h, ← hweb.port_eq c.clusterConfig r]
    have hne := hweb.port_ne r
    cases isKerberosEnabled c.clusterConfig <;> cases isTlsEnabled c.clusterConfig <;> simp [hne]
  · unfold getServicePorts httpPort
    cases isTlsEnabled c.clusterConfig <;> cases r <;> decide

/-- A library in which every digest is zero. -/
def zeroLibraries : Libraries where
  sha256 := fun _ => List.replicate 32 0
  sha256_length := fun _ => rfl
  urlString := fun scheme host path => scheme ++ "://" ++ host ++ path

/-- With Kerberos the proxy does not find the web interface. -/
theorem oidc_upstream_served_iff_kerberosCluster :
    ∃ spec text port, (kerberosCluster.statefulSetBuilder .nameNode "default"
        (completed .nameNode {})).oidcContainer zeroLibraries frameworkInputs .stored
          (oidcComponent kerberosCluster .nameNode "uid" ⟨"keycloak", 80, "/", "oidc"⟩ ⟨"secret"⟩
            ["groups"]) = .ok spec ∧
      kerberosCluster.hdfsSite .stored .nameNode "default" = .ok text ∧
      ⟨"UPSTREAM", .value ("http://$(POD_IP):" ++ toString port)⟩ ∈ spec.envVars ∧
      ¬(plainWeb.scheme (documentValue text "dfs.http.policy") = .http ∧
        plainWeb.port .nameNode (plainWeb.scheme (documentValue text "dfs.http.policy")) =
          port) := by
  obtain ⟨text, htext⟩ := nameNodeGroupWith_hdfsSite kerberosCluster.clusterConfig
  have hspec : (kerberosCluster.statefulSetBuilder .nameNode "default"
      (completed .nameNode {})).oidcContainer zeroLibraries frameworkInputs .stored
        (oidcComponent kerberosCluster .nameNode "uid" ⟨"keycloak", 80, "/", "oidc"⟩ ⟨"secret"⟩
          ["groups"]) = .ok _ := rfl
  obtain ⟨port, hupstream, -, hserved, -⟩ :=
    oidc_upstream_served_iff (c := kerberosCluster) plainWeb_lawful hspec htext
  refine ⟨_, text, port, hspec, htext, hupstream, fun h => ?_⟩
  exact absurd (hserved.mp h).1 (by decide)

end HdfsOperator
