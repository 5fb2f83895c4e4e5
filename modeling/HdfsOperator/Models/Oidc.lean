import HdfsOperator.Core.Encodings
import HdfsOperator.Models.Containers

/-!
# The OIDC proxy

The proxy stands before the web interface of a server, in the same pod. Everything that it is told
is in its environment. The digest of a text and the text of a URL are parameters.
-/

namespace HdfsOperator

open Encodings (Byte hexEncode textBytes base64Encode)

/-- What the standard library computes for the proxy. -/
structure Libraries where
  sha256 : String → List Byte
  /-- A digest has 32 bytes. -/
  sha256_length : ∀ text, (sha256 text).length = 32
  /-- The text of a URL with a scheme, a host and a path. -/
  urlString : String → String → String → String

/-- An OIDC provider. -/
structure OIDCProvider where
  hostname : String
  port : Int
  rootPath : String
  providerHint : String

/-- What the proxy is built from. -/
structure OidcComponent where
  uid : String
  port : Nat
  oidcProvider : OIDCProvider
  oidc : OidcSpec
  extraScopes : List String := []

namespace OidcComponent

/-- The host of the provider, with its port unless that is the usual one. -/
def issuerHost (c : OidcComponent) : String :=
  if c.oidcProvider.port ≠ 0 ∧ c.oidcProvider.port ≠ 80 then
    c.oidcProvider.hostname ++ ":" ++ toString c.oidcProvider.port
  else c.oidcProvider.hostname

/-- The name of the kind of provider. -/
def providerHint (c : OidcComponent) : String :=
  if c.oidcProvider.providerHint = "keycloak" then "keycloak-oidc" else c.oidcProvider.providerHint

/-- The secret for cookies: sixteen digits of the digest of the id, encoded twice. -/
def cookieSecret (libs : Libraries) (uid : String) : String :=
  let tokenBytes := textBytes ((hexEncode (libs.sha256 uid)).take 16)
  .ofList (base64Encode (textBytes (base64Encode tokenBytes)))

/-- The environment of the proxy. -/
def getEnvVars (libs : Libraries) (c : OidcComponent) : List EnvVar :=
  [⟨"OAUTH2_PROXY_COOKIE_SECRET", .value (cookieSecret libs c.uid)⟩,
   ⟨"OAUTH2_PROXY_CLIENT_ID", .secretKeyRef c.oidc.clientCredentialsSecret "CLIENT_ID"⟩,
   ⟨"OAUTH2_PROXY_CLIENT_SECRET", .secretKeyRef c.oidc.clientCredentialsSecret "CLIENT_SECRET"⟩,
   ⟨"POD_IP", .fieldRef "status.podIP"⟩,
   ⟨"OAUTH2_PROXY_OIDC_ISSUER_URL",
     .value (libs.urlString "http" c.issuerHost c.oidcProvider.rootPath)⟩,
   ⟨"OAUTH2_PROXY_SCOPE", .value (" ".intercalate (["openid", "email", "profile"] ++
     c.extraScopes))⟩,
   ⟨"OAUTH2_PROXY_PROVIDER", .value c.providerHint⟩,
   ⟨"UPSTREAM", .value ("http://$(POD_IP):" ++ toString c.port)⟩,
   ⟨"OAUTH2_PROXY_HTTP_ADDRESS", .value "0.0.0.0:4180"⟩,
   ⟨"OAUTH2_PROXY_CODE_CHALLENGE_METHOD", .value "S256"⟩,
   ⟨"OAUTH2_PROXY_EMAIL_DOMAINS", .value "*"⟩,
   ⟨"OAUTH2_PROXY_COOKIE_SECURE", .value "false"⟩,
   ⟨"OAUTH2_PROXY_WHITELIST_DOMAINS", .value "*"⟩]

end OidcComponent

/-- The port of the web interface of each role, which the builder hands to the proxy. -/
def getHttpPort (clusterConfig : ClusterConfigSpec) : Role → Nat
  | .nameNode => (httpPort clusterConfig nameNodeHttpsPort nameNodeHttpPort).containerPort
  | .dataNode => (httpPort clusterConfig 9865 9864).containerPort
  | .journalNode => (httpPort clusterConfig 8481 8480).containerPort

/-- What the proxy in the pods of a role is built from. -/
def oidcComponent (c : HdfsCluster) (r : Role) (uid : String) (oidcProvider : OIDCProvider)
    (oidc : OidcSpec) (extraScopes : List String) : OidcComponent :=
  { uid, port := getHttpPort c.clusterConfig r, oidcProvider, oidc, extraScopes }

/-- The container of the proxy. -/
def StatefulSetBuilder.oidcContainer (libs : Libraries) (inputs : ContainerInputs)
    (b : StatefulSetBuilder) (o : RangeOrder) (component : OidcComponent) : Go ContainerSpec :=
  b.containerSpec { inputs with oidcEnvVars := component.getEnvVars libs } o .oidc

end HdfsOperator
