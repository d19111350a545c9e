import CsiOperator.Proxy.Build
import CsiOperator.Cluster.Store
import CsiOperator.Net.Url
/-!
Validation of a reverse proxy spec against the secrets of its namespace.

The TLS secret must exist. A linked proxy needs a primary server with a valid URL, and a
certificate secret unless certificate validation is skipped; a backup server, when it has a
URL, is checked the same way. A stand-alone proxy needs management servers and storage
arrays, each with valid URLs and existing secrets. A secret that cannot be read is not held
against the spec.
-/

namespace CsiOperator.Proxy

/-- Checks that a secret exists; a failed read passes. -/
def checkSecretExists (ns name : String) : ClusterM Unit := do
  let found ← tryCatch (some <$> Cluster.get .secret (some ns) name) fun _ => pure none
  if let some none := found then throw (.invalid ("failed to find secret: [" ++ name ++ "]"))

/-- Checks a URL, describing a failure with a context. -/
def checkUrl (url context : String) : ClusterM Unit :=
  match Url.check url with
  | .ok () => pure ()
  | .error e => throw (.invalid (context ++ ". Error: " ++ e.message))

/-- Checks the certificate secret of a server whose certificate is validated. -/
def checkEndpointCert (ns : String) (s : ManagementServer) (missing : String) : ClusterM Unit := do
  if s.skipCertificateValidation then return ()
  if s.certSecret.isEmpty then throw (.invalid missing)
  checkSecretExists ns s.certSecret

/-- Checks a linked proxy. -/
def validateLinked (ns : String) (c : ProxyConfig) : ClusterM Unit := do
  let some link := c.linkConfig | throw (.invalid "link config can't be nil")
  checkUrl link.primary.url "linkConfig primary URL is not of the proper format"
  checkEndpointCert ns link.primary
    "link config Primary: SkipCertificateValidation is set to false and cert secret has not been specified"
  if !link.backup.url.isEmpty then
    checkUrl link.backup.url "linkConfig backup URL is not of the proper format"
    checkEndpointCert ns link.backup
      "link config Backup: SkipCertificateValidation is set to false and cert secret has not been specified"

/-- Checks a stand-alone proxy. -/
def validateStandAlone (ns : String) (c : ProxyConfig) : ClusterM Unit := do
  let some sa := c.standAloneConfig | throw (.invalid "stand-alone config can't be nil")
  if sa.managementServers.isEmpty then throw (.invalid "no management server(s) specified")
  if sa.storageArrays.isEmpty then throw (.invalid "no storage array config(s) specified")
  for s in sa.managementServers do
    checkUrl s.url "one of the management server's URL is not in proper format"
    checkEndpointCert ns s
      "one of the management server's SkipCertificateValidation is set to false and cert secret has not been specified"
    if !s.arrayCredentialSecret.isEmpty then checkSecretExists ns s.arrayCredentialSecret
  for a in sa.storageArrays do
    if a.storageArrayId.isEmpty then throw (.invalid "array-id empty for one of the array configs")
    if a.primaryUrl.isEmpty then throw (.invalid "invalid primary URL for one of the array configs")
    checkUrl a.primaryUrl "invalid primary URL for one of the array configs"
    if !a.backupUrl.isEmpty then checkUrl a.backupUrl "invalid backup URL for one of the array configs"
    if a.proxyCredentialSecrets.isEmpty then
      throw (.invalid "no proxy credential(s) speficied for authentication")
    for secret in a.proxyCredentialSecrets do checkSecretExists ns secret

/-- Validates a proxy spec against the secrets present in its namespace. -/
def validateProxySpec (p : ProxyResource) : ClusterM Unit := do
  let ns := p.namespace?.getD ""
  checkSecretExists ns p.spec.tlsSecret
  let c := p.spec.config
  if c.mode.isEmpty || c.mode == defaultMode then validateLinked ns c
  else if c.mode == standAloneMode then validateStandAlone ns c
  else throw (.invalid "unknown mode specified")

end CsiOperator.Proxy
