import CsiOperator.Build.Rbac
import CsiOperator.Resource.Proxy
import CsiOperator.Yaml.Emit
/-!
The objects of a PowerMax reverse proxy installation: one Deployment, fronted by a Service,
configured through a ConfigMap rendered from the spec, with a service account that may read
the secrets of its namespace.
-/

namespace CsiOperator.Proxy

/-- The name of the proxy's objects. -/
def proxyName : String := "powermax-reverseproxy"

/-- The name of the proxy's ConfigMap. -/
def configMapName : String := "powermax-reverseproxy-config"

/-- The mode of proxies that do not name one. -/
def defaultMode : String := "Linked"

/-- The mode with standalone management servers. -/
def standAloneMode : String := "StandAlone"

/-- The port of proxies that do not name one, and the port the proxy listens on. -/
def defaultPort : Int := 2222

/-- The name of the configuration file. -/
def configFileName : String := "config.yaml"

/-- Where the ConfigMap is mounted. -/
def configMapMountPath : String := "/etc/config/configmap"

/-- Where the TLS secret is mounted. -/
def tlsMountPath : String := "/app/tls"

/-- The labels of the proxy's objects. -/
def labels : List (String × String) := [("name", proxyName)]

/-- The owner reference to a proxy resource. -/
def owner (p : ProxyResource) : Json :=
  Build.ownerRef ResourceKind.reverseProxy.apiVersion ResourceKind.reverseProxy.name p.name
    ((p.metadata.strOpt "uid").getD "") true

/-- The metadata of an object of the proxy, with the proxy's labels when asked. -/
def objectMeta (p : ProxyResource) (name : String) (withLabels : Bool) : List (String × Json) :=
  (if withLabels then [("labels", Json.strMap labels)] else []) ++ [("name", .str name)] ++
    (match p.namespace? with
      | some ns => [("namespace", .str ns)]
      | none => []) ++ [("ownerReferences", .arr [owner p])]

/-- The port the proxy's Service exposes. -/
def port (c : ProxyConfig) : Int := if c.port == 0 then defaultPort else c.port

/-- The ConfigMap with the proxy's configuration, its mode and port defaulted. -/
def configMap (p : ProxyResource) : Outcome Json :=
  let c := p.spec.config
  let c := { c with mode := if c.mode.isEmpty then defaultMode else c.mode, port := port c }
  .ok (.obj (Build.header .configMap (objectMeta p configMapName true) ++
    [("data", Json.strMap [(configFileName, Yaml.Emit.document c.toJson)])]))

/-- The proxy's Service. -/
def service (p : ProxyResource) : Json :=
  .obj (Build.header .service (objectMeta p proxyName true) ++
    [("spec", .obj [("ports", .arr [.obj [("port", .int (port p.spec.config)), ("protocol", .str "TCP"),
        ("targetPort", .int defaultPort)]]),
      ("selector", Json.strMap labels), ("type", .str "ClusterIP")])])

/-- The proxy's service account. -/
def serviceAccount (p : ProxyResource) : Json :=
  .obj (Build.header .serviceAccount (objectMeta p proxyName false))

/-- The role that lets the proxy read the secrets of its namespace. -/
def role (p : ProxyResource) : Json :=
  .obj (Build.header .role (objectMeta p proxyName false) ++
    [("rules", .arr [Build.rule [""] ["secrets"] ["list", "watch", "get"]])])

/-- The binding of the proxy's service account to its role. -/
def roleBinding (p : ProxyResource) : Json :=
  .obj (Build.header .roleBinding (objectMeta p proxyName false) ++
    [("roleRef", .obj [("apiGroup", .str "rbac.authorization.k8s.io"), ("kind", .str "Role"),
        ("name", .str proxyName)]),
     ("subjects", .arr [.fields [("kind", some (.str "ServiceAccount")), ("name", some (.str proxyName)),
        ("namespace", p.namespace?.map .str)]])])

/-- The proxy's Deployment. -/
def deployment (p : ProxyResource) : Json :=
  let ns := p.namespace?.getD ""
  let pullPolicy := if p.spec.imagePullPolicy.isEmpty then "IfNotPresent" else p.spec.imagePullPolicy
  let envs := [("X_CSI_REVPROXY_CONFIG_DIR", configMapMountPath),
    ("X_CSI_REVPROXY_CONFIG_FILE_NAME", configFileName), ("X_CSI_REVRPOXY_IN_CLUSTER", "true"),
    ("X_CSI_REVPROXY_TLS_CERT_DIR", tlsMountPath), ("X_CSI_REVPROXY_WATCH_NAMESPACE", ns)].map
    fun (n, v) => EnvVar.toJson (EnvVar.plain n v)
  let mounts := [("configmap-volume", configMapMountPath), ("tls-secret", tlsMountPath),
    ("cert-dir", "/app/certs")].map fun (n, path) => Json.obj [("mountPath", .str path), ("name", .str n)]
  let volumes : List Json := [
    .obj [("configMap", .obj [("name", .str configMapName), ("optional", .bool false)]),
      ("name", .str "configmap-volume")],
    .obj [("name", .str "tls-secret"),
      ("secret", .obj [("optional", .bool false), ("secretName", .str p.spec.tlsSecret)])],
    .obj [("emptyDir", .obj []), ("name", .str "cert-dir")]]
  let container : Json := .obj [("env", .arr envs), ("image", .str p.spec.image),
    ("imagePullPolicy", .str pullPolicy), ("name", .str "csireverseproxy"), ("volumeMounts", .arr mounts)]
  .obj (Build.header .deployment (objectMeta p proxyName false) ++
    [("spec", .obj [("selector", .obj [("matchLabels", Json.strMap labels)]),
      ("template", .obj [("metadata", .obj [("labels", Json.strMap labels)]),
        ("spec", .obj [("containers", .arr [container]), ("serviceAccountName", .str proxyName),
          ("volumes", .arr volumes)])])])])

end CsiOperator.Proxy
