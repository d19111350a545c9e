import CsiOperator.Kube.Object
import CsiOperator.Resource.Proxy
/-!
Objects of every kind the cluster holds, read as their kind's type and written back: the
built-in kinds through their schemas, the operator's own kinds through their typed readers.
-/

namespace CsiOperator.ResourceKind

/-- Reads an object of a kind and writes it as the kind's type writes it. -/
def readObject (k : ResourceKind) : Reader Json :=
  match k, Kube.objectFields k with
  | .driver family, _ => fun j => (DriverResource.read family j).map DriverResource.toJson
  | .reverseProxy, _ => fun j => (ProxyResource.read j).map ProxyResource.toJson
  | _, some fs => Kube.readObject k fs
  | _, none => .ok

end CsiOperator.ResourceKind
