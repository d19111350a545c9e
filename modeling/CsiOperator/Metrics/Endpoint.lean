import CsiOperator.Net.SocketAddr
import CsiOperator.Error
/-!
Where the metrics endpoint listens. An address is a socket address, or `:port` for every
interface of the host; anything else is refused as a configuration error.
-/

namespace CsiOperator.Metrics

/-- The address the metrics endpoint binds to, read from the operator's setting. -/
def bindAddress (text : String) : Except OperatorError Net.SocketAddr :=
  let full := if text.startsWith ":" then "0.0.0.0" ++ text else text
  match Net.SocketAddr.parse? full with
  | some a => .ok a
  | none => .error (.config ("Invalid metrics address " ++ text ++ ": invalid socket address syntax"))

/-- Whether an address is one of every host's own: the wildcard or the loopback address of
either family. -/
def ownAddress : Net.SocketAddr → Bool
  | .v4 os _ => os == [0, 0, 0, 0] || os.head? == some 127
  | .v6 gs _ _ => gs == List.replicate 8 0 || gs == List.replicate 7 0 ++ [1]

/-- How a failed bind of an address the host does not have is reported. -/
def unassignedText : String :=
  "IoError(Os \x7b code: 99, kind: AddrNotAvailable, message: \"Cannot assign requested address\" \x7d)"

end CsiOperator.Metrics
