import CsiOperator.Text.Quoted
/-!
Why an operation of the operator fails. Each cause keeps the data its message is made from;
the wording lives in `message` alone. `retriable` and `notFound` classify failures for the
engines' error policy.
-/

namespace CsiOperator

/-- Why a request to the Kubernetes API failed. -/
inductive ApiFailure where
  /-- The server answered with a failure status. -/
  | status (status message reason : String) (code : Nat)
  /-- The request never reached a server: the connection could not be made. -/
  | unreachable
  /-- The server's answer could not be read. -/
  | undecodable (detail : String)
deriving DecidableEq, Repr, Inhabited

namespace ApiFailure

/-- How a failed request is described. -/
def message : ApiFailure → String
  | .status st msg reason code =>
    "ApiError: " ++ msg ++ ": " ++ reason ++ " (ErrorResponse \x7b status: " ++ Text.quoted st ++
      ", message: " ++ Text.quoted msg ++ ", reason: " ++ Text.quoted reason ++ ", code: " ++
      toString code ++ " \x7d)"
  | .unreachable => "ServiceError: client error (Connect)"
  | .undecodable detail => "Error deserializing response: " ++ detail

/-- How a failed request is described in full, as the client's debug form: the address of the
server is part of a connection failure. -/
def debugText (server : String) : ApiFailure → String
  | .status st msg reason code =>
    "Api(ErrorResponse \x7b status: " ++ Text.quoted st ++ ", message: " ++ Text.quoted msg ++
      ", reason: " ++ Text.quoted reason ++ ", code: " ++ toString code ++ " \x7d)"
  | .unreachable =>
    "Service(hyper_util::client::legacy::Error(Connect, ConnectError(\"tcp connect error\", " ++
      server ++ ", Os \x7b code: 101, kind: NetworkUnreachable, message: \"Network is unreachable\" \x7d)))"
  | .undecodable detail =>
    -- the reader's message ends in its position: "<what> at line <l> column <c>"
    match detail.splitOn " at line " with
    | [what, position] =>
      match position.splitOn " column " with
      | [line, column] =>
        "SerdeError(Error(" ++ Text.quoted what ++ ", line: " ++ line ++ ", column: " ++ column ++ "))"
      | _ => "SerdeError(Error(" ++ Text.quoted detail ++ "))"
    | _ => "SerdeError(Error(" ++ Text.quoted detail ++ "))"

/-- A failure status with the usual `Failure` status word. -/
def failure (message reason : String) (code : Nat) : ApiFailure :=
  .status "Failure" message reason code

/-- The status code of an answered request. -/
def code? : ApiFailure → Option Nat
  | .status _ _ _ code => some code
  | _ => none

end ApiFailure

/-- Why an operation of the operator failed. -/
inductive OperatorError where
  | api (failure : ApiFailure)
  | config (message : String)
  | unsupportedVersion (message : String)
  | unsupportedConfigVersion (message : String)
  | invalid (message : String)
  | sync (message : String)
  | status (message : String)
  | serialization (message : String)
  | yaml (message : String)
  | io (message : String)
deriving DecidableEq, Repr, Inhabited

namespace OperatorError

/-- How the failure is described to users. -/
def message : OperatorError → String
  | .api f => "Kubernetes API error: " ++ f.message
  | .config m => "Configuration error: " ++ m
  | .unsupportedVersion m | .unsupportedConfigVersion m | .invalid m | .sync m | .status m => m
  | .serialization m => "Serialization error: " ++ m
  | .yaml m => "YAML error: " ++ m
  | .io m => "IO error: " ++ m

/-- How the failure is described where the client's own error is shown bare: a failed
request without the operator's prefix. -/
def clientText : OperatorError → String
  | .api f => f.message
  | e => e.message

/-- The name of the failure's class, as answers report it. -/
def className : OperatorError → String
  | .api _ => "KubeError"
  | .config _ => "ConfigError"
  | .unsupportedVersion _ => "UnsupportedVersion"
  | .unsupportedConfigVersion _ => "UnsupportedDriverConfigVersion"
  | .invalid _ => "ValidationError"
  | .sync _ => "SyncError"
  | .status _ => "StatusError"
  | .serialization _ => "SerializationError"
  | .yaml _ => "YamlError"
  | .io _ => "IoError"

/-- The failure of a class with a message; a failed request is read as a failure status with
its reason and code. -/
def ofClass? (className message reason : String) (code : Nat) : Option OperatorError :=
  match className with
  | "KubeApi" => some (.api (.failure message reason code))
  | "ConfigError" => some (.config message)
  | "UnsupportedVersion" => some (.unsupportedVersion message)
  | "UnsupportedDriverConfigVersion" => some (.unsupportedConfigVersion message)
  | "ValidationError" => some (.invalid message)
  | "SyncError" => some (.sync message)
  | "StatusError" => some (.status message)
  | "SerializationError" => some (.serialization message)
  | "YamlError" => some (.yaml message)
  | "IoError" => some (.io message)
  | _ => none

/-- The label a failure is counted under in metrics. -/
def label : OperatorError → String
  | .api _ => "kube"
  | .config _ => "config"
  | .unsupportedVersion _ | .unsupportedConfigVersion _ => "version"
  | .invalid _ => "validation"
  | .sync _ => "sync"
  | .status _ => "status"
  | .serialization _ | .yaml _ => "serialization"
  | .io _ => "io"

/-- Whether trying again may help: server errors, conflicts, throttling, and failures that
never got an answer, plus sync, status and file failures. -/
def retriable : OperatorError → Bool
  | .api (.status _ _ _ code) => code ≥ 500 || code == 409 || code == 429
  | .api _ | .sync _ | .status _ | .io _ => true
  | _ => false

/-- Whether the API reported that the object does not exist. -/
def notFound : OperatorError → Bool
  | .api (.status _ _ _ 404) => true
  | _ => false

end OperatorError

/-- The result of an operation that may fail. -/
abbrev Outcome (α : Type) := Except OperatorError α

end CsiOperator
