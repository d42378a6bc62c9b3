/-!
# Faults

A hosted service raises faults of many kinds.  A caller sees only a surfaced
fault, which says no more than that caller may know.
-/

namespace ShardControl

inductive SurfacedFault where
  | unavailable (message : String)
  | wrappedClient (inner : SurfacedFault)
  | fault (message : String) (remote retryable : Bool)
  | sessionAccess (message : String)
  | security (message : String)
  | metadataNotFound (message : String)
  deriving DecidableEq

namespace SurfacedFault

def text : SurfacedFault → String
  | unavailable message => "node unavailable: " ++ message
  | wrappedClient inner => "client fault: " ++ inner.text
  | fault message _ _ => message
  | sessionAccess message => "session access denied: " ++ message
  | security message => "security fault: " ++ message
  | metadataNotFound message => "metadata not found: " ++ message

def isRetryable : SurfacedFault → Bool
  | unavailable _ => true
  | wrappedClient inner => inner.isRetryable
  | fault _ _ retryable => retryable
  | sessionAccess _ | security _ | metadataNotFound _ => false

end SurfacedFault

inductive ServiceFault where
  | surfaced (fault : SurfacedFault)
  | sessionAccess (message : String)
  | security (message : String)
  | metadataNotFound (message : String)
  | clientAccess (cause : SurfacedFault)
  | environmentRetry (message : String)
  | queryRuntime (cause : ServiceFault)
  | tableVersion (message : String)
  | environmentFailure (message : String) (corrupted : Bool)
  | internal (message : String)
  deriving DecidableEq

namespace ServiceFault

def text : ServiceFault → String
  | surfaced fault => fault.text
  | sessionAccess message => "session access fault: " ++ message
  | security message => "security fault: " ++ message
  | metadataNotFound message => "metadata not found: " ++ message
  | clientAccess cause => "client access fault: " ++ cause.text
  | environmentRetry message => "environment failure, retry elsewhere: " ++ message
  | queryRuntime cause => "query runtime fault: " ++ cause.text
  | tableVersion message => "table version mismatch: " ++ message
  | environmentFailure message corrupted =>
      "environment failure (corrupted=" ++ (if corrupted then "true" else "false") ++ "): " ++
        message
  | internal message => "internal fault: " ++ message

def kind : ServiceFault → String
  | surfaced _ => "surfaced"
  | sessionAccess _ => "session_access"
  | security _ => "security"
  | metadataNotFound _ => "metadata_not_found"
  | clientAccess _ => "client_access"
  | environmentRetry _ => "environment_retry"
  | queryRuntime _ => "query_runtime"
  | tableVersion _ => "table_version"
  | environmentFailure _ _ => "environment_failure"
  | internal _ => "internal"

end ServiceFault

end ShardControl
