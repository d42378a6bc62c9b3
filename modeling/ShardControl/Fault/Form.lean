import ShardControl.Fault.Shutdown

/-!
# Written forms of faults

A fault is an object that names its kind.  One that wraps another fault holds
it as a member.
-/

namespace ShardControl

open Json

namespace SurfacedFault

def toJson : SurfacedFault → Json
  | unavailable message => .record [("kind", .text "unavailable"), ("message", .text message)]
  | wrappedClient inner => .record [("kind", .text "wrapped_client"), ("fault", inner.toJson)]
  | fault message remote retryable =>
      .record
        [("kind", .text "fault"), ("message", .text message), ("remote", .bool remote),
         ("retryable", .bool retryable)]
  | sessionAccess message =>
      .record [("kind", .text "session_access"), ("message", .text message)]
  | security message => .record [("kind", .text "security"), ("message", .text message)]
  | metadataNotFound message =>
      .record [("kind", .text "metadata_not_found"), ("message", .text message)]

def ofJson? : Json → Option SurfacedFault
  | .obj listed => do
      let message : Option String := read? (.obj listed) "message"
      match ← (read? (.obj listed) "kind" : Option String) with
      | "unavailable" => return .unavailable (← message)
      | "wrapped_client" => return .wrappedClient (← ofJson? (field (.obj listed) "fault"))
      | "fault" =>
          return .fault (← message) (← read? (.obj listed) "remote")
            (← read? (.obj listed) "retryable")
      | "session_access" => return .sessionAccess (← message)
      | "security" => return .security (← message)
      | "metadata_not_found" => return .metadataNotFound (← message)
      | _ => none
  | _ => none
termination_by value => sizeOf value
decreasing_by exact sizeOf_field_lt listed "fault"

instance : JsonForm SurfacedFault where
  toJson := toJson
  ofJson? := ofJson?

end SurfacedFault

namespace ServiceFault

def ofJson? : Json → Option ServiceFault
  | .obj listed => do
      let message : Option String := read? (.obj listed) "message"
      match ← (read? (.obj listed) "kind" : Option String) with
      | "surfaced" => return .surfaced (← read? (.obj listed) "fault")
      | "session_access" => return .sessionAccess (← message)
      | "security" => return .security (← message)
      | "metadata_not_found" => return .metadataNotFound (← message)
      | "client_access" => return .clientAccess (← read? (.obj listed) "cause")
      | "environment_retry" => return .environmentRetry (← message)
      | "query_runtime" => return .queryRuntime (← ofJson? (field (.obj listed) "cause"))
      | "table_version" => return .tableVersion (← message)
      | "environment_failure" =>
          return .environmentFailure (← message) (← read? (.obj listed) "corrupted")
      | "internal" => return .internal (← message)
      | _ => none
  | _ => none
termination_by value => sizeOf value
decreasing_by exact sizeOf_field_lt listed "cause"

instance : JsonInput ServiceFault := ⟨ofJson?⟩

end ServiceFault

instance : JsonForm ExitPolicy where
  toJson policy := .text policy.name
  ofJson? value := (choice? value).bind ExitPolicy.ofName?

instance : JsonForm ShutdownMode where
  toJson mode := .text mode.name
  ofJson? value := (choice? value).bind ShutdownMode.ofName?

end ShardControl
