import ActivityLog.Descriptor.Reference
import ActivityLog.Descriptor

/-!
# The built-in fields

The fields that are recorded when nothing else is configured, and the functions behind them, under the names by which
configuration documents refer to them.
-/

namespace ActivityLog.Builtin

/-- The module of the built-in functions. -/
def moduleName : String := "netlog.config.fields"

/-- The name of a built-in function. -/
def name : Builtin → String
  | .timestamp => "_timestamp"
  | .newCorrelationId => "new_correlation_id"
  | .receivedAt => "received_at"
  | .sentAt => "sent_at"
  | .responseTime => "response_time_ms"
  | .clientHost => "client_host"
  | .clientPort => "client_port"
  | .httpProtocol => "http_protocol"
  | .requestPath => "request_path"

/-- All built-in functions. -/
def all : List Builtin :=
  [.timestamp, .newCorrelationId, .receivedAt, .sentAt, .responseTime, .clientHost, .clientPort, .httpProtocol,
    .requestPath]

/-- A built-in function as a field function. -/
def toFunction (f : Builtin) : FieldFunction := .named ⟨moduleName, f.name⟩ (.builtin f)

/-- The built-in functions as members of their module. -/
def members : List (String × Member) := all.map fun f => (f.name, .ofFunction f.toFunction)

/-- A field with a fixed value. -/
def fixed (name : String) (value : Value) : Descriptor := { name, source := .fixed value }

/-- A mandatory field from a header. -/
def fromHeader (name header : String) (default : Value) : Descriptor :=
  { name, source := .header header, mandatory := true, default }

/-- A field that a function computes from the request. -/
def computed (name : String) (f : Builtin) : Descriptor :=
  { name, source := .special, fallback := some f.toFunction }

/-- The fields of a request's arrival. -/
def preFields (componentName layer : Value) : List Descriptor :=
  [fixed "type" (.text "request"), fixed "component_type" (.text "application"),
    fixed "component_name" componentName, fixed "layer" layer, fixed "direction" (.text "IN"),
    { name := "correlation_id", source := .header "x-correlation-id", mandatory := true,
      fallback := some newCorrelationId.toFunction },
    { name := "request_id", source := .header "x-request-id" },
    { name := "request_received_at", source := .time (some receivedAt.toFunction) none },
    { name := "method", source := .field "method", mandatory := true, default := .text "-" },
    computed "request" .requestPath, computed "protocol" .httpProtocol, computed "remote_ip" .clientHost,
    { name := "remote_host", source := .self "remote_ip" }, computed "remote_port" .clientPort,
    fromHeader "request_size_b" "content-length" (.int (-1)), fromHeader "referer" "referer" (.text "-"),
    fromHeader "x_forwarded_for" "x-forwarded-for" (.text "-")]

/-- The fields of a response's completion. -/
def postFields : List Descriptor :=
  [{ name := "response_sent_at", source := .time none (some sentAt.toFunction) },
    { name := "response_time_ms", source := .time none (some responseTime.toFunction), mandatory := true,
      default := .int (-1) },
    { name := "response_status", source := .field "status_code", mandatory := true, default := .int (-1) },
    fromHeader "response_content_type" "content-type" (.text "-"),
    fromHeader "response_size_b" "content-length" (.int (-1)),
    { name := "written_at", source := .self "response_sent_at" }]

/-- The built-in field configuration. -/
def fieldConfig (componentName : Value := .text "netlog") (layer : Value := .text "[PY] NET") : FieldConfig :=
  ⟨preFields componentName layer, postFields⟩

end ActivityLog.Builtin
