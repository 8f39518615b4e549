/-
The configuration of a server, read from its environment.

Variables whose bytes are not UTF-8 count as unset.  Each setting depends on one
variable; the first variable that is set to something unreadable is the error.
-/

import WorkflowBus.Bus.Settings
import WorkflowBus.Text.Character
import WorkflowBus.Text.Decimal

namespace WorkflowBus

/-- Environment variables and the bytes that they are set to. -/
structure Environment where
  values : List (String × List UInt8)

namespace Environment

def get? (environment : Environment) (name : String) : Option String := do
  String.fromUTF8? (ByteArray.mk (← environment.values.lookup name).toArray)

end Environment

structure Configuration where
  databaseUrl : Option String
  databaseMaxConnections : Nat
  host : String
  port : Nat
  environment : String
  handlerTimeout : Option Duration
  strictWiring : Bool
  expectedEntries : Option Nat
  jsonLogs : Bool
deriving DecidableEq

inductive ConfigurationError where
  | invalidValue (name : String)
deriving DecidableEq

namespace ConfigurationError

def message : ConfigurationError → String
  | .invalidValue name => "Invalid value for environment variable: " ++ name

end ConfigurationError

namespace Configuration

def switch? : String → Option Bool
  | "true" => some true
  | "false" => some false
  | _ => none

def optional {α : Type} (environment : Environment) (name : String) (read? : String → Option α) :
    Except ConfigurationError (Option α) :=
  match environment.get? name with
  | none => .ok none
  | some text =>
      match read? text with
      | some value => .ok (some value)
      | none => .error (.invalidValue name)

def withDefault {α : Type} (environment : Environment) (name : String)
    (read? : String → Option α) (default : α) : Except ConfigurationError α :=
  match optional environment name read? with
  | .ok value => .ok (value.getD default)
  | .error error => .error error

/-- A number of milliseconds as a time limit; zero means that there is none. -/
def limitOf (milliseconds : Nat) : Option Duration :=
  if milliseconds = 0 then none else some ⟨milliseconds⟩

def ofEnvironment (environment : Environment) : Except ConfigurationError Configuration := do
  let databaseMaxConnections ←
    withDefault environment "DATABASE_MAX_CONNECTIONS" (Decimal.bounded? 4294967295) 10
  let port ← withDefault environment "PORT" (Decimal.bounded? 65535) 3000
  let timeout ← withDefault environment "EVENT_HANDLER_TIMEOUT_MS"
    (Decimal.bounded? 18446744073709551615) BusSettings.defaultTimeout.milliseconds
  let strictWiring ← withDefault environment "EVENT_BUS_STRICT_WIRING" switch? true
  let expectedEntries ←
    optional environment "EVENT_REGISTRY_EXPECTED_ENTRIES" (Decimal.bounded? 18446744073709551615)
  return {
    databaseUrl := (environment.get? "DATABASE_URL").filter fun url => !url.isEmpty
    databaseMaxConnections := databaseMaxConnections
    host := (environment.get? "HOST").getD "127.0.0.1"
    port := port
    environment := (environment.get? "ENVIRONMENT").getD "development"
    handlerTimeout := limitOf timeout
    strictWiring := strictWiring
    expectedEntries := expectedEntries
    jsonLogs := match environment.get? "LOG_FORMAT" with
      | some format => Casing.alike format.toList ['j', 's', 'o', 'n']
      | none => false }

def isProduction (configuration : Configuration) : Bool :=
  configuration.environment == "production"

def busSettings (configuration : Configuration) : BusSettings where
  handlerTimeout := configuration.handlerTimeout
  strictWiring := configuration.strictWiring
  expectedEntries := configuration.expectedEntries

def toJson (configuration : Configuration) : Json :=
  .obj [("database_url", .ofText? configuration.databaseUrl),
    ("database_max_connections", .ofCount configuration.databaseMaxConnections),
    ("host", .str configuration.host),
    ("port", .ofCount configuration.port),
    ("environment", .str configuration.environment),
    ("handler_timeout_ms",
      (configuration.handlerTimeout.map fun limit => .ofCount limit.milliseconds).getD .null),
    ("strict_wiring", .bool configuration.strictWiring),
    ("expected_registry_entries", (configuration.expectedEntries.map Json.ofCount).getD .null),
    ("json_logs", .bool configuration.jsonLogs),
    ("is_production", .bool configuration.isProduction),
    ("bus", configuration.busSettings.toJson)]

end Configuration
end WorkflowBus
