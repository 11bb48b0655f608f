import JsonRpc.Observability.Filter
import JsonRpc.Uri
/-!
# Observability

A program that wants to be observed says under which name, where its reports
go, and which of traces, metrics and logs it reports.  What it does not say is
taken from its environment.

Starting checks the settings in the order traces, metrics, logs, and stops at
the first that is wrong.  Traces and metrics are sent as they are: whoever asks
for compression is refused.  A program has one subscriber for its traces and
logs; one that is being observed already cannot install another.
-/

namespace JsonRpc.Observability

abbrev Environment := List (String × String)

/-- What a program says about its being observed. -/
structure Config where
  serviceName : String
  serviceVersion : String
  endpoint : String
  traces : Bool
  metrics : Bool
  logs : Bool
  logLevel : String
  deriving DecidableEq, Repr

def version : String := "0.1.0"

inductive Setting where
  | endpoint (url : String)
  | logLevel (filter : String)
  | serviceVersion (version : String)
  | traces (on : Bool)
  | metrics (on : Bool)
  | logs (on : Bool)
  deriving DecidableEq, Repr

namespace Config

def ofEnvironment (env : Environment) : Config where
  serviceName := (env.lookup "OTEL_SERVICE_NAME").getD "jrmt"
  serviceVersion := version
  endpoint := (env.lookup "OTEL_EXPORTER_OTLP_ENDPOINT").getD "http://localhost:4317"
  traces := true
  metrics := true
  logs := true
  logLevel := (env.lookup "RUST_LOG").getD "info"

def named (env : Environment) (name : String) : Config :=
  { ofEnvironment env with serviceName := name }

def set (config : Config) : Setting → Config
  | .endpoint url => { config with endpoint := url }
  | .logLevel filter => { config with logLevel := filter }
  | .serviceVersion version => { config with serviceVersion := version }
  | .traces on => { config with traces := on }
  | .metrics on => { config with metrics := on }
  | .logs on => { config with logs := on }

def setAll (config : Config) (settings : List Setting) : Config := settings.foldl set config

end Config

/-- What is exported to a collector, and so may be compressed. -/
inductive Signal where
  | traces
  | metrics
  deriving DecidableEq, Repr

def Signal.compressionVariable : Signal → String
  | traces => "OTEL_EXPORTER_OTLP_TRACES_COMPRESSION"
  | metrics => "OTEL_EXPORTER_OTLP_METRICS_COMPRESSION"

inductive StartFault where
  /-- An algorithm is known, but this library is built without it. -/
  | missingCompression (algorithm : String)
  | unknownCompression (algorithm : String)
  | endpoint (url : String) (fault : UriFault)
  | filter (fault : Filter.Fault)
  | alreadyObserved
  deriving DecidableEq, Repr

def StartFault.message : StartFault → String
  | .missingCompression algorithm =>
    "feature '" ++ algorithm ++ "-tonic' is required to use the compression algorithm '" ++
      algorithm ++ "'"
  | .unknownCompression algorithm => "unsupported compression algorithm '" ++ algorithm ++ "'"
  | .endpoint url fault => "invalid URI " ++ url ++ ". Reason " ++ fault.message
  | .filter fault => fault.message
  | .alreadyObserved => "a global default trace dispatcher has already been set"

/-- Checks that no compression is asked for, neither for a signal nor for all. -/
def checkCompression (env : Environment) (signal : Signal) : Except StartFault Unit :=
  match env.lookup signal.compressionVariable <|> env.lookup "OTEL_EXPORTER_OTLP_COMPRESSION" with
  | none => .ok ()
  | some algorithm =>
    if ["gzip", "zstd"].contains algorithm then .error (.missingCompression algorithm)
    else .error (.unknownCompression algorithm)

def checkExport (env : Environment) (url : String) (signal : Signal) : Except StartFault Unit := do
  checkCompression env signal
  discard <| (Uri.parse url).mapError (.endpoint url)

/-- Checks that a log filter is at hand: that of the environment, if it is one, or that of the
configuration. -/
def checkFilter (env : Environment) (config : Config) : Except StartFault Unit :=
  match (env.lookup "RUST_LOG").map Filter.check with
  | some (.ok _) => .ok ()
  | _ => (Filter.check config.logLevel).mapError .filter

def Config.subscribes (config : Config) : Bool := config.logs || config.traces

def checkSettings (env : Environment) (config : Config) : Except StartFault Unit := do
  if config.traces then checkExport env config.endpoint .traces
  if config.metrics then checkExport env config.endpoint .metrics
  if config.subscribes then checkFilter env config

/-- Starts reporting in a program that has a subscriber already, or none yet.  Returned is whether
it has one from then on. -/
def startFrom (subscribed : Bool) (env : Environment) (config : Config) :
    Except StartFault Bool := do
  checkSettings env config
  if subscribed && config.subscribes then .error .alreadyObserved
  else .ok (subscribed || config.subscribes)

/-- Starts reporting in a program that is being observed already. -/
def start (env : Environment) (config : Config) : Except StartFault Unit :=
  discard (startFrom true env config)

end JsonRpc.Observability
