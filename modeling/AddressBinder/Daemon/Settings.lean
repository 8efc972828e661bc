import AddressBinder.Config.Codec
import AddressBinder.Daemon.Environment
import AddressBinder.Text.Case
/-!
# The daemon's settings

What the environment says, the checks of the daemon itself, and the binder's configuration that follows.
-/
namespace AddressBinder
namespace Daemon

/-- The settings of the daemon; what is missing was not set. -/
structure Settings where
  instanceId : Option String
  availabilityZone : Option String
  metadataUrl : Option String
  serviceUrls : TextMap (List String)
  useDns : Bool
  dnsDomain : Option String
  dnsPort : Option Nat
  dnsContext : Option String
  resolverEndpoint : Option String
  cloudBackend : String
  subnetId : String
  region : Option String
  accessId : Option String
  secretKey : Option String
  strategy : Option Strategy
  retries : Option Nat
  boundInterval : Option Nat
  unboundInterval : Option Nat
  retrySleep : Option Nat
  /-- How long shutdown may take, in seconds. -/
  shutdownTimeout : Nat
  logLevel : String
deriving DecidableEq, Inhabited

inductive LogLevel where
  | trace
  | debug
  | info
  | warn
  | error
deriving DecidableEq, Inhabited

def LogLevel.name : LogLevel → String
  | .trace => "TRACE"
  | .debug => "DEBUG"
  | .info => "INFO"
  | .warn => "WARN"
  | .error => "ERROR"

/-- The level with a name in lower case. -/
def LogLevel.ofName? : String → Option LogLevel
  | "trace" => some .trace
  | "debug" => some .debug
  | "info" => some .info
  | "warn" => some .warn
  | "error" => some .error
  | _ => none

/-- Why the daemon does not start. -/
inductive Fault where
  | unreadable (u : Unreadable)
  /-- Only one of the two parts of a fixed identity is set. -/
  | halfIdentity
  | noResolverEndpoint
  | ec2Backend
  | unknownBackend (name : String)
  | retries (n : Nat)
  | retrySleep (ms : Nat)
  | shutdownTimeout (seconds : Nat)
  | logLevel (text : String)
  | binderConfig (fault : Config.Fault)
deriving DecidableEq, Inhabited

def showNat (n : Nat) : String := String.ofList (Text.numeral n)

/-- What the daemon says about the binder's configuration before the cause. -/
def binderConfigContext : String := "Invalid binder configuration"

def Fault.message : Fault → String
  | .unreadable u => u.message
  | .halfIdentity => "ENIBIND_INSTANCE_ID and ENIBIND_AVAILABILITY_ZONE must be set together"
  | .noResolverEndpoint =>
    "ENIBIND_USE_DNS requires ENIBIND_DOH_ENDPOINT, a resolver that can see the discovery records"
  | .ec2Backend =>
    "ENIBIND_CLOUD_BACKEND 'ec2' needs a cloud client supplied by the embedding application; " ++
      "the daemon ships only the simulated backend"
  | .unknownBackend name =>
    "ENIBIND_CLOUD_BACKEND '" ++ name ++ "' is not supported. Supported backends: simulated"
  | .retries n => "ENIBIND_BIND_RETRIES must be between 1 and 10. Got: " ++ showNat n
  | .retrySleep ms => "ENIBIND_RETRY_SLEEP_MS must be between 100 and 60000. Got: " ++ showNat ms
  | .shutdownTimeout seconds => "ENIBIND_SHUTDOWN_TIMEOUT_SECS must be between 1 and 600. Got: " ++ showNat seconds
  | .logLevel text =>
    "ENIBIND_LOG_LEVEL '" ++ text ++ "' is not valid. Valid levels: trace, debug, info, warn, error"
  | .binderConfig fault => binderConfigContext ++ ": " ++ fault.error.message

namespace Settings

def load (env : Environment) : Except Unreadable Settings := do
  let useDns ← env.typed? "ENIBIND_USE_DNS" readBool
  let dnsPort ← env.typed? "ENIBIND_DNS_PORT" (readNat portLimit)
  let strategy ← env.typed? "ENIBIND_BINDING_STRATEGY" readStrategy
  let retries ← env.typed? "ENIBIND_BIND_RETRIES" (readNat settingLimit)
  let boundInterval ← env.typed? "ENIBIND_BOUND_INTERVAL_MS" (readNat settingLimit)
  let unboundInterval ← env.typed? "ENIBIND_UNBOUND_INTERVAL_MS" (readNat settingLimit)
  let retrySleep ← env.typed? "ENIBIND_RETRY_SLEEP_MS" (readNat settingLimit)
  let shutdownTimeout ← env.typed? "ENIBIND_SHUTDOWN_TIMEOUT_SECS" (readNat settingLimit)
  return {
    instanceId := env.get? "ENIBIND_INSTANCE_ID"
    availabilityZone := env.get? "ENIBIND_AVAILABILITY_ZONE"
    metadataUrl := env.get? "ENIBIND_IMDS_URL"
    serviceUrls := Daemon.serviceUrls ((env.get? "ENIBIND_SERVICE_URLS").getD "")
    useDns := useDns.getD false
    dnsDomain := env.get? "ENIBIND_DNS_DOMAIN"
    dnsPort
    dnsContext := env.get? "ENIBIND_DNS_CONTEXT"
    resolverEndpoint := env.get? "ENIBIND_DOH_ENDPOINT"
    cloudBackend := (env.get? "ENIBIND_CLOUD_BACKEND").getD "simulated"
    subnetId := (env.get? "ENIBIND_SUBNET_ID").getD "subnet-simulated"
    region := env.get? "ENIBIND_REGION"
    accessId := env.get? "ENIBIND_ACCESS_ID"
    secretKey := env.get? "ENIBIND_SECRET_KEY"
    strategy
    retries
    boundInterval
    unboundInterval
    retrySleep
    shutdownTimeout := shutdownTimeout.getD 30
    logLevel := (env.get? "ENIBIND_LOG_LEVEL").getD "info" }

/-- The level of logging, case ignored. -/
def level (s : Settings) : Except Fault LogLevel :=
  match LogLevel.ofName? (String.ofList (Text.lower s.logLevel.toList)) with
  | some level => .ok level
  | none => .error (.logLevel s.logLevel)

def checkBackend (s : Settings) : Except Fault Unit :=
  if s.cloudBackend = "simulated" then .ok ()
  else if s.cloudBackend = "ec2" then .error .ec2Backend
  else .error (.unknownBackend s.cloudBackend)

/-- Whether an optional number, if it is there, lies between two bounds. -/
def isWithin (low high : Nat) : Option Nat → Bool
  | none => true
  | some n => low ≤ n && n ≤ high

/-- Checks the settings of the daemon itself; the first check that fails is reported. -/
def validate (s : Settings) : Except Fault Unit := do
  if s.instanceId.isSome != s.availabilityZone.isSome then throw .halfIdentity
  if s.useDns && s.resolverEndpoint.isNone then throw .noResolverEndpoint
  s.checkBackend
  if !isWithin 1 10 s.retries then throw (.retries (s.retries.getD 0))
  if !isWithin 100 60000 s.retrySleep then throw (.retrySleep (s.retrySleep.getD 0))
  if !isWithin 1 600 (some s.shutdownTimeout) then throw (.shutdownTimeout s.shutdownTimeout)
  let _ ← s.level

/-- The settings of discovery through records, if there is a domain for them. -/
def dns (s : Settings) : Option DnsSettings :=
  match s.dnsDomain with
  | none => none
  | some domain =>
    let usual := DnsSettings.forDomain domain
    some ⟨domain, s.dnsPort.getD usual.port, s.dnsContext.getD usual.context⟩

def describedConfig (s : Settings) : Config :=
  { strategy := s.strategy.getD Config.default.strategy
    retries := s.retries.getD Config.default.retries
    boundInterval := s.boundInterval.getD Config.default.boundInterval
    unboundInterval := s.unboundInterval.getD Config.default.unboundInterval
    retrySleep := s.retrySleep.getD Config.default.retrySleep
    eventCapacity := Config.default.eventCapacity
    discovery := ⟨s.useDns, s.serviceUrls, s.dns⟩
    account := ⟨s.accessId, s.secretKey, s.region⟩ }

def binderConfig (s : Settings) : Except Fault Config :=
  match s.describedConfig.validate with
  | .error fault => .error (.binderConfig fault)
  | .ok () => .ok s.describedConfig

end Settings

/-! ## Starting up -/

/-- What keeps the daemon from starting, with what is said before the cause. -/
structure Refusal where
  stage : String
  fault : Fault
deriving DecidableEq, Inhabited

def Refusal.line (r : Refusal) : String := r.stage ++ ": " ++ r.fault.message

/-- How the process of the daemon ends. -/
inductive Exit where
  | clean
  /-- The environment was not accepted. -/
  | refused
  /-- An accepted environment led to no running daemon, or shutdown took too long. -/
  | failed
deriving DecidableEq, Inhabited

def Exit.status : Exit → Nat
  | .clean => 0
  | .refused => 1
  | .failed => 2

/-- The settings and the binder's configuration, if the environment is accepted. -/
def prepare (env : Environment) : Except Refusal (Settings × Config) :=
  match Settings.load env with
  | .error u => .error ⟨"Configuration error", .unreadable u⟩
  | .ok settings =>
    match settings.validate with
    | .error fault => .error ⟨"Configuration validation error", fault⟩
    | .ok () =>
      match settings.binderConfig with
      | .error fault => .error ⟨"Configuration validation error", fault⟩
      | .ok config => .ok (settings, config)

end Daemon
end AddressBinder
