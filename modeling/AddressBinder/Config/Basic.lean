import AddressBinder.Config.Account
import AddressBinder.Text.Split
import AddressBinder.TextMap
import AddressBinder.Error
/-!
# The binder's configuration

Settings with their defaults, and the checks a configuration has to pass before a binder is made from it.  A check
that fails is a `Config.Fault`; `Config.validate` reports the first in the order of its checks.
-/
namespace AddressBinder

/-- How an instance gets its stable address. -/
inductive Strategy where
  /-- An elastic address is associated. -/
  | eip
  /-- A name record is taken over. -/
  | route53
  /-- A secondary network interface is attached. -/
  | eni
deriving DecidableEq, Inhabited

namespace Strategy

def name : Strategy → String
  | .eip => "eip"
  | .route53 => "route53"
  | .eni => "eni"

def ofName? : String → Option Strategy
  | "eip" => some .eip
  | "route53" => some .route53
  | "eni" => some .eni
  | _ => none

/-- The text by which a strategy is looked up: trimmed, ASCII capitals made small. -/
def nameKey (s : String) : String := String.ofList ((Text.trim s.toList).map Text.asciiLower)

def ofString (s : String) : Except Error Strategy :=
  match ofName? (nameKey s) with
  | some strategy => .ok strategy
  | none => .error (.config ("Unknown binding strategy '" ++ nameKey s ++ "'. Valid: eip, route53, eni"))

end Strategy

/-- The settings of discovery through name-service records. -/
structure DnsSettings where
  domain : String
  port : Nat
  context : String
deriving DecidableEq, Inhabited

/-- Settings for a domain with the usual port and path. -/
def DnsSettings.forDomain (domain : String) : DnsSettings := ⟨domain, 8080, "eureka/v2"⟩

/-- The zone whose URLs hold for every zone without a list of its own. -/
def defaultZone : String := "defaultZone"

structure DiscoverySettings where
  /-- Whether the URLs come from name-service records. -/
  useDns : Bool
  /-- The URLs written down per zone, in priority order; an entry may hold several with commas between them. -/
  serviceUrls : TextMap (List String)
  dns : Option DnsSettings
deriving DecidableEq, Inhabited

namespace DiscoverySettings

def default : DiscoverySettings := ⟨false, TextMap.empty, none⟩

/-- The URLs in a list of entries: split at commas, trimmed, empty ones dropped. -/
def normalise (entries : List String) : List String :=
  entries.flatMap (fun entry => (Text.items ',' entry.toList).map String.ofList)

/-- The settings with the URLs of a zone put in. -/
def withServiceUrls (s : DiscoverySettings) (zone : String) (entries : List String) : DiscoverySettings :=
  { s with serviceUrls := s.serviceUrls.insert zone (normalise entries) }

end DiscoverySettings

/-- The configuration of a binder; times are in milliseconds. -/
structure Config where
  strategy : Strategy
  /-- The number of attempts of the startup bind and of the shutdown unbind. -/
  retries : Nat
  /-- The time between passes while bound. -/
  boundInterval : Nat
  /-- The time between passes while unbound. -/
  unboundInterval : Nat
  /-- The time between failed attempts. -/
  retrySleep : Nat
  /-- How many events wait for a reader before further ones are dropped. -/
  eventCapacity : Nat
  discovery : DiscoverySettings
  account : Account
deriving DecidableEq, Inhabited

namespace Config

def default : Config := ⟨.eni, 3, 300000, 60000, 1000, 256, DiscoverySettings.default, Account.default⟩

/-- Why a configuration is not acceptable. -/
inductive Fault where
  | strategy (s : Strategy)
  | zeroBoundInterval
  | zeroUnboundInterval
  | zeroEventCapacity
  | noDnsDomain
  | noServiceUrls
  | halfCredentials
deriving DecidableEq, Inhabited

def Fault.reason : Fault → String
  | .strategy s => "Binding strategy '" ++ s.name ++ "' is not handled by the ENI binder"
  | .zeroBoundInterval => "Binding retry interval must be > 0"
  | .zeroUnboundInterval => "Binding retry interval when unbound must be > 0"
  | .zeroEventCapacity => "Event channel capacity must be > 0"
  | .noDnsDomain => "DNS discovery enabled but no DNS domain configured"
  | .noServiceUrls => "Static discovery selected but no service URLs configured"
  | .halfCredentials => "AWS access id and secret key must be set together"

def Fault.error (f : Fault) : Error := .config f.reason

def hasDomain : Option DnsSettings → Bool
  | some dns => !(Text.trim dns.domain.toList).isEmpty
  | none => false

def validateDiscovery (s : DiscoverySettings) : Except Fault Unit :=
  if s.useDns then
    if hasDomain s.dns then .ok () else .error .noDnsDomain
  else if s.serviceUrls.values.all List.isEmpty then .error .noServiceUrls
  else .ok ()

def validateAccount (a : Account) : Except Fault Unit :=
  if a.isPaired then .ok () else .error .halfCredentials

def validate (c : Config) : Except Fault Unit :=
  if c.strategy ≠ .eni then .error (.strategy c.strategy)
  else if c.boundInterval = 0 then .error .zeroBoundInterval
  else if c.unboundInterval = 0 then .error .zeroUnboundInterval
  else if c.eventCapacity = 0 then .error .zeroEventCapacity
  else
    match validateDiscovery c.discovery with
    | .error f => .error f
    | .ok () => validateAccount c.account

end Config
end AddressBinder
