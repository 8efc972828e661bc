import AddressBinder.Config.Basic
import AddressBinder.Json.Record
import AddressBinder.Json.Reader
/-!
# The written form of a configuration

`toJson` writes every setting; `ofJson?` takes the default for a setting that is left out, so a partial document, or an
empty object, is a configuration.
-/
namespace AddressBinder

open Json (Record)

/-- The largest integer that a setting can have. -/
def settingLimit : Nat := 0xffffffffffffffff

def portLimit : Nat := 0xffff

namespace Strategy

def toJson (s : Strategy) : Json := .ofString s.name

def ofJson? (v : Json) : Option Strategy :=
  match v.variant? with
  | some (name, none) => ofName? name
  | some (name, some .null) => ofName? name
  | _ => none

end Strategy

namespace DnsSettings

def toJson (s : DnsSettings) : Json :=
  .object [("domain", .ofString s.domain), ("port", .ofNat s.port), ("context", .ofString s.context)]

def ofJson? (v : Json) : Option DnsSettings := do
  let r ← Record.ofJson? ["domain", "port", "context"] v
  let domain ← r.required "domain" Json.text?
  return ⟨domain, ← r.withDefault "port" (Json.natUpTo? portLimit) (forDomain domain).port,
    ← r.withDefault "context" Json.text? (forDomain domain).context⟩

end DnsSettings

namespace DiscoverySettings

/-- Reads a map from zones to lists; of a repeated zone the last list stays. -/
def zones? (v : Json) : Option (TextMap (List String)) := (v.entries? (Json.list? Json.text?)).map TextMap.ofList

def toJson (s : DiscoverySettings) : Json :=
  .object [("should_use_dns_for_fetching_service_urls", .bool s.useDns),
    ("service_urls", .object (s.serviceUrls.entries.map (fun e => (e.1, .ofList .ofString e.2)))),
    ("dns", .ofOption DnsSettings.toJson s.dns)]

def ofJson? (v : Json) : Option DiscoverySettings := do
  let r ← Record.ofJson? ["should_use_dns_for_fetching_service_urls", "service_urls", "dns"] v
  return ⟨← r.withDefault "should_use_dns_for_fetching_service_urls" Json.bool? default.useDns,
    ← r.withDefault "service_urls" zones? default.serviceUrls,
    ← r.withDefault "dns" (Json.nullable? DnsSettings.ofJson?) default.dns⟩

end DiscoverySettings

namespace Account

def toJson (a : Account) : Json :=
  .object [("access_id", .ofOption .ofString a.accessId), ("secret_key", .ofOption .ofString a.secretKey),
    ("region", .ofOption .ofString a.region)]

def ofJson? (v : Json) : Option Account := do
  let r ← Record.ofJson? ["access_id", "secret_key", "region"] v
  return ⟨← r.withDefault "access_id" (Json.nullable? Json.text?) none,
    ← r.withDefault "secret_key" (Json.nullable? Json.text?) none,
    ← r.withDefault "region" (Json.nullable? Json.text?) none⟩

end Account

namespace Config

def fieldNames : List String :=
  ["binding_strategy", "bind_rebind_retries", "binding_retry_interval_ms", "binding_retry_interval_when_unbound_ms",
    "retry_sleep_ms", "event_channel_capacity", "discovery", "aws"]

def toJson (c : Config) : Json :=
  .object [("binding_strategy", c.strategy.toJson), ("bind_rebind_retries", .ofNat c.retries),
    ("binding_retry_interval_ms", .ofNat c.boundInterval),
    ("binding_retry_interval_when_unbound_ms", .ofNat c.unboundInterval), ("retry_sleep_ms", .ofNat c.retrySleep),
    ("event_channel_capacity", .ofNat c.eventCapacity), ("discovery", c.discovery.toJson), ("aws", c.account.toJson)]

def ofJson? (v : Json) : Option Config := do
  let r ← Record.ofJson? fieldNames v
  let setting (name : String) (default : Nat) := r.withDefault name (Json.natUpTo? settingLimit) default
  return ⟨← r.withDefault "binding_strategy" Strategy.ofJson? default.strategy,
    ← setting "bind_rebind_retries" default.retries,
    ← setting "binding_retry_interval_ms" default.boundInterval,
    ← setting "binding_retry_interval_when_unbound_ms" default.unboundInterval,
    ← setting "retry_sleep_ms" default.retrySleep,
    ← setting "event_channel_capacity" default.eventCapacity,
    ← r.withDefault "discovery" DiscoverySettings.ofJson? default.discovery,
    ← r.withDefault "aws" Account.ofJson? default.account⟩

def ofText (text : String) : Except Error Config :=
  match Json.ofText? text with
  | none => .error (.json Json.unreadable)
  | some v =>
    match ofJson? v with
    | none => .error (.json Json.unreadable)
    | some c => .ok c

end Config
end AddressBinder
