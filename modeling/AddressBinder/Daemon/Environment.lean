import AddressBinder.Config.Basic
/-!
# The environment

The daemon is configured by environment variables.  A value counts trimmed, and a blank one counts as unset.  A typed
value is read strictly, and a value that cannot be read is reported with the name of its variable.
-/
namespace AddressBinder
namespace Daemon

/-- The variables that are set, with their values. -/
abbrev Environment := List (String × String)

/-- The names of the variables that the daemon reads. -/
def variableNames : List String :=
  ["ENIBIND_INSTANCE_ID", "ENIBIND_AVAILABILITY_ZONE", "ENIBIND_IMDS_URL", "ENIBIND_SERVICE_URLS", "ENIBIND_USE_DNS",
    "ENIBIND_DNS_DOMAIN", "ENIBIND_DNS_PORT", "ENIBIND_DNS_CONTEXT", "ENIBIND_DOH_ENDPOINT",
    "ENIBIND_CLOUD_BACKEND", "ENIBIND_SUBNET_ID", "ENIBIND_REGION", "ENIBIND_ACCESS_ID", "ENIBIND_SECRET_KEY",
    "ENIBIND_BINDING_STRATEGY", "ENIBIND_BIND_RETRIES", "ENIBIND_BOUND_INTERVAL_MS",
    "ENIBIND_UNBOUND_INTERVAL_MS", "ENIBIND_RETRY_SLEEP_MS", "ENIBIND_SHUTDOWN_TIMEOUT_SECS", "ENIBIND_LOG_LEVEL"]

/-- The value of a variable, trimmed, if it is set and not blank. -/
def Environment.get? (env : Environment) (name : String) : Option String :=
  match env.lookup name with
  | none => none
  | some value =>
    if (Text.trim value.toList).isEmpty then none else some (String.ofList (Text.trim value.toList))

/-- A value that cannot be read. -/
structure Unreadable where
  name : String
  value : String
  reason : String
deriving DecidableEq, Inhabited

def Unreadable.message (u : Unreadable) : String :=
  u.name ++ " has an invalid value '" ++ u.value ++ "': " ++ u.reason

/-- The value of a typed variable, read by `read`, if it is set and not blank. -/
def Environment.typed? {α : Type} (env : Environment) (name : String) (read : String → Except String α) :
    Except Unreadable (Option α) :=
  match env.get? name with
  | none => .ok none
  | some value =>
    match read value with
    | .ok a => .ok (some a)
    | .error reason => .error ⟨name, value, reason⟩

/-! ## Typed values -/

def readBool : String → Except String Bool
  | "true" => .ok true
  | "false" => .ok false
  | _ => .error "provided string was not \x60true\x60 or \x60false\x60"

/-- Reads digits after the value `n`, up to `limit`; the first character that goes wrong decides the reason. -/
def readDigits (limit : Nat) (n : Nat) : List Char → Except String Nat
  | [] => .ok n
  | c :: cs =>
    match Text.digit? c with
    | none => .error "invalid digit found in string"
    | some d =>
      if 10 * n + d ≤ limit then readDigits limit (10 * n + d) cs
      else .error "number too large to fit in target type"

/-- Reads a number of at most `limit`: digits, with a plus sign before them or not. -/
def readNat (limit : Nat) (s : String) : Except String Nat :=
  match s.toList with
  | [] => .error "cannot parse integer from empty string"
  | '+' :: c :: cs => readDigits limit 0 (c :: cs)
  | cs => readDigits limit 0 cs

def readStrategy (s : String) : Except String Strategy :=
  match Strategy.ofString s with
  | .ok strategy => .ok strategy
  | .error e => .error e.message

/-! ## Service URLs -/

/-- Whether a text holds the mark between a scheme and the rest of a URL. -/
def hasScheme (cs : List Char) : Bool := (Text.after "://".toList cs).isSome

/-- The zone and the list in an entry; an equals sign counts only before any scheme. -/
def zoneAndList (entry : List Char) : String × List Char :=
  match Text.cut '=' entry with
  | some (zone, list) => if hasScheme zone then (defaultZone, entry) else (String.ofList (Text.trim zone), list)
  | none => (defaultZone, entry)

/-- The map with URLs put after those that a zone has. -/
def extend (urls : TextMap (List String)) (zone : String) (more : List String) : TextMap (List String) :=
  urls.insert zone ((urls.get? zone).getD [] ++ more)

/-- The map with the URLs of an entry. -/
def addEntry (urls : TextMap (List String)) (entry : List Char) : TextMap (List String) :=
  extend urls (zoneAndList entry).1 ((Text.items ',' (zoneAndList entry).2).map String.ofList)

/-- Reads entries such as `zone=url,url;zone=url`; an entry without a zone is one of the default zone. -/
def serviceUrls (raw : String) : TextMap (List String) := (Text.items ';' raw.toList).foldl addEntry TextMap.empty

end Daemon
end AddressBinder
