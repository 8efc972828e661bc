import AddressBinder.Config.Basic
import AddressBinder.Candidate.Decode
import AddressBinder.Cloud.Provider
/-!
# Where service URLs come from

A source lists a zone's URLs in priority order: from the configuration, or from a chain of TXT records.  In the chain,
the record of the region names its zones, and the record of each zone with the right first label names its hosts.  A
lookup that fails ends the listing; there is never a part of a list.
-/
namespace AddressBinder

/-- The requests of a source: the TXT records of a name. -/
def lookup : Signature := ⟨String, fun _ => Except Error (List String)⟩

namespace Discovery

/-- A source of service URLs. -/
inductive Source where
  /-- The URLs written down per zone. -/
  | static (urls : TextMap (List String))
  /-- The chain of TXT records under a domain; the region may be given. -/
  | records (settings : DnsSettings) (region : Option String)
deriving DecidableEq, Inhabited

def Source.name : Source → String
  | .static _ => "static"
  | .records .. => "dns"

/-- Why there is no source for the settings. -/
inductive Fault where
  | noSettings
  | noResolver
deriving DecidableEq, Inhabited

def Fault.reason : Fault → String
  | .noSettings => "DNS discovery enabled but no DNS settings configured"
  | .noResolver => "DNS discovery enabled but no TXT resolver supplied"

def Fault.error (f : Fault) : Error := .config f.reason

/-- The source that the settings select; the chain of records needs a resolver. -/
def Source.ofSettings (s : DiscoverySettings) (region : Option String) (hasResolver : Bool) : Except Fault Source :=
  if s.useDns then
    match s.dns with
    | none => .error .noSettings
    | some settings => if hasResolver then .ok (.records settings region) else .error .noResolver
  else .ok (.static s.serviceUrls)

/-! ## URLs from the configuration -/

/-- The URLs of a key, none if it has no list. -/
def listed (urls : TextMap (List String)) (key : String) : List String :=
  match urls.get? key with
  | some entries => DiscoverySettings.normalise entries
  | none => []

/-- The URLs of a zone: its own list, or the default zone's list when its own is empty. -/
def staticUrls (urls : TextMap (List String)) (zone : String) : List String :=
  if (listed urls zone).isEmpty then listed urls defaultZone else listed urls zone

/-! ## URLs from TXT records -/

/-- The tokens of TXT records: their words without the double quotes around them, empty ones dropped. -/
def tokens (records : List String) : List (List Char) :=
  ((records.flatMap (fun r => Text.words r.toList)).map (Text.dropEnds (· == '"'))).filter (fun t => !t.isEmpty)

/-- The name of the record that lists a region's zones. -/
def regionRecord (settings : DnsSettings) (region : List Char) : String :=
  String.ofList ("txt.".toList ++ region ++ '.' :: Text.dropEnds (· == '.') settings.domain.toList)

/-- The name of the record that lists a zone's hosts. -/
def zoneRecord (zoneName : List Char) : String :=
  String.ofList ("txt.".toList ++ Text.dropTrailing (· == '.') zoneName)

/-- Whether the first label of a name is the zone, ASCII case ignored. -/
def namesZone (zone : List Char) (name : List Char) : Bool :=
  (name.takeWhile (· != '.')).map Text.asciiLower == zone.map Text.asciiLower

def serviceUrl (settings : DnsSettings) (host : List Char) : String :=
  let context := Text.dropEnds (· == '/') settings.context.toList
  String.ofList ("http://".toList ++ host ++ ':' :: Text.numeral settings.port ++ ['/'] ++
    (if context.isEmpty then [] else context ++ ['/']))

/-- The URLs of the hosts that the zones' records list, zone after zone. -/
def zoneUrls (settings : DnsSettings) : List (List Char) → Program lookup (Except Error (List String))
  | [] => .done (.ok [])
  | name :: names =>
    Program.andThen (Program.request (σ := lookup) (zoneRecord name)) fun records =>
      (zoneUrls settings names).andThen fun urls =>
        .done (.ok ((tokens records).map (serviceUrl settings) ++ urls))

/-- The URLs of a zone by the chain of records. -/
def recordUrls (settings : DnsSettings) (region : Option String) (zone : String) :
    Program lookup (Except Error (List String)) :=
  let regionName := Region.forZone (region.map String.toList) zone.toList
  Program.andThen (Program.request (σ := lookup) (regionRecord settings regionName)) fun records =>
    zoneUrls settings ((tokens records).filter (namesZone zone.toList))

/-! ## Either way -/

def Source.urls : Source → String → Program lookup (Except Error (List String))
  | .static urls, zone => .done (.ok (staticUrls urls zone))
  | .records settings region, zone => recordUrls settings region zone

def Source.candidates (s : Source) (zone : String) : Program lookup (Except Error Candidates) :=
  (s.urls zone).andThen fun urls => .done (Candidates.ofEntries zone urls)

end Discovery
end AddressBinder
