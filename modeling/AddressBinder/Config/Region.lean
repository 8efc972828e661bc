import AddressBinder.Text.Blank
import AddressBinder.Text.Case
/-!
# The region of a zone

A configured region wins, trimmed and in lower case.  Otherwise the zone names its region: `us-east-1a` is a zone of
`us-east-1`.
-/
namespace AddressBinder
namespace Region

/-- The zone's name, trimmed, without the letter at its end. -/
def ofZone (zone : List Char) : List Char :=
  match (Text.trim zone).getLast? with
  | none => []
  | some c => if Text.isAsciiLetter c then (Text.trim zone).dropLast else Text.trim zone

/-- The region for a zone, with the region that is configured, if one is. -/
def forZone (configured : Option (List Char)) (zone : List Char) : List Char :=
  match configured with
  | none => ofZone zone
  | some region => if (Text.trim region).isEmpty then ofZone zone else Text.lower (Text.trim region)

end Region
end AddressBinder
