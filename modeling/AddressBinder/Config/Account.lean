import AddressBinder.Config.Region
import AddressBinder.Text.Quoted
/-!
# The cloud account

Credentials and region for a cloud client.  The secret key is never shown: `Account.diagnostic` and
`Credentials.diagnostic` write a fixed mark in its place.
-/
namespace AddressBinder

/-- The account settings; a missing pair of keys stands for the credentials of the instance itself. -/
structure Account where
  accessId : Option String
  secretKey : Option String
  region : Option String
deriving DecidableEq, Inhabited

/-- The credentials that a cloud client is built with. -/
inductive Credentials where
  | keys (accessId secretKey : String)
  /-- The credentials that the instance has by itself. -/
  | instanceProfile
deriving DecidableEq, Inhabited

/-- What stands for a secret in a diagnostic. -/
def redacted : String := "<REDACTED>"

/-- An optional text in a diagnostic. -/
def showOption : Option String → String
  | none => "None"
  | some s => "Some(" ++ Text.quoted s ++ ")"

def Credentials.diagnostic : Credentials → String
  | .keys accessId _ =>
    "Static \x7b access_key_id: " ++ Text.quoted accessId ++ ", secret_access_key: " ++ Text.quoted redacted ++ " \x7d"
  | .instanceProfile => "InstanceProfile"

namespace Account

def default : Account := ⟨none, none, none⟩

def isSet : Option String → Bool
  | none => false
  | some s => !s.isEmpty

/-- Whether the two keys are given together or not at all. -/
def isPaired (a : Account) : Bool := isSet a.accessId == isSet a.secretKey

/-- The credentials: the pair of keys when both are there and not empty. -/
def credentials (a : Account) : Credentials :=
  match a.accessId, a.secretKey with
  | some id, some secret => if id.isEmpty || secret.isEmpty then .instanceProfile else .keys id secret
  | _, _ => .instanceProfile

/-- The region for calls made from a zone. -/
def regionForZone (a : Account) (zone : String) : String :=
  String.ofList (Region.forZone (a.region.map String.toList) zone.toList)

/-- The settings in a diagnostic. -/
def diagnostic (a : Account) : String :=
  "AwsConfig \x7b access_id: " ++ showOption a.accessId ++
    ", secret_key: " ++ showOption (a.secretKey.map (fun _ => redacted)) ++
    ", region: " ++ showOption a.region ++ " \x7d"

end Account
end AddressBinder
