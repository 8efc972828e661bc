import AddressBinder.Cloud.Instance
import AddressBinder.Error
import AddressBinder.Http.Exchange
import AddressBinder.Http.Status
/-!
# The metadata service

An instance learns its id and its zone from a service at a link-local address.  A session token is asked for first;
without one the reads go out bare.
-/
namespace AddressBinder
namespace Http
namespace Metadata

def defaultBase : String := "http://169.254.169.254"

def tokenPath : String := "/latest/api/token"

/-- Where the id of the instance is read. -/
def instanceIdPath : String := "/latest/meta-data/instance-id"

/-- Where the zone of the instance is read. -/
def zonePath : String := "/latest/meta-data/placement/availability-zone"

def tokenLifetime : Nat := 21600

/-- The URL of a path under a base, whose slashes at the end do not count. -/
def url (base path : String) : String := String.ofList (Text.dropTrailing (· == '/') base.toList) ++ path

/-- The value in a body: its first line, trimmed. -/
def value (path body : String) : Except Error String :=
  let line := Text.trim (body.toList.takeWhile (· != '\n'))
  if line.isEmpty then .error (.identity ("Metadata " ++ path ++ " is empty")) else .ok (String.ofList line)

/-- The token in a response, if there is one. -/
def tokenOf : Except String Response → Option String
  | .error _ => none
  | .ok r =>
    let token := Text.trim r.body.toList
    if isSuccess r.status && !token.isEmpty then some (String.ofList token) else none

def sessionToken (base : String) : Program client (Option String) :=
  (Program.request (σ := client)
    ⟨.put, url base tokenPath, [(.tokenLifetime, String.ofList (Text.numeral tokenLifetime))]⟩).bind fun r =>
      .done (tokenOf r)

def tokenHeader : Option String → List (Header × String)
  | none => []
  | some token => [(.token, token)]

def valueOf (path : String) : Except String Response → Except Error String
  | .error reason => .error (.identity ("Metadata request for " ++ path ++ " failed: " ++ reason))
  | .ok r =>
    if isSuccess r.status then value path r.body
    else .error (.identity ("Metadata request for " ++ path ++ " returned " ++ showStatus r.status))

def read (base path : String) (token : Option String) : Program client (Except Error String) :=
  (Program.request (σ := client) ⟨.get, url base path, tokenHeader token⟩).bind fun r => .done (valueOf path r)

/-- The metadata of the instance, from the service at `base`. -/
def metadata (base : String) : Program client (Except Error InstanceMetadata) :=
  (sessionToken base).bind fun token =>
    (read base instanceIdPath token).bind fun
      | .error e => .done (.error e)
      | .ok instanceId =>
        (read base zonePath token).bind fun
          | .error e => .done (.error e)
          | .ok zone => .done (.ok ⟨instanceId, zone⟩)

end Metadata
end Http
end AddressBinder
