import AddressBinder.Candidate.Basic
import AddressBinder.Net.Ipv6
import AddressBinder.Net.Host
import AddressBinder.Error
/-!
# From discovered entries to candidate addresses

The host of an entry is a literal IPv4 address or a cloud-internal name whose first label spells one, as in
`ip-10-0-1-4`.  Resolution is all or nothing: one entry that does not decode fails the whole list, so a typo never
silently shrinks the pool.
-/
namespace AddressBinder
namespace Candidate

/-- Why an entry names no candidate address. -/
inductive Fault where
  | noHost
  | ipv6Host
  /-- The host's first label has fewer than five parts between hyphens. -/
  | notInternal (host : List Char)
  /-- The second to fifth part of the first label are no octets. -/
  | notOctets (host dotted : List Char)
deriving DecidableEq

def Fault.reason : Fault → String
  | .noHost => "no host in URL"
  | .ipv6Host => "IPv6 hosts are not valid interface addresses"
  | .notInternal host => "Illegal internal hostname " ++ String.ofList host ++ ": expected ip-A-B-C-D"
  | .notOctets host dotted =>
    "Illegal internal hostname " ++ String.ofList host ++ " translated to '" ++ String.ofList dotted ++ "'"

/-- The address in a cloud-internal host name: the four parts after the first one of the first label.  What follows
the fourth octet is ignored. -/
def ofInternalName (host : List Char) : Except Fault Ipv4 :=
  match Text.splitAt '-' (host.takeWhile (· != '.')) with
  | _ :: a :: b :: c :: d :: _ =>
    match Ipv4.ofOctets? [a, b, c, d] with
    | some ip => .ok ip
    | none => .error (.notOctets host (Text.join ['.'] [a, b, c, d]))
  | _ => .error (.notInternal host)

def ofHost (host : List Char) : Except Fault Ipv4 :=
  match Ipv4.parse? host with
  | some ip => .ok ip
  | none => if Ipv6.isText host then .error .ipv6Host else ofInternalName host

def ofEntry (entry : List Char) : Except Fault Ipv4 :=
  match Host.ofEntry entry with
  | none => .error .noHost
  | some host => ofHost host

def decode (entry : String) : Except Error Ipv4 :=
  match ofEntry entry.toList with
  | .ok ip => .ok ip
  | .error fault => .error (.malformedCandidate entry fault.reason)

/-- Decodes the entries in order, up to the first that does not decode. -/
def decodeAll : List String → Except Error (List Ipv4)
  | [] => .ok []
  | entry :: entries =>
    match decode entry with
    | .error e => .error e
    | .ok ip =>
      match decodeAll entries with
      | .error e => .error e
      | .ok ips => .ok (ip :: ips)

end Candidate

/-- The candidates that a zone's discovered entries name, in their order. -/
def Candidates.ofEntries (zone : String) (entries : List String) : Except Error Candidates :=
  if entries.isEmpty then .error (.noCandidates zone)
  else
    match Candidate.decodeAll entries with
    | .error e => .error e
    | .ok ips => .ok ⟨ips⟩

end AddressBinder
