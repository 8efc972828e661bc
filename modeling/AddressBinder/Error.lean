/-!
# What can go wrong

One type for every failure of a reconciliation pass.  None of them leaves the binder's life-cycle operations: a
failure becomes a retry, a reschedule or an entry of the status, and `Error.message` is the text it leaves there.
-/
namespace AddressBinder

/-- A failure of a collaborator or of the binder's own checks. -/
inductive Error where
  /-- The zone has no configured or discoverable addresses. -/
  | noCandidates (zone : String)
  /-- A discovered entry cannot be reduced to an IPv4 address. -/
  | malformedCandidate (candidate reason : String)
  /-- A describe call of the cloud failed. -/
  | providerQuery (backend reason : String)
  | notFound (what : String)
  | attach (interfaceId reason : String)
  | detach (attachmentId reason : String)
  /-- Discovery of the service URLs failed. -/
  | discovery (reason : String)
  /-- The instance metadata cannot be read. -/
  | identity (reason : String)
  | registry (reason : String)
  | config (reason : String)
  | http (reason : String)
  /-- A document is not the JSON it should be; the reason is in its reader's words. -/
  | json (reason : String)
  | other (reason : String)
deriving DecidableEq, Inhabited

namespace Error

/-- The text of a failure, as the status and the events report it. -/
def message : Error → String
  | .noCandidates zone => "No candidate addresses for zone " ++ zone
  | .malformedCandidate candidate reason => "Malformed candidate '" ++ candidate ++ "': " ++ reason
  | .providerQuery backend reason => "Provider query failed (" ++ backend ++ "): " ++ reason
  | .notFound what => "Not found: " ++ what
  | .attach interfaceId reason => "Attach of " ++ interfaceId ++ " failed: " ++ reason
  | .detach attachmentId reason => "Detach of " ++ attachmentId ++ " failed: " ++ reason
  | .discovery reason => "Discovery error: " ++ reason
  | .identity reason => "Instance identity error: " ++ reason
  | .registry reason => "Peer registry error: " ++ reason
  | .config reason => "Configuration error: " ++ reason
  | .http reason => "HTTP error: " ++ reason
  | .json reason => "JSON error: " ++ reason
  | .other reason => reason

/-- Whether the failure came from the cloud; a missing record of the instance itself counts. -/
def isProvider : Error → Bool
  | .providerQuery .. | .notFound _ | .attach .. | .detach .. => true
  | _ => false

/-- Whether the failure is one of the candidate pool rather than of the cloud. -/
def isCandidate : Error → Bool
  | .noCandidates _ | .malformedCandidate .. => true
  | _ => false

end Error
end AddressBinder
