import AddressBinder.Binder.Pass
/-!
# Scripted collaborators

In a simulation every collaborator of a binder can be told what to answer.  A method has a script: each call takes the
next entry, which may fail the call, give it a value, or let the usual thing happen, and may take time before and
after.  Past the end of the script the usual thing happens at once.
-/
namespace AddressBinder
namespace Simulation

inductive Method where
  | identity
  | urls
  | lookup
  | describeInstance
  | describeInterfaces
  | attach
  | detach
  | clear
  | sync
  | openTraffic
deriving DecidableEq, Inhabited

namespace Method

def all : List Method :=
  [.identity, .urls, .lookup, .describeInstance, .describeInterfaces, .attach, .detach, .clear, .sync, .openTraffic]

def name : Method → String
  | .identity => "identity"
  | .urls => "urls"
  | .lookup => "lookup"
  | .describeInstance => "describe_instance"
  | .describeInterfaces => "describe_interfaces"
  | .attach => "attach"
  | .detach => "detach"
  | .clear => "clear"
  | .sync => "sync"
  | .openTraffic => "open"

def ofCall : Call → Method
  | .metadata => .identity
  | .serviceUrls _ => .urls
  | .provider (.describeInstance _) => .describeInstance
  | .provider (.describeInterfaces _) => .describeInterfaces
  | .provider (.attach ..) => .attach
  | .provider (.detach _) => .detach
  | .clearRegistry => .clear
  | .syncUp => .sync
  | .openForTraffic _ => .openTraffic

end Method

/-- A value that a script gives to a call. -/
inductive Value where
  | metadata (m : InstanceMetadata)
  | texts (ts : List String)
  | description (d : Option InstanceDescription)
  | interfaces (is : List Interface)
  | text (t : String)
  | count (n : Nat)
  | nothing
deriving DecidableEq

/-- The value as what a call yields, if it is of the right kind. -/
def Value.yield? : (c : Call) → Value → Option c.Yield
  | .metadata, .metadata m => some m
  | .serviceUrls _, .texts ts => some ts
  | .provider (.describeInstance _), .description d => some d
  | .provider (.describeInterfaces _), .interfaces is => some is
  | .provider (.attach ..), .text t => some t
  | .provider (.detach _), .nothing => some ()
  | .clearRegistry, .nothing => some ()
  | .syncUp, .count n => some n
  | .openForTraffic _, .nothing => some ()
  | _, _ => none

/-- The value as TXT records, if it is of the right kind. -/
def Value.records? : Value → Option (List String)
  | .texts ts => some ts
  | _ => none

/-- What an entry of a script makes a call do. -/
inductive Effect where
  | fail (e : Error)
  | give (v : Value)
  /-- The usual thing happens. -/
  | usual
deriving DecidableEq

/-- An entry of a script; the times are absent when nothing is waited for. -/
structure Entry where
  delay : Option Nat
  effect : Effect
  after : Option Nat
deriving DecidableEq

/-- The scripts of some collaborators, by method; a method without one does the usual thing. -/
abbrev Scripts := List (Method × List Entry)

/-- Puts a value at the place of a key, at the end if the key is new. -/
def place {α β : Type} [DecidableEq α] (key : α) (b : β) : List (α × β) → List (α × β)
  | [] => [(key, b)]
  | e :: rest => if e.1 = key then (key, b) :: rest else e :: place key b rest

/-- The next entry of the script of a method, and the scripts without it. -/
def Scripts.take (scripts : Scripts) (method : Method) : Option Entry × Scripts :=
  match scripts.lookup method with
  | some (entry :: rest) => (some entry, place method rest scripts)
  | _ => (none, scripts)

/-! ## Traces -/

/-- A call as it is traced. -/
inductive Traced where
  | call (c : Call)
  | lookup (record : String)
deriving DecidableEq

/-- An absent text in a trace line. -/
def dash : Option String → String
  | some s => s
  | none => "-"

/-- The arguments in a trace line; empty when there are none. -/
def Traced.arguments : Traced → String
  | .call .metadata => ""
  | .call (.serviceUrls zone) => zone
  | .call (.provider (.describeInstance id)) => id
  | .call (.provider (.describeInterfaces f)) =>
    "ips=" ++ ",".intercalate (f.privateIps.map toString) ++ " status=" ++ dash (f.status.map (·.name)) ++
      " subnet=" ++ dash f.subnetId
  | .call (.provider (.attach i n d)) => i ++ " " ++ n ++ " " ++ String.ofList (Text.numeral d)
  | .call (.provider (.detach a)) => a
  | .call .clearRegistry => ""
  | .call .syncUp => ""
  | .call (.openForTraffic n) => String.ofList (Text.numeral n)
  | .lookup record => record

/-- The method that serves a traced call. -/
def Traced.method : Traced → Method
  | .call c => .ofCall c
  | .lookup _ => .lookup

/-- A traced call with its time and with the name of the collaborators it was made on. -/
structure TraceLine where
  time : Nat
  name : String
  call : Traced
deriving DecidableEq

def TraceLine.text (l : TraceLine) : String :=
  String.ofList (Text.numeral l.time) ++ " " ++ l.name ++ " " ++ l.call.method.name ++
    (if l.call.arguments.isEmpty then "" else " " ++ l.call.arguments)

end Simulation
end AddressBinder
