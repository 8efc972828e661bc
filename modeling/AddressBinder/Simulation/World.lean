import AddressBinder.Binder.Operation
import AddressBinder.Cloud.Memory
import AddressBinder.Daemon.Wiring
import AddressBinder.Discovery.Records
import AddressBinder.Machine
import AddressBinder.Simulation.Script
/-!
# Simulated worlds

A world holds a clock, one in-memory cloud, HTTP sites, and the binders that run over them with their scripts.  The
requests of a simulated program are served from it: a binder's requests about itself by its own state, calls of the
cloud by the cloud, and everything scripted by the scripts.  A binder keeps its number for good; a name stands for the
binder that was given it last, and a binder that neither its name nor an operation holds any more stops its passes.
-/
namespace AddressBinder
namespace Simulation

/-- A binder of a world, with what its collaborators usually answer and with their scripts. -/
structure Member where
  name : String
  binder : Binder
  state : Lifecycle.State
  source : Discovery.Source
  metadata : InstanceMetadata
  /-- How many entries the peer registry is filled with. -/
  synced : Nat
  /-- The TXT records by name; a name without any has none. -/
  records : Discovery.Records
  scripts : Scripts
  /-- How many hold the binder: its name, and every operation under way. -/
  holders : Nat

namespace Member

/-- A binder that only its name holds, with collaborators that do the usual things. -/
def ofBinder (name : String) (binder : Binder) (source : Discovery.Source) (metadata : InstanceMetadata) (synced : Nat)
    (records : Discovery.Records) : Member :=
  ⟨name, binder, .initial binder.config.eventCapacity, source, metadata, synced, records, [], 1⟩

/-- The binder with one more holder. -/
def hold (m : Member) : Member := { m with holders := m.holders + 1 }

/-- The binder with one holder less; when it was the last, the periodic task is to end. -/
def letGo (m : Member) : Member :=
  { m with holders := m.holders - 1, state := if m.holders ≤ 1 then m.state.abandon else m.state }

end Member

structure World where
  clock : Nat
  cloud : Cloud
  sites : List Http.Site
  /-- Every binder that was ever made; its number is its place. -/
  members : List Member
  /-- The number of the binder that a name stands for. -/
  names : List (String × Nat)
  /-- The scripts of the inventory that belongs to no binder. -/
  inventoryScripts : Scripts
  /-- The calls that were traced, the latest first. -/
  trace : List TraceLine

/-- The world at time zero with nothing in it. -/
def World.empty : World := ⟨0, Cloud.empty, [], [], [], [], []⟩

inductive Party where
  /-- The inventory that belongs to no binder. -/
  | inventory
  | member (number : Nat)
deriving DecidableEq

inductive Request where
  | clock (r : Clock.Request)
  /-- A request of the binder with a number about itself. -/
  | own (number : Nat) (o : Lifecycle.Own)
  | provider (call : ProviderCall)
  | http (r : Http.Request)
  | trace (party : Party) (call : Traced)
  /-- Take the next entry of a script. -/
  | script (party : Party) (method : Method)
  /-- The usual identity. -/
  | metadata (number : Nat)
  /-- The usual records of a name. -/
  | records (number : Nat) (record : String)
  /-- The usual size of the filled registry. -/
  | synced (number : Nat)
  /-- Hold a binder for an operation. -/
  | hold (number : Nat)
  | letGo (number : Nat)

abbrev Request.Reply : Request → Type
  | .clock r => r.Reply
  | .own _ o => o.Reply
  | .provider call => call.Reply
  | .http _ => Except String Http.Response
  | .trace .. => Unit
  | .script .. => Option Entry
  | .metadata _ => InstanceMetadata
  | .records .. => Except Error (List String)
  | .synced _ => Nat
  | .hold _ => Unit
  | .letGo _ => Unit

def simulation : Signature := ⟨Request, Request.Reply⟩

namespace World

/-- The name of the inventory that belongs to no binder. -/
def inventoryName : String := "inv"

def member? (w : World) (number : Nat) : Option Member := w.members[number]?

/-- The world with the binder of a number changed. -/
def updateMember (w : World) (number : Nat) (f : Member → Member) : World :=
  { w with members := w.members.modify number f }

/-- The number of the binder that a name stands for. -/
def named? (w : World) (name : String) : Option Nat := w.names.lookup name

/-- The world with the binder that a name stands for changed, if there is one. -/
def updateNamed (w : World) (name : String) (f : Member → Member) : World :=
  match w.named? name with
  | some number => w.updateMember number f
  | none => w

/-- The world with a new binder, which its name stands for from now on; the binder it stood for is let go. -/
def addMember (w : World) (m : Member) : World :=
  let w := w.updateNamed m.name Member.letGo
  { w with members := w.members ++ [m], names := place m.name w.members.length w.names }

/-- The world with the script of a method replaced, of the inventory or of the binder that the name stands for. -/
def setScript (w : World) (name : String) (method : Method) (entries : List Entry) : World :=
  if name = inventoryName then { w with inventoryScripts := place method entries w.inventoryScripts }
  else w.updateNamed name fun m => { m with scripts := place method entries m.scripts }

/-- The name that calls on the collaborators of a party are traced under. -/
def nameOf (w : World) : Party → String
  | .inventory => inventoryName
  | .member number => ((w.member? number).map (·.name)).getD ""

/-- The next entry of a script of a party, and the world in which it is taken. -/
def takeEntry (w : World) (party : Party) (method : Method) : Option Entry × World :=
  match party with
  | .inventory =>
    let r := w.inventoryScripts.take method
    (r.1, { w with inventoryScripts := r.2 })
  | .member number =>
    match w.member? number with
    | none => (none, w)
    | some m =>
      let r := m.scripts.take method
      (r.1, w.updateMember number fun m => { m with scripts := r.2 })

/-- Serves a request of a binder about itself; a binder that is not there never answers. -/
def serveOwn (w : World) (number : Nat) (o : Lifecycle.Own) : Option (o.Reply × World) :=
  match w.member? number with
  | none => none
  | some m =>
    (m.state.serve w.clock o).map fun r => (r.1, w.updateMember number fun m => { m with state := r.2 })

/-- Serves a request of a simulated program, if the world allows it yet. -/
def serve : (r : Request) → World → Option (r.Reply × World)
  | .clock r, w => (Clock.serve w.clock r).map fun reply => (reply, w)
  | .own number o, w => w.serveOwn number o
  | .provider call, w =>
    let r := Cloud.serve call w.cloud
    some (r.1, { w with cloud := r.2 })
  | .http request, w =>
    let r := Http.serve request w.sites
    some (r.1, { w with sites := r.2 })
  | .trace party call, w => some ((), { w with trace := ⟨w.clock, w.nameOf party, call⟩ :: w.trace })
  | .script party method, w => some (w.takeEntry party method)
  | .metadata number, w => (w.member? number).map fun m => (m.metadata, w)
  | .records number record, w => (w.member? number).map fun m => (m.records.answer record, w)
  | .synced number, w => (w.member? number).map fun m => (m.synced, w)
  | .hold number, w => some ((), w.updateMember number Member.hold)
  | .letGo number, w => some ((), w.updateMember number Member.letGo)

end World

def Request.due : Request → Option Nat
  | .clock r => r.due
  | .own _ o => o.due
  | _ => none

/-- How simulated programs are served. -/
def kernel : Kernel simulation World :=
  ⟨World.serve, Request.due, World.clock, fun time w => { w with clock := time }⟩

end Simulation
end AddressBinder
