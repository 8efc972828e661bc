import AddressBinder.Simulation.Threads
/-!
# Sessions

A session plays steps on one cloud and any number of binders: it sets the scene, makes operations run, lets time pass,
and reports after each step what the step gave, what was called, which events came, and how the binders are.  Whatever
can happen at the instant a step ends has happened when it is reported.
-/
namespace AddressBinder
namespace Simulation

/-- A call of the cloud by an operator rather than a binder, or a call of the inventory. -/
inductive InventoryCall where
  | describeSelf (metadata : InstanceMetadata)
  | findAvailable (candidates : Candidates) (subnetId : String)
  | attach (interfaceId instanceId : String)
  | detach (attachmentId : String)
deriving DecidableEq

/-- What a binder is made from. -/
structure Plan where
  config : Except Error Config
  metadata : InstanceMetadata
  synced : Nat
  /-- The TXT records, if there is a resolver. -/
  records : Option Discovery.Records

inductive Step where
  | addInstance (instanceId subnetId : String)
  | addInterface (i : Interface)
  /-- Make classes of calls fail or work; an absent class stays as it is. -/
  | setFailing (queries attaches detaches : Option Bool)
  /-- A call of the cloud by an operator. -/
  | provider (call : ProviderCall)
  | lookInterface (id : String)
  | holderOf (ip : Ipv4)
  | journal
  | attachCalls
  | detachCalls
  | clearJournal
  | inventory (call : InventoryCall)
  | newBinder (name : String) (plan : Plan)
  | script (name : String) (method : Method) (entries : List Entry)
  | setIdentity (name : String) (metadata : InstanceMetadata)
  | operate (name : String) (op : Operation)
  /-- Start an operation and keep its result under a label. -/
  | spawn (name : String) (op : Operation) (label : String)
  | join (label : String)
  | isFinished (label : String)
  | status (name : String)
  | events (name : String)
  | closeEvents (name : String)
  | advance (ms : Nat)

/-- What a step gives. -/
inductive Answer where
  | nothing
  | reply (call : ProviderCall) (r : call.Reply)
  | interface (i : Option Interface)
  | text (t : Option String)
  | journal (calls : List CloudCall)
  | attachCalls (calls : List (String × String × Nat))
  | texts (ts : List String)
  | failed (e : Error)
  | outcome (o : Outcome)
  | flag (b : Bool)
  | status (s : Option Status)
  | events (es : List Event)

/-- A session under way. -/
structure Session where
  machine : Sim
  /-- The threads by the labels that their results are kept under. -/
  labels : List (String × Nat)

namespace Session

/-- The session in which nothing has happened. -/
def initial : Session := ⟨⟨World.empty, []⟩, []⟩

/-- The name of a scripted provider in failures. -/
def backend : String := "double"

def change (s : Session) (f : World → World) : Session := { s with machine := onWorld s.machine f }

def changeCloud (s : Session) (f : Cloud → Cloud) : Session := s.change fun w => { w with cloud := f w.cloud }

def cloud (s : Session) : Cloud := s.machine.state.cloud

/-- The program of a call of the inventory. -/
def inventoryProgram : InventoryCall → Program provider Outcome
  | .describeSelf metadata => (Inventory.describeSelf backend metadata).bind fun r => .done (.identity r)
  | .findAvailable candidates subnetId =>
    (Inventory.findAvailable backend candidates subnetId).bind fun r => .done (.interfaces r)
  | .attach interfaceId instanceId => (Inventory.attach interfaceId instanceId).bind fun r => .done (.attachmentId r)
  | .detach attachmentId => (Inventory.detach attachmentId).bind fun r => .done (.detached r)

/-- The thread of a call of the inventory. -/
def inventoryThread (call : InventoryCall) : Thread simulation Outcome :=
  .once ((inventoryProgram call).translate (τ := simulation) collaborateProvider)

/-- The binder with a name that a plan describes, or the failure of the first stage that fails. -/
def member (name : String) (plan : Plan) : Except Error Member :=
  match plan.config with
  | .error e => .error e
  | .ok config =>
    match Discovery.Source.ofSettings config.discovery config.account.region plan.records.isSome with
    | .error fault => .error fault.error
    | .ok source =>
      match Binder.new config backend with
      | .error fault => .error fault.error
      | .ok b => .ok (.ofBinder name b source plan.metadata plan.synced (plan.records.getD []))

/-- The session with a new binder and its periodic task. -/
def addMember (s : Session) (m : Member) : Session :=
  let number := s.machine.state.members.length
  let s := s.change (·.addMember m)
  { s with machine := launch s.machine (periodicThread number m.binder (collaborate number m.source)) }

def runThread (s : Session) (t : Thread simulation Outcome) : Answer × Session :=
  let (outcome, machine) := Simulation.runThread s.machine t
  (match outcome with
    | some o => .outcome o
    | none => .nothing, { s with machine })

/-- The number of the binder that a name stands for. -/
def named? (s : Session) (name : String) : Option Nat := s.machine.state.named? name

/-- The thread of an operation of the binder that a name stands for, if it stands for one. -/
def threadFor (s : Session) (name : String) (op : Operation) : Option (Thread simulation Outcome) :=
  (s.named? name).bind fun number =>
    (s.machine.state.member? number).map fun m => operationThread number m.binder (collaborate number m.source) op

def play (s : Session) : Step → Answer × Session
  | .addInstance instanceId subnetId => (.nothing, s.changeCloud (·.addInstance instanceId subnetId))
  | .addInterface i => (.nothing, s.changeCloud (·.addInterface i))
  | .setFailing queries attaches detaches =>
    (.nothing, s.changeCloud fun c =>
      { c with
        failQueries := queries.getD c.failQueries
        failAttaches := attaches.getD c.failAttaches
        failDetaches := detaches.getD c.failDetaches })
  | .provider call =>
    let r := Cloud.serve call s.cloud
    (.reply call r.1, s.changeCloud fun _ => r.2)
  | .lookInterface id => (.interface (s.cloud.interfaces.get? id), s)
  | .holderOf ip => (.text (s.cloud.holderOf ip), s)
  | .journal => (.journal s.cloud.journal, s)
  | .attachCalls => (.attachCalls s.cloud.attachCalls, s)
  | .detachCalls => (.texts s.cloud.detachCalls, s)
  | .clearJournal => (.nothing, s.changeCloud fun c => { c with journal := [] })
  | .inventory call => s.runThread (inventoryThread call)
  | .newBinder name plan =>
    match member name plan with
    | .error e => (.failed e, s)
    | .ok m => (.nothing, s.addMember m)
  | .script name method entries => (.nothing, s.change fun w => w.setScript name method entries)
  | .setIdentity name metadata => (.nothing, s.change fun w => w.updateNamed name fun m => { m with metadata })
  | .operate name op =>
    match s.threadFor name op with
    | none => (.nothing, s)
    | some t => s.runThread t
  | .spawn name op label =>
    match s.threadFor name op with
    | none => (.nothing, s)
    | some t =>
      (.nothing, ⟨launch s.machine t, place label s.machine.threads.length s.labels⟩)
  | .join label =>
    match s.labels.lookup label with
    | none => (.nothing, s)
    | some i =>
      let machine := s.machine.runUntilDone kernel i none patience
      (match machine.result? i with
        | some o => .outcome o
        | none => .nothing, { s with machine })
  | .isFinished label =>
    match s.labels.lookup label with
    | none => (.flag false, s)
    | some i => (.flag (s.machine.result? i).isSome, s)
  | .status name => (.status ((s.named? name).bind (status? s.machine)), s)
  | .events name =>
    match s.named? name with
    | none => (.events [], s)
    | some number =>
      let r := drainEvents s.machine number
      (.events r.1, { s with machine := r.2 })
  | .closeEvents name =>
    (.nothing, s.change fun w => w.updateNamed name fun m =>
      { m with state := { m.state with channel := m.state.channel.close } })
  | .advance ms => (.nothing, { s with machine := idle s.machine ms })

/-! ## Reports -/

/-- What is reported after a step. -/
structure Report where
  answer : Answer
  time : Nat
  trace : List TraceLine
  /-- The events that came, by binder. -/
  events : List (String × List Event)
  statuses : List (String × Status)

/-- Takes the events of the binders that names stand for. -/
def drainAll (m : Sim) : List (String × Nat) → List (String × List Event) × Sim
  | [] => ([], m)
  | (name, number) :: names =>
    let r := drainEvents m number
    let rest := drainAll r.2 names
    ((name, r.1) :: rest.1, rest.2)

/-- Plays a step and reports; with `manual` the events stay in their channels until a step takes them. -/
def report (manual : Bool) (s : Session) (step : Step) : Report × Session :=
  let played := s.play step
  let machine := played.2.machine.settle kernel patience
  let drained := if manual then ([], machine) else drainAll machine machine.state.names
  let after := drained.2
  (⟨played.1, after.state.clock, after.state.trace.reverse, drained.1.filter (fun e => !e.2.isEmpty),
      after.state.names.filterMap (fun e => (status? after e.2).map fun s => (e.1, s))⟩,
    { played.2 with machine := onWorld after fun w => { w with trace := [] } })

def run (manual : Bool) : Session → List Step → List Report
  | _, [] => []
  | s, step :: steps =>
    let r := s.report manual step
    r.1 :: run manual r.2 steps

end Session
end Simulation
end AddressBinder
