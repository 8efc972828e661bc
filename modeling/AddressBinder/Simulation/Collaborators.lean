import AddressBinder.Simulation.World
/-!
# Simulated collaborators

Programs of binders as programs over a world.  The collaborators of a binder are scripted: each call is traced, and its
script says whether it fails, yields a given value, or does the usual thing.  The daemon's collaborators are its own,
over the world's cloud and sites.
-/
namespace AddressBinder
namespace Simulation

def ask (r : Request) : Program simulation r.Reply := Program.request (σ := simulation) r

/-- Lets some time pass, if any is to. -/
def pause : Option Nat → Program simulation Unit
  | none => .done ()
  | some ms => Clock.sleep (fun r => ask (.clock r)) ms

/-- What the effect of an entry makes of a call; a value of the wrong kind changes nothing. -/
def byEffect {α : Type} (read : Value → Option α) (usual : Program simulation (Except Error α)) :
    Effect → Program simulation (Except Error α)
  | .fail e => .done (.error e)
  | .give v =>
    match read v with
    | some a => .done (.ok a)
    | none => usual
  | .usual => usual

/-- Makes a call by what an entry of a script says. -/
def byEntry {α : Type} (read : Value → Option α) (usual : Program simulation (Except Error α)) :
    Option Entry → Program simulation (Except Error α)
  | none => usual
  | some entry =>
    (pause entry.delay).bind fun _ =>
      (byEffect read usual entry.effect).bind fun r =>
        (pause entry.after).bind fun _ => .done r

/-- A call of a scripted collaborator: it is traced, and then the script decides. -/
def scripted {α : Type} (party : Party) (call : Traced) (read : Value → Option α)
    (usual : Program simulation (Except Error α)) : Program simulation (Except Error α) :=
  (ask (.trace party call)).bind fun _ =>
    (ask (.script party call.method)).bind (byEntry read usual)

/-- What a collaborator of the binder with a number usually does. -/
def usual (number : Nat) (source : Discovery.Source) : (c : Call) → Program simulation c.Reply
  | .metadata => (ask (.metadata number)).bind fun m => .done (.ok m)
  | .serviceUrls zone =>
    (source.urls zone).translate (τ := simulation) fun record =>
      scripted (.member number) (.lookup record) Value.records? (ask (.records number record))
  | .provider call => ask (.provider call)
  | .clearRegistry => .done (.ok ())
  | .syncUp => (ask (.synced number)).bind fun n => .done (.ok n)
  | .openForTraffic _ => .done (.ok ())

/-- Serves a call of the binder with a number by scripted collaborators. -/
def collaborate (number : Nat) (source : Discovery.Source) (c : Call) : Program simulation c.Reply :=
  scripted (.member number) (.call c) (Value.yield? c) (usual number source c)

/-- Serves a call of the inventory that belongs to no binder by a scripted provider. -/
def collaborateProvider (call : ProviderCall) : Program simulation call.Reply :=
  scripted .inventory (.call (.provider call)) (Value.yield? (.provider call)) (ask (.provider call))

def ofDaemonRequest : (r : Daemon.Request) → Program simulation r.Reply
  | .provider call => ask (.provider call)
  | .http request => ask (.http request)

def ofDaemon {α : Type} (p : Program daemon α) : Program simulation α :=
  p.translate (τ := simulation) ofDaemonRequest

/-- Serves a request of a life-cycle operation of the binder with a number. -/
def ofLifecycleRequest (number : Nat) (answer : (c : Call) → Program simulation c.Reply) :
    (r : Lifecycle.Request) → Program simulation r.Reply
  | .call c => answer c
  | .clock r => ask (.clock r)
  | .own o => ask (.own number o)

/-- A life-cycle operation of the binder with a number, its calls served as given. -/
def ofLifecycle {α : Type} (number : Nat) (answer : (c : Call) → Program simulation c.Reply)
    (p : Program lifecycle α) : Program simulation α :=
  p.translate (τ := simulation) (ofLifecycleRequest number answer)

end Simulation
end AddressBinder
