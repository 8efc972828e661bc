import AddressBinder.Simulation.Daemon
import AddressBinder.Proofs.Machine
/-!
# The daemon at an instant

What changes in the world of a daemon while it runs is the clock, the cloud, the sites and its binder's state
(`Instant`).  Its life-cycle programs are served from that: the collaborators answer at once, and only requests about time
and about the binder's own state may have to wait.  A program runs as far over the world as over the instant
(`advance_ofLifecycle`), and a pass always to its end (`advance_ofPass`).
-/
namespace AddressBinder
namespace Simulation

/-- What changes in the world of a daemon while it runs. -/
structure Instant where
  clock : Nat
  cloud : Cloud
  sites : List Http.Site
  /-- The state of the daemon's binder. -/
  state : Lifecycle.State
  /-- How many hold the binder. -/
  holders : Nat

namespace Instant

def serveCollaborator : (r : Daemon.Request) → Instant → r.Reply × Instant
  | .provider call, s =>
    let r := Cloud.serve call s.cloud
    (r.1, { s with cloud := r.2 })
  | .http request, s =>
    let r := Http.serve request s.sites
    (r.1, { s with sites := r.2 })

section Daemon

variable (w : Daemon.Wiring) (b : Binder)

/-- The binder of the daemon, as a member of its world. -/
def member (s : Instant) : Member := ⟨Running.name, b, s.state, w.source, default, 0, [], [], s.holders⟩

def world (s : Instant) : World :=
  ⟨s.clock, s.cloud, s.sites, [s.member w b], [(Running.name, Running.number)], [], []⟩

/-- A call of the binder, served by the daemon's collaborators. -/
def call (c : Call) (s : Instant) : c.Reply × Instant := (Daemon.collaborate w c).run serveCollaborator s

def servePass : (r : Pass.Request) → Instant → r.Reply × Instant
  | .call c, s => s.call w c
  | .note n, s => ((), { s with state := s.state.note s.clock n })

/-- Serves a request of a life-cycle program, if the instant allows it. -/
def serve : (r : Lifecycle.Request) → Instant → Option (r.Reply × Instant)
  | .call c, s => some (s.call w c)
  | .clock r, s => (Clock.serve s.clock r).map fun reply => (reply, s)
  | .own o, s => (s.state.serve s.clock o).map fun r => (r.1, { s with state := r.2 })

end Daemon

end Instant

variable {w : Daemon.Wiring} {b : Binder} {α : Type} {s : Instant}

open Instant

/-! ## Life-cycle programs -/

theorem serve_ofDaemonRequest (r : Daemon.Request) (s : Instant) (f : r.Reply → Program simulation α) :
    ((ofDaemonRequest r).bind f).advance World.serve (s.world w b) =
      (f (serveCollaborator r s).1).advance World.serve ((serveCollaborator r s).2.world w b) := by
  cases r with
  | provider call => exact Program.advance_of_some rfl
  | http request => exact Program.advance_of_some rfl

theorem advance_ofDaemon : ∀ (p : Program daemon α) (s : Instant),
    (ofDaemon p).advance World.serve (s.world w b) =
      (.done (p.run serveCollaborator s).1, (p.run serveCollaborator s).2.world w b)
  | .done _, _ => rfl
  | .ask r k, s =>
    (serve_ofDaemonRequest r s fun reply => ofDaemon (k reply)).trans (advance_ofDaemon (k (serveCollaborator r s).1) _)

theorem serve_own (o : Lifecycle.Own) (s : Instant) :
    World.serve (.own Running.number o) (s.world w b) =
      (s.state.serve s.clock o).map fun r => (r.1, { s with state := r.2 }.world w b) := by
  rfl

/-- **A life-cycle program runs as far over the world as over the instant.** -/
theorem advance_ofLifecycle : ∀ (p : Program lifecycle α) (s : Instant),
    (ofLifecycle Running.number (Running.answer w) p).advance World.serve (s.world w b) =
      (ofLifecycle Running.number (Running.answer w) (p.advance (Instant.serve w) s).1,
        (p.advance (Instant.serve w) s).2.world w b)
  | .done _, _ => rfl
  | .ask (.call c) k, s => by
    -- a call is a program of the collaborators, which runs to its end over both
    have hcall := advance_ofDaemon (w := w) (b := b) (Daemon.collaborate w c) s
    exact (Program.advance_bind_of_done hcall).trans (advance_ofLifecycle (k (s.call w c).1) (s.call w c).2)
  -- other requests wait over the world just when they wait over the instant
  | .ask (.clock r) k, s => by
    have hserve : World.serve (.clock r) (s.world w b) =
        (Instant.serve w (.clock r) s).map fun x => (x.1, x.2.world w b) := by
      show (Clock.serve s.clock r).map _ = ((Clock.serve s.clock r).map _).map _
      rw [Option.map_map]
      rfl
    cases hr : Instant.serve w (.clock r) s with
    | none =>
      rw [hr] at hserve
      rw [Program.advance_of_none hr]
      exact Program.advance_of_none hserve
    | some x =>
      rw [hr] at hserve
      rw [Program.advance_of_some hr]
      exact (Program.advance_of_some hserve).trans (advance_ofLifecycle (k x.1) x.2)
  | .ask (.own o) k, s => by
    have hserve : World.serve (.own Running.number o) (s.world w b) =
        (Instant.serve w (.own o) s).map fun x => (x.1, x.2.world w b) := by
      rw [serve_own, Instant.serve, Option.map_map]
      rfl
    cases hr : Instant.serve w (.own o) s with
    | none =>
      rw [hr] at hserve
      rw [Program.advance_of_none hr]
      exact Program.advance_of_none hserve
    | some x =>
      rw [hr] at hserve
      rw [Program.advance_of_some hr]
      exact (Program.advance_of_some hserve).trans (advance_ofLifecycle (k x.1) x.2)

/-! ## What collaborators leave alone -/

/-- Collaborators change the cloud and the sites, and nothing else. -/
structure Instant.SameBinder (s t : Instant) : Prop where
  clock : t.clock = s.clock
  state : t.state = s.state
  holders : t.holders = s.holders

theorem Instant.SameBinder.trans {s t u : Instant} (h : s.SameBinder t) (h' : t.SameBinder u) : s.SameBinder u :=
  ⟨h'.clock.trans h.clock, h'.state.trans h.state, h'.holders.trans h.holders⟩

theorem sameBinder_serveCollaborator : ∀ (r : Daemon.Request) (s : Instant), s.SameBinder (serveCollaborator r s).2
  | .provider _, _ => ⟨rfl, rfl, rfl⟩
  | .http _, _ => ⟨rfl, rfl, rfl⟩

theorem sameBinder_run : ∀ (p : Program daemon α) (s : Instant), s.SameBinder (p.run serveCollaborator s).2
  | .done _, _ => ⟨rfl, rfl, rfl⟩
  | .ask r k, s => (sameBinder_serveCollaborator r s).trans (sameBinder_run (k (serveCollaborator r s).1) _)

/-- **A call of the binder leaves the binder alone.** -/
theorem sameBinder_call (c : Call) (s : Instant) : s.SameBinder (s.call w c).2 := sameBinder_run (Daemon.collaborate w c) s

/-! ## Passes -/

/-- **A pass runs to its end**: nothing that it asks has to wait. -/
theorem advance_ofPass : ∀ (p : Program pass α) (s : Instant),
    (Lifecycle.ofPass p).advance (Instant.serve w) s = (.done (p.run (servePass w) s).1, (p.run (servePass w) s).2)
  | .done _, _ => rfl
  | .ask (.call c) k, s => advance_ofPass (k (s.call w c).1) (s.call w c).2
  | .ask (.note n) k, s => advance_ofPass (k ()) { s with state := s.state.note s.clock n }

end Simulation
end AddressBinder
