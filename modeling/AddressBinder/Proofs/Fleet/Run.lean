import Mathlib.Data.List.Induction
import AddressBinder.Cloud.Memory
import AddressBinder.Proofs.Lifecycle.Run
import AddressBinder.Proofs.Program.Protocol
/-!
# Binders around one cloud

Any number of binders that share one cloud, each in a scene of its own, and an operator beside them.  The cloud serves
one call at a time, in any order and after any delay; the other collaborators of a binder answer what they like, but the
metadata of a binder names the instance it runs on.  Two binders may run on one instance, as after a restart.
-/
namespace AddressBinder
namespace Fleet

structure Member where
  binder : Binder
  instanceId : String
  scene : Lifecycle.Scene

inductive Caller where
  | operator
  | member (n : Nat)

structure Service where
  caller : Caller
  exchange : Program.Exchange provider

end Fleet

/-- Binders around one cloud. -/
structure Fleet where
  cloud : Cloud
  members : List Fleet.Member
  /-- The calls that the cloud has served, in order. -/
  services : List Fleet.Service

namespace Fleet

inductive Act where
  /-- The operator calls the cloud. -/
  | call (c : ProviderCall)
  /-- The operator says which calls fail from now on. -/
  | switch (queries attaches detaches : Bool)
  /-- Something happens around the member with a number that the cloud has no part in. -/
  | around (n : Nat) (act : Lifecycle.Act)
  /-- The cloud serves a call that an activity of the member with a number waits for. -/
  | serve (n activity : Nat) (c : ProviderCall)

/-- Whether an act can come from outside the cloud. -/
def Member.allows (m : Member) : Lifecycle.Act → Bool
  | .answer _ (.provider _) _ => false
  | .answer _ .metadata (.ok d) => d.instanceId == m.instanceId
  | _ => true

def Member.step? (m : Member) (act : Lifecycle.Act) : Option Member :=
  (m.scene.step? m.binder act).map fun x => { m with scene := x }

def serve (f : Fleet) (who : Caller) (c : ProviderCall) : Fleet :=
  { f with
    cloud := (Cloud.serve c f.cloud).2
    services := f.services ++ [⟨who, c, (Cloud.serve c f.cloud).1⟩] }

def step? (f : Fleet) : Act → Option Fleet
  | .call c => some (f.serve .operator c)
  | .switch queries attaches detaches =>
    some { f with cloud := { f.cloud with failQueries := queries, failAttaches := attaches, failDetaches := detaches } }
  | .around n act =>
    match f.members[n]? with
    | none => none
    | some m => if m.allows act then (m.step? act).map fun m => { f with members := f.members.set n m } else none
  | .serve n activity c =>
    match f.members[n]? with
    | none => none
    | some m =>
      (m.step? (.answer activity (.provider c) (Cloud.serve c f.cloud).1)).map fun m =>
        { f.serve (.member n) c with members := f.members.set n m }

def initial (c : Cloud) (crew : List (Binder × String)) : Fleet :=
  ⟨c, crew.map fun b => ⟨b.1, b.2, .initial b.1⟩, []⟩

/-- **A fleet that new binders around a cloud reach by some acts.** -/
def Reaches (c : Cloud) (crew : List (Binder × String)) (acts : List Act) (f : Fleet) : Prop :=
  acts.foldlM step? (initial c crew) = some f

/-! ## What an act can do -/

/-- The fleet with the scene of a member put in the place of what it was. -/
def seat (f : Fleet) (n : Nat) (m : Member) (y : Lifecycle.Scene) : Fleet :=
  { f with members := f.members.set n { m with scene := y } }

/-- What an act can do: have a call served, for the operator or for a member, or let something else happen around a
member, or change which calls fail. -/
inductive Turn (f : Fleet) : Act → Fleet → Prop where
  | call (c : ProviderCall) : Turn f (.call c) (f.serve .operator c)
  | switch (queries attaches detaches : Bool) : Turn f (.switch queries attaches detaches)
      { f with cloud := { f.cloud with failQueries := queries, failAttaches := attaches, failDetaches := detaches } }
  | around {n : Nat} {act : Lifecycle.Act} {m : Member} {y : Lifecycle.Scene} (hm : f.members[n]? = some m)
      (hallows : m.allows act = true) (hy : m.scene.step? m.binder act = some y) :
      Turn f (.around n act) (f.seat n m y)
  | serve {n activity : Nat} {c : ProviderCall} {m : Member} {y : Lifecycle.Scene} (hm : f.members[n]? = some m)
      (hy : m.scene.step? m.binder (.answer activity (.provider c) (Cloud.serve c f.cloud).1) = some y) :
      Turn f (.serve n activity c) ((f.serve (.member n) c).seat n m y)

/-- **An act does nothing else.** -/
theorem step?_turn {f g : Fleet} {act : Act} (h : f.step? act = some g) : f.Turn act g := by
  cases act with
  | call c =>
    obtain rfl := Option.some.inj h
    exact .call c
  | switch queries attaches detaches =>
    obtain rfl := Option.some.inj h
    exact .switch queries attaches detaches
  | around n act =>
    simp only [step?] at h
    split at h
    · cases h
    rename_i m hm
    split at h
    · rename_i hallows
      obtain ⟨m', hm', rfl⟩ := Option.map_eq_some_iff.1 h
      obtain ⟨y, hy, rfl⟩ := Option.map_eq_some_iff.1 hm'
      exact .around hm hallows hy
    · cases h
  | serve n activity c =>
    simp only [step?] at h
    split at h
    · cases h
    rename_i m hm
    obtain ⟨m', hm', rfl⟩ := Option.map_eq_some_iff.1 h
    obtain ⟨y, hy, rfl⟩ := Option.map_eq_some_iff.1 hm'
    exact .serve hm hy

theorem seat_members {f : Fleet} {n k : Nat} {m m' : Member} {y : Lifecycle.Scene}
    (h : (f.seat n m y).members[k]? = some m') :
    k = n ∧ m' = { m with scene := y } ∨ k ≠ n ∧ f.members[k]? = some m' := Lifecycle.getElem?_set_cases h

/-- A reply that does not come from the cloud; the metadata name the instance. -/
def Outer (own : String) : (r : Lifecycle.Request) → r.Reply → Prop
  | .call (.provider _), _ => False
  | .call .metadata, .ok (d : InstanceMetadata) => d.instanceId = own
  | _, _ => True

theorem Outer.ne_provider {own : String} {r : Lifecycle.Request} {reply : r.Reply} (h : Outer own r reply)
    (x : ProviderCall) : r ≠ .call (.provider x) := by
  rintro rfl
  exact h

theorem outer_of_allows {m : Member} {act : Lifecycle.Act} (h : m.allows act = true) (n : Nat) :
    ∀ (r : Lifecycle.Request) (reply : r.Reply), Lifecycle.Scene.Brings act n r reply → Outer m.instanceId r reply
  | .call .metadata, .ok (d : InstanceMetadata), hb => by
    subst hb
    exact eq_of_beq h
  | .call .metadata, .error _, _ => trivial
  | .call (.provider _), _, hb => by
    subst hb
    cases h
  | .call (.serviceUrls _), _, _ => trivial
  | .call .clearRegistry, _, _ => trivial
  | .call .syncUp, _, _ => trivial
  | .call (.openForTraffic _), _, _ => trivial
  | .clock _, _, _ => trivial
  | .own _, _, _ => trivial

/-! ## Runs -/

variable {c : Cloud} {crew : List (Binder × String)} {acts : List Act} {f : Fleet}

theorem reaches_append {more : List Act} {g : Fleet} :
    Reaches c crew (acts ++ more) g ↔ ∃ f, Reaches c crew acts f ∧ more.foldlM step? f = some g := by
  unfold Reaches
  rw [List.foldlM_append]
  simp [Option.bind_eq_some_iff]

theorem reaches_concat {act : Act} {g : Fleet} :
    Reaches c crew (acts ++ [act]) g ↔ ∃ f, Reaches c crew acts f ∧ f.step? act = some g := by
  rw [reaches_append]
  simp

/-- **What holds of a new fleet and is kept by every act that can happen holds of every fleet that is reached.** -/
theorem Reaches.history {P : List Act → Fleet → Prop} (hinit : P [] (initial c crew))
    (hstep : ∀ {acts f act g}, Reaches c crew acts f → P acts f → f.Turn act g → P (acts ++ [act]) g)
    (h : Reaches c crew acts f) : P acts f := by
  induction acts using List.reverseRecOn generalizing f with
  | nil =>
    obtain rfl := Option.some.inj h
    exact hinit
  | append_singleton acts act ih =>
    obtain ⟨e, he, hs⟩ := reaches_concat.1 h
    exact hstep he (ih he) (step?_turn hs)

theorem Reaches.induction {P : Fleet → Prop} (hinit : P (initial c crew))
    (hstep : ∀ {f act g}, P f → f.Turn act g → P g) (h : Reaches c crew acts f) : P f :=
  h.history (P := fun _ f => P f) hinit fun _ => hstep

/-- **Every member is in a scene that a new binder reaches.** -/
theorem Reaches.scene (h : Reaches c crew acts f) :
    ∀ (n : Nat) (m : Member), f.members[n]? = some m → ∃ acts, Lifecycle.Scene.Reaches m.binder acts m.scene := by
  have hseat : ∀ {f : Fleet} {n : Nat} {m : Member} {act : Lifecycle.Act} {y : Lifecycle.Scene},
      (∀ (k : Nat) (m : Member), f.members[k]? = some m → ∃ acts, Lifecycle.Scene.Reaches m.binder acts m.scene) →
        f.members[n]? = some m → m.scene.step? m.binder act = some y →
          ∀ (k : Nat) (m' : Member), (f.seat n m y).members[k]? = some m' →
            ∃ acts, Lifecycle.Scene.Reaches m'.binder acts m'.scene := by
    intro f n m act y hf hm hy k m' hk
    rcases seat_members hk with ⟨-, rfl⟩ | ⟨-, hk⟩
    · obtain ⟨acts, hacts⟩ := hf n m hm
      exact ⟨acts ++ [act], Lifecycle.Scene.reaches_concat.2 ⟨m.scene, hacts, hy⟩⟩
    · exact hf k m' hk
  refine h.induction (P := fun f => ∀ (n : Nat) (m : Member), f.members[n]? = some m →
    ∃ acts, Lifecycle.Scene.Reaches m.binder acts m.scene) ?_ ?_
  · intro n m hm
    obtain ⟨⟨b, own⟩, -, rfl⟩ := List.mem_map.1 (List.mem_of_getElem? hm)
    exact ⟨[], .initial b⟩
  · intro f act g hf ht
    cases ht with
    | call | switch => exact hf
    | around hm _ hy => exact hseat hf hm hy
    | @serve n _ c m _ hm hy => exact hseat (f := f.serve (.member n) c) hf hm hy

/-- Whether a caller may act for an instance: a member does for the one it runs on. -/
def ActsFor (f : Fleet) : Caller → String → Prop
  | .operator, _ => True
  | .member n, instanceId => ∃ m, f.members[n]? = some m ∧ m.instanceId = instanceId

end Fleet
end AddressBinder
