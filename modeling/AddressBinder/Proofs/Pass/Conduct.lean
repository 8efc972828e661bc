import AddressBinder.Proofs.Pass.Requests
import AddressBinder.Proofs.Program.Protocol
/-!
# The conduct of passes

How the programs of a pass move through any protocol that lets them: a view only asks (`keeps_context`); a bind asks,
may call for one attachment, and tells in the end what came of it (`keeps_bindIn`); a rebind fills the registry before
that (`keeps_rebind`); an unbind asks, may call for one detachment, and tells what came of it (`keeps_unbind`).
-/
namespace AddressBinder
namespace Call

def isAttach : Call → Bool
  | .provider (.attach ..) => true
  | _ => false

def isDetach : Call → Bool
  | .provider (.detach _) => true
  | _ => false

end Call

namespace Pass

open Program

variable {S : Type} {next : Protocol pass S} {b : Binder} {s₀ s u v : S}

/-- In a position, every call but those that attach or detach or begin a view may come, and leads back to it. -/
def Asks (next : Protocol pass S) (s : S) : Prop :=
  ∀ (c : Call) (reply : c.Reply), c.isAttach = false → c.isDetach = false → c ≠ .metadata →
    next s (.call c) reply = some s

/-- From a position a view may be taken, which leads to `s`. -/
structure Views (next : Protocol pass S) (s₀ s : S) : Prop where
  metadata : ∀ reply : Call.metadata.Reply, next s₀ (.call .metadata) reply = some s
  asks : Asks next s

/-- From a position, a bind may attach an interface to the instance `n` and report it, which leads to `u`, or report that
none is free, which leads to `v`. -/
structure Binds (next : Protocol pass S) (n : String) (s u v : S) : Prop where
  list : ∀ (f : InterfaceFilter) (reply : ProviderCall.Reply (.describeInterfaces f)),
    next s (.call (.provider (.describeInterfaces f))) reply = some s
  attach : ∀ (i : String) (d : Nat) (reply : ProviderCall.Reply (.attach i n d)),
    next s (.call (.provider (.attach i n d))) reply = some s
  observe : ∀ ip, next s (.note (.observe (.bound ip))) () = some s
  attached : ∀ i ip id, next s (.note (.emit (.attached i ip id))) () = some u
  noneFree : ∀ zone, next s (.note (.emit (.noInterfaceAvailable zone))) () = some v

/-- From a position, an unbind may release the attachment `id` and report it, which leads to `u`. -/
structure Unbinds (next : Protocol pass S) (id : String) (s u : S) : Prop where
  detach : ∀ reply : ProviderCall.Reply (.detach id), next s (.call (.provider (.detach id))) reply = some s
  detached : ∀ i, next s (.note (.emit (.detached i id))) () = some u

/-- From a position the peer registry may be emptied and filled again, the report of which leads to `u`. -/
structure Resyncs (next : Protocol pass S) (s u : S) : Prop where
  observe : next s (.note (.observe .unbound)) () = some s
  clear : ∀ reply : Call.clearRegistry.Reply, next s (.call .clearRegistry) reply = some s
  fill : ∀ reply : Call.syncUp.Reply, next s (.call .syncUp) reply = some s
  letIn : ∀ (count : Nat) (reply : (Call.openForTraffic count).Reply),
    next s (.call (.openForTraffic count)) reply = some s
  resynced : ∀ count, next s (.note (.emit (.registryResynced count))) () = some u

/-- **A view only asks.** -/
theorem keeps_context (h : Views next s₀ s) : (context b).Keeps next (fun _ t => t = s) s₀ := by
  rw [context_eq]
  refine .ask (fun _ => s) h.metadata fun (m : Except Error InstanceMetadata) => ?_
  match m with
  | .error _ => exact rfl
  | .ok m =>
    refine .ask (fun _ => s) (fun r => h.asks _ r rfl rfl nofun) fun (urls : Except Error (List String)) => ?_
    match urls with
    | .error _ => exact rfl
    | .ok urls =>
      dsimp only
      cases Candidates.ofEntries m.availabilityZone urls with
      | error e => exact rfl
      | ok candidates => exact .ask (fun _ => s) (fun r => h.asks _ r rfl rfl nofun) fun _ => rfl

def BindEnds (s u v : S) : Except Error Bound → S → Prop
  | .error _, t => t = s
  | .ok (.attached ..), t => t = u
  | .ok .noneAvailable, t => t = v

theorem keeps_attach {ctx : Context} (h : Binds next ctx.me.instanceId s u v) (i : Interface) :
    (attach ctx i).Keeps next (BindEnds s u v) s := by
  cases hip : i.privateIp with
  | none =>
    unfold attach
    rw [hip]
    exact rfl
  | some ip =>
    rw [attach_eq ctx i hip]
    refine .ask (fun _ => s) (h.attach _ _) fun (reply : Except Error String) => ?_
    match reply with
    | .error _ => exact rfl
    | .ok id =>
      refine .ask (fun _ => s) (fun _ => h.observe ip) fun _ => ?_
      exact .ask (fun _ => u) (fun _ => h.attached _ _ _) fun _ => rfl

/-- **A bind asks, attaches at most once, and tells what came of it.** -/
theorem keeps_bindIn {ctx : Context} (h : Binds next ctx.me.instanceId s u v) :
    (bindIn b ctx).Keeps next (BindEnds s u v) s := by
  rw [bindIn_eq]
  refine .ask (fun _ => s) (h.list _) fun (reply : Except Error (List Interface)) => ?_
  match reply with
  | .error _ => exact rfl
  | .ok available =>
    dsimp only
    cases Decision.select? available ctx.candidates with
    | none => exact .ask (fun _ => v) (fun _ => h.noneFree _) fun _ => rfl
    | some i => exact keeps_attach h i

theorem keeps_observeHeld (hobs : ∀ ip, next s (.note (.observe (.bound ip))) () = some s) (i : Interface) :
    (observeHeld i).Keeps next (fun _ t => t = s) s := by
  unfold observeHeld
  cases i.privateIp with
  | none => exact rfl
  | some ip => exact .ask (fun _ => s) (fun _ => hobs ip) fun _ => rfl

/-- Where an attempt ends, by its result: one that finds the instance bound has only asked. -/
def AttemptEnds (s u v : S) : Except Error Bool → S → Prop
  | .error _, t => t = s
  | .ok true, t => t = s ∨ t = u
  | .ok false, t => t = v

theorem keeps_attempt (hview : Views next s₀ s) (h : ∀ n, Binds next n s u v) :
    (attempt b).Keeps next (AttemptEnds s u v) s₀ := by
  unfold attempt
  refine keeps_andThen.2 ((keeps_context hview).mono fun r t ht => ?_)
  subst ht
  match r with
  | .error _ => exact rfl
  | .ok ctx =>
    dsimp only
    cases ctx.boundInterface? with
    | some i => exact keeps_bind.2 ((keeps_observeHeld (h ctx.me.instanceId).observe i).mono fun _ _ ht => Or.inl ht)
    | none =>
      refine keeps_andThen.2 ((keeps_bindIn (h ctx.me.instanceId)).mono fun r t ht => ?_)
      match r, ht with
      | .error _, ht => exact ht
      | .ok (.attached ..), ht => exact Or.inr ht
      | .ok .noneAvailable, ht => exact ht

def UnbindEnds (s u : S) : Except Error Unbound → S → Prop
  | .error _, t => t = s
  | .ok (.detached ..), t => t = u
  | .ok .notBound, t => t = s

theorem keeps_detach {i : Interface} (h : ∀ id, i.attachmentId = some id → Unbinds next id s u) :
    (detach i).Keeps next (UnbindEnds s u) s := by
  cases hid : i.attachmentId with
  | none =>
    unfold detach
    rw [hid]
    exact rfl
  | some id =>
    rw [detach_eq i hid]
    refine .ask (fun _ => s) (h id hid).detach fun (reply : Except Error Unit) => ?_
    match reply with
    | .error _ => exact rfl
    | .ok _ => exact .ask (fun _ => u) (fun _ => (h id hid).detached _) fun _ => rfl

/-- **An unbind asks, detaches at most once, and tells what came of it.** -/
theorem keeps_unbind (hview : Views next s₀ s) (h : ∀ id, Unbinds next id s u) :
    (unbind b).Keeps next (UnbindEnds s u) s₀ := by
  unfold unbind
  refine keeps_andThen.2 ((keeps_context hview).mono fun r t ht => ?_)
  subst ht
  match r with
  | .error _ => exact rfl
  | .ok ctx =>
    dsimp only
    cases ctx.boundInterface? with
    | none => exact rfl
    | some i => exact keeps_detach fun id _ => h id

/-- Where a rebind ends, by its result: it fails before the report or behind it. -/
def RebindEnds (s r u v : S) : Except Error Bool → S → Prop
  | .error _, t => t = s ∨ t = r
  | .ok true, _ => False
  | .ok false, t => t = u ∨ t = v

/-- **A rebind fills the registry, tells so, and binds.** -/
theorem keeps_rebind {r : S} {ctx : Context} (hsync : Resyncs next s r) (h : Binds next ctx.me.instanceId r u v) :
    (rebind b ctx).Keeps next (RebindEnds s r u v) s := by
  refine .ask (fun _ => s) (fun _ => hsync.observe) fun _ => ?_
  refine .ask (fun _ => s) hsync.clear fun (reply : Except Error Unit) => ?_
  match reply with
  | .error _ => exact Or.inl rfl
  | .ok _ =>
    refine .ask (fun _ => s) hsync.fill fun (reply : Except Error Nat) => ?_
    match reply with
    | .error _ => exact Or.inl rfl
    | .ok count =>
      refine .ask (fun _ => s) (hsync.letIn count) fun (reply : Except Error Unit) => ?_
      match reply with
      | .error _ => exact Or.inl rfl
      | .ok _ =>
        refine .ask (fun _ => r) (fun _ => hsync.resynced count) fun _ => ?_
        refine keeps_andThen.2 ((keeps_bindIn h).mono fun o t ht => ?_)
        match o, ht with
        | .error _, ht => exact Or.inr ht
        | .ok (.attached ..), ht => exact Or.inl ht
        | .ok .noneAvailable, ht => exact Or.inr ht

end Pass
end AddressBinder
