import AddressBinder.Binder.Pass
/-!
# Passes, request by request

What the programs of a pass ask first and what each reply makes of them, the inventory in between taken away: the
instance is described by one call of the provider, whose reply is sorted (`ofProvider_describeSelf`), and a view is three
calls, of which the last needs the answers of the others (`context_eq`).
-/
namespace AddressBinder

/-- What the inventory makes of the provider's description of an instance. -/
def Inventory.identified (backend : String) (metadata : InstanceMetadata) :
    Except Error (Option InstanceDescription) → Except Error InstanceIdentity
  | .error e => .error (queryError backend e)
  | .ok none => .error (.notFound ("instance " ++ metadata.instanceId))
  | .ok (some d) => .ok ⟨d.instanceId, metadata.availabilityZone, d.subnetId, d.interfaces⟩

namespace Pass

theorem addresses_ne_nil {candidates : Candidates} {zone : String} {urls : List String}
    (h : Candidates.ofEntries zone urls = .ok candidates) : candidates.addresses ≠ [] := by
  unfold Candidates.ofEntries at h
  cases urls with
  | nil => cases h
  | cons url urls =>
    simp only [List.isEmpty_cons, Bool.false_eq_true, if_false, Candidate.decodeAll] at h
    split at h
    · cases h
    rename_i ips hips
    obtain rfl := Except.ok.inj h
    split at hips
    · cases hips
    split at hips
    · cases hips
    obtain rfl := Except.ok.inj hips
    exact List.cons_ne_nil _ _

theorem ofProvider_describeSelf (backend : String) (metadata : InstanceMetadata) :
    ofProvider (Inventory.describeSelf backend metadata) =
      .ask (.call (.provider (.describeInstance metadata.instanceId))) fun reply =>
        .done (Inventory.identified backend metadata reply) :=
  congrArg (Program.ask _) (funext fun (reply : Except Error (Option InstanceDescription)) => by
    match reply with
    | .error _ => rfl
    | .ok none => rfl
    | .ok (some _) => rfl)

theorem describeSelf_andThen (b : Binder) (m : InstanceMetadata) (candidates : Candidates) :
    (ofProvider (Inventory.describeSelf b.backend m)).andThen
        (fun me => .done (.ok (⟨me, candidates⟩ : Context))) =
      .ask (.call (.provider (.describeInstance m.instanceId))) fun reply =>
        .done ((Inventory.identified b.backend m reply).map fun me => ⟨me, candidates⟩) := by
  rw [ofProvider_describeSelf]
  refine congrArg (Program.ask _) (funext fun reply => ?_)
  cases h : Inventory.identified b.backend m reply <;> simp only [Program.done_bind, h] <;> rfl

/-- **A view is three calls**: who the instance is, which addresses its zone has, and what is attached to it. -/
theorem context_eq (b : Binder) :
    context b = .ask (.call .metadata) fun (m : Except Error InstanceMetadata) =>
      match m with
      | .error e => .done (.error e)
      | .ok m => .ask (.call (.serviceUrls m.availabilityZone)) fun (urls : Except Error (List String)) =>
        match urls with
        | .error e => .done (.error e)
        | .ok urls =>
          match Candidates.ofEntries m.availabilityZone urls with
          | .error e => .done (.error e)
          | .ok candidates => .ask (.call (.provider (.describeInstance m.instanceId))) fun reply =>
            .done ((Inventory.identified b.backend m reply).map fun me => ⟨me, candidates⟩) := by
  refine congrArg (Program.ask _) (funext fun (m : Except Error InstanceMetadata) => ?_)
  match m with
  | .error _ => rfl
  | .ok m =>
    refine congrArg (Program.ask _) (funext fun (urls : Except Error (List String)) => ?_)
    match urls with
    | .error _ => rfl
    | .ok urls =>
      show (Program.done (Candidates.ofEntries m.availabilityZone urls)).andThen _ = _
      dsimp only
      cases Candidates.ofEntries m.availabilityZone urls with
      | error e => rfl
      | ok candidates =>
        rw [Program.andThen_ok]
        exact describeSelf_andThen b m candidates

theorem attach_eq (ctx : Context) (i : Interface) {ip : Ipv4} (hip : i.privateIp = some ip) :
    attach ctx i = .ask (.call (.provider (.attach i.interfaceId ctx.me.instanceId Inventory.secondarySlot)))
      fun (reply : Except Error String) =>
        match reply with
        | .error e => .done (.error (Inventory.attachError i.interfaceId e))
        | .ok id => .ask (.note (.observe (.bound ip))) fun _ =>
          .ask (.note (.emit (.attached i.interfaceId ip id))) fun _ =>
            .done (.ok (.attached i.interfaceId ip id)) := by
  unfold attach
  rw [hip]
  refine congrArg (Program.ask _) (funext fun (reply : Except Error String) => ?_)
  cases reply <;> rfl

theorem bindIn_eq (b : Binder) (ctx : Context) :
    bindIn b ctx = .ask (.call (.provider (.describeInterfaces
        (Inventory.availableFilter ctx.candidates ctx.me.subnetId)))) fun (reply : Except Error (List Interface)) =>
      match reply with
      | .error e => .done (.error (Inventory.queryError b.backend e))
      | .ok available =>
        match Decision.select? available ctx.candidates with
        | none => .ask (.note (.emit (.noInterfaceAvailable ctx.me.availabilityZone))) fun _ =>
          .done (.ok .noneAvailable)
        | some i => attach ctx i := by
  refine congrArg (Program.ask _) (funext fun (reply : Except Error (List Interface)) => ?_)
  cases reply <;> rfl

theorem detach_eq (i : Interface) {id : String} (hid : i.attachmentId = some id) :
    detach i = .ask (.call (.provider (.detach id))) fun (reply : Except Error Unit) =>
      match reply with
      | .error e => .done (.error (Inventory.detachError id e))
      | .ok _ => .ask (.note (.emit (.detached i.interfaceId id))) fun _ =>
        .done (.ok (.detached i.interfaceId id)) := by
  unfold detach
  rw [hid]
  refine congrArg (Program.ask _) (funext fun (reply : Except Error Unit) => ?_)
  cases reply <;> rfl

end Pass
end AddressBinder
