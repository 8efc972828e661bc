import AddressBinder.Proofs.Decision
import AddressBinder.Proofs.Lifecycle.Conduct
/-!
# Loyalty

A binder calls the provider for one instance only, the one that its metadata names: it describes that instance,
attaches to it, and releases nothing but attachments that it was told are attached to it.  As a protocol the position is
what the binder was told about itself; every operation and every round of the periodic task keeps to it from wherever it
begins (`loyal_program`, `loyal_firstRound`, `loyal_laterRound`), so no order of the activities can break it.
-/
namespace AddressBinder

/-- Whether a call concerns only the instance `own` and the attachments `ids`. -/
def Call.isLoyal (own : String) (ids : List String) : Call → Bool
  | .provider (.describeInstance n) => n == own
  | .provider (.attach _ n _) => n == own
  | .provider (.detach id) => ids.contains id
  | _ => true

namespace Lifecycle

open Program

/-- What a binder was told about itself. -/
inductive Lore where
  /-- It was told the name of another instance, once. -/
  | misled
  /-- It was told its own name, and that the attachments with these ids are its own. -/
  | knows (ids : List String)

/-- What a binder knows after the reply to a call. -/
def Lore.hear (own : String) (ids : List String) : (c : Call) → c.Reply → Lore
  | .metadata, .ok (m : InstanceMetadata) => if m.instanceId = own then .knows ids else .misled
  | .provider (.describeInstance _), .ok (some (d : InstanceDescription)) =>
    if d.instanceId = own then .knows (d.interfaces.filterMap (·.attachmentId) ++ ids) else .misled
  | _, _ => .knows ids

/-- The protocol of a binder that calls for one instance only; of a misled one nothing is asked. -/
def loyal (own : String) : Protocol lifecycle Lore
  | .knows ids, .call c, reply => if c.isLoyal own ids then some (.hear own ids c reply) else none
  | lore, _, _ => some lore

variable {own : String} {α : Type} {b : Binder}

theorem hear_metadata (ids : List String) (m : InstanceMetadata) :
    Lore.hear own ids .metadata (.ok m) = if m.instanceId = own then .knows ids else .misled := rfl

theorem hear_description (ids : List String) (n : String) (d : InstanceDescription) :
    Lore.hear own ids (.provider (.describeInstance n)) (.ok (some d)) =
      if d.instanceId = own then .knows (d.interfaces.filterMap (·.attachmentId) ++ ids) else .misled := rfl

theorem keeps_loyal_call {Q : α → Lore → Prop} {ids : List String} {c : Call}
    {k : Request.Reply (.call c) → Program lifecycle α} :
    (Program.ask (σ := lifecycle) (.call c) k).Keeps (loyal own) Q (.knows ids) ↔
      c.isLoyal own ids = true ∧ ∀ reply, (k reply).Keeps (loyal own) Q (.hear own ids c reply) := by
  rw [keeps_ask]
  constructor
  · intro h
    have hc : c.isLoyal own ids = true := by
      obtain ⟨t, ht, -⟩ := h (.error default)
      by_cases hc : c.isLoyal own ids = true
      · exact hc
      · simp [loyal, hc] at ht
    refine ⟨hc, fun reply => ?_⟩
    obtain ⟨t, ht, hk⟩ := h reply
    simp only [loyal, hc, if_true, Option.some.injEq] at ht
    exact ht ▸ hk
  · rintro ⟨hc, h⟩ reply
    exact ⟨_, by simp [loyal, hc], h reply⟩

/-! ## Passes -/

theorem keeps_misled (p : Program pass α) : p.Keeps (withinPass (loyal own)) (fun _ t => t = .misled) .misled :=
  keeps_stay (fun r _ => by cases r <;> rfl) p

/-- The view of a pass says what the binder was told. -/
def Lore.Grounds (own : String) : Lore → Pass.Context → Prop
  | .misled, _ => True
  | .knows ids, ctx => ctx.me.instanceId = own ∧ ∀ i ∈ ctx.me.interfaces, ∀ id, i.attachmentId = some id → id ∈ ids

theorem grounds_identified {m : InstanceMetadata} {candidates : Candidates} {ids : List String}
    {reply : Except Error (Option InstanceDescription)} {me : InstanceIdentity}
    (h : Inventory.identified b.backend m reply = .ok me) :
    (Lore.hear own ids (.provider (.describeInstance m.instanceId)) reply).Grounds own ⟨me, candidates⟩ := by
  match reply, h with
  | .error _, h => cases h
  | .ok none, h => cases h
  | .ok (some d), h =>
    obtain rfl := Except.ok.inj h
    by_cases hd : d.instanceId = own
    · rw [hear_description, if_pos hd]
      refine ⟨hd, fun i hi id hid => ?_⟩
      have hmem : id ∈ d.interfaces.filterMap (·.attachmentId) := List.mem_filterMap.2 ⟨i, hi, hid⟩
      exact List.mem_append_left ids hmem
    · rw [hear_description, if_neg hd]
      trivial

/-- **A view is grounded in what the binder was told.** -/
theorem keeps_context_loyal : ∀ s : Lore, (Pass.context b).Keeps (withinPass (loyal own))
    (fun r t => ∀ ctx, r = .ok ctx → t.Grounds own ctx) s
  | .misled => (keeps_misled _).mono fun _ t ht _ _ => by subst ht; trivial
  | .knows ids => by
    rw [Pass.context_eq]
    refine .ask (Lore.hear own ids .metadata) (fun _ => rfl) fun (m : Except Error InstanceMetadata) => ?_
    match m with
    | .error _ => exact nofun
    | .ok m =>
      by_cases hm : m.instanceId = own
      · rw [hear_metadata, if_pos hm]
        refine .ask (fun _ => .knows ids) (fun _ => rfl) fun (urls : Except Error (List String)) => ?_
        match urls with
        | .error _ => exact nofun
        | .ok urls =>
          dsimp only
          cases Candidates.ofEntries m.availabilityZone urls with
          | error e => exact nofun
          | ok candidates =>
            -- the metadata was right, so it is the own instance that is described
            refine .ask (Lore.hear own ids (.provider (.describeInstance m.instanceId))) ?_ fun reply => ?_
            · simp [withinPass, loyal, Call.isLoyal, hm]
            · intro ctx hctx
              cases hme : Inventory.identified b.backend m reply with
              | error e => rw [hme] at hctx; cases hctx
              | ok me =>
                rw [hme] at hctx
                obtain rfl := Except.ok.inj hctx
                exact grounds_identified hme
      · rw [hear_metadata, if_neg hm]
        exact (keeps_misled _).mono fun _ t ht _ _ => by subst ht; trivial

variable {s : Lore} {ctx : Pass.Context}

theorem binds_loyal (h : s.Grounds own ctx) : Pass.Binds (withinPass (loyal own)) ctx.me.instanceId s s s := by
  cases s with
  | misled => exact ⟨fun _ _ => rfl, fun _ _ _ => rfl, fun _ => rfl, fun _ _ _ => rfl, fun _ => rfl⟩
  | knows ids =>
    obtain ⟨hname, -⟩ := h
    have hattach : ∀ i d, (Call.provider (.attach i ctx.me.instanceId d)).isLoyal own ids = true := fun _ _ => by
      simp [Call.isLoyal, hname]
    refine ⟨fun _ _ => rfl, fun i d _ => ?_, fun _ => rfl, fun _ _ _ => rfl, fun _ => rfl⟩
    exact if_pos (hattach i d)

theorem unbinds_loyal (h : s.Grounds own ctx) {i : Interface} (hi : i ∈ ctx.me.interfaces) {id : String}
    (hid : i.attachmentId = some id) : Pass.Unbinds (withinPass (loyal own)) id s s := by
  cases s with
  | misled => exact ⟨fun _ => rfl, fun _ => rfl⟩
  | knows ids =>
    obtain ⟨-, hids⟩ := h
    have hdetach : (Call.provider (.detach id)).isLoyal own ids = true := by
      simpa [Call.isLoyal] using hids i hi id hid
    exact ⟨fun _ => if_pos hdetach, fun _ => rfl⟩

theorem keeps_bindIn_loyal (h : s.Grounds own ctx) :
    (Pass.bindIn b ctx).Keeps (withinPass (loyal own)) (fun _ _ => True) s :=
  (Pass.keeps_bindIn (binds_loyal h)).mono fun _ _ _ => trivial

theorem mem_of_boundInterface? {i : Interface} (h : ctx.boundInterface? = some i) : i ∈ ctx.me.interfaces :=
  (Decision.chosen_of_best? h).mem

theorem keeps_detach_loyal (h : s.Grounds own ctx) {i : Interface} (hi : ctx.boundInterface? = some i) :
    (Pass.detach i).Keeps (withinPass (loyal own)) (fun _ _ => True) s :=
  (Pass.keeps_detach fun _ hid => unbinds_loyal h (mem_of_boundInterface? hi) hid).mono fun _ _ _ => trivial

theorem loyal_note (s : Lore) (n : Note) (reply : Unit) : withinPass (loyal own) s (.note n) reply = some s := by
  cases s <;> rfl

theorem keeps_observeHeld_loyal (i : Interface) :
    (Pass.observeHeld i).Keeps (withinPass (loyal own)) (fun _ t => t = s) s :=
  Pass.keeps_observeHeld (fun _ => loyal_note s _ _) i

/-- **What follows a view may rely on its ground.** -/
theorem loyal_of_context {β : Type} {f : Pass.Context → Program pass (Except Error β)}
    (hf : ∀ s ctx, s.Grounds own ctx → (f ctx).Keeps (withinPass (loyal own)) (fun _ _ => True) s) :
    ((Pass.context b).andThen f).KeepsAlways (withinPass (loyal own)) := by
  intro s
  refine keeps_andThen.2 ((keeps_context_loyal s).mono fun r t ht => ?_)
  match r, ht with
  | .error _, _ => trivial
  | .ok ctx, ht => exact hf t ctx (ht ctx rfl)

theorem loyal_attempt : (Pass.attempt b).KeepsAlways (withinPass (loyal own)) := by
  refine loyal_of_context fun s ctx h => ?_
  cases ctx.boundInterface? with
  | some i => exact keeps_bind.2 ((keeps_observeHeld_loyal i).mono fun _ _ _ => trivial)
  | none =>
    refine keeps_andThen.2 ((keeps_bindIn_loyal h).mono fun r t _ => ?_)
    rcases r with _ | ⟨_ | _⟩ <;> trivial

theorem loyal_alreadyBound : (Pass.alreadyBound b).KeepsAlways (withinPass (loyal own)) :=
  loyal_of_context fun s _ _ => keepsAlways_done _ s

theorem loyal_unbind : (Pass.unbind b).KeepsAlways (withinPass (loyal own)) := by
  refine loyal_of_context fun s ctx h => ?_
  cases hi : ctx.boundInterface? with
  | none => trivial
  | some i => exact keeps_detach_loyal h hi

theorem resyncs_loyal (s : Lore) : Pass.Resyncs (withinPass (loyal own)) s s := by
  cases s <;> exact ⟨rfl, fun _ => rfl, fun _ => rfl, fun _ _ => rfl, fun _ => rfl⟩

theorem loyal_reconcile : (Pass.reconcile b).KeepsAlways (withinPass (loyal own)) := by
  refine loyal_of_context fun s ctx h => ?_
  cases ctx.boundInterface? with
  | some i => exact keeps_bind.2 ((keeps_observeHeld_loyal i).mono fun _ _ _ => trivial)
  | none => exact (Pass.keeps_rebind (resyncs_loyal s) (binds_loyal h)).mono fun _ _ _ => trivial

theorem loyal_periodic : (Pass.periodic b).KeepsAlways (withinPass (loyal own)) := by
  refine loyal_reconcile.bind fun r s => ?_
  cases r with
  | ok bound =>
    exact .ask (fun _ => s) (loyal_note s _) fun _ => .ask (fun _ => s) (loyal_note s _) fun _ => trivial
  | error e =>
    exact .ask (fun _ => s) (loyal_note s _) fun _ => .ask (fun _ => s) (loyal_note s _) fun _ => trivial

/-! ## Operations and rounds -/

theorem lenient_loyal (own : String) : Lenient (loyal own) where
  lets_own s o reply _ := by cases s <;> exact ⟨_, rfl⟩
  lets_clock s r reply := by cases s <;> exact ⟨_, rfl⟩

/-- **Every operation is loyal**, whatever the binder was told before. -/
theorem loyal_program (op : Operation) : (op.program b).KeepsAlways (loyal own) := by
  have hfree : Lenient (loyal own) := lenient_loyal own
  cases op with
  | start => exact (hfree.start loyal_attempt).bind fun _ => keepsAlways_done _
  | shutdown => exact (hfree.shutdown loyal_unbind).bind fun _ => keepsAlways_done _
  | runPass => exact (keepsAlways_ofPass loyal_periodic).bind fun _ => keepsAlways_done _
  | alreadyBound => exact (keepsAlways_ofPass loyal_alreadyBound).bind fun _ => keepsAlways_done _
  | bind =>
    have hbind : (Pass.bind b).KeepsAlways (withinPass (loyal own)) := loyal_of_context fun _ _ h => keeps_bindIn_loyal h
    exact (keepsAlways_ofPass hbind).bind fun _ => keepsAlways_done _
  | unbind => exact (keepsAlways_ofPass loyal_unbind).bind fun _ => keepsAlways_done _

theorem loyal_laterRound (delay : Nat) : (laterRound b delay).KeepsAlways (loyal own) :=
  (lenient_loyal own).laterRound loyal_periodic delay

theorem loyal_firstRound : (firstRound b).KeepsAlways (loyal own) := (lenient_loyal own).firstRound loyal_periodic

end Lifecycle
end AddressBinder
