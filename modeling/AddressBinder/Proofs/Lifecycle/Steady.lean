import AddressBinder.Proofs.Lifecycle.Memoryless
/-!
# Passes that find their address

A pass that is told of a candidate address on its instance has nothing left to do: it asks no collaborator any more, it
says that it found the instance bound, and the next pass comes after the bound interval.  As a protocol (`steady?`), the
positions are those of what is found out, and a view that fails or finds nothing held is lost, after which anything may
come until the periodic task asks when to go on.  So a binder between two passes is steady, whatever has happened before
(`Scene.Reaches.steadySince_self`), and stays so for as long as no view of its is lost (`Scene.SteadySince.turn`).
-/
namespace AddressBinder

/-- Whether a binder whose passes all find their address may report the event. -/
def Event.isSteady (b : Binder) : Event → Bool
  | .passCompleted bound delay => bound && delay == b.config.boundInterval
  | e => !e.isOfPass

/-- Whether the operation looks for an address before it does anything about one. -/
def Operation.isSteady : Operation → Bool
  | .start | .runPass | .alreadyBound => true
  | _ => false

/-- Whether the call belongs to a view. -/
def Call.isView : Call → Bool
  | .metadata | .serviceUrls _ | .provider (.describeInstance _) => true
  | _ => false

namespace Lifecycle

open Program

namespace Finding

def isLost : Finding → Bool
  | .failed => true
  | _ => false

/-- A view that finds no candidate address held is lost. -/
def settle : Finding → Finding
  | .viewed candidates me =>
    if (Decision.boundInterface? me.interfaces candidates).isSome then .viewed candidates me else .failed
  | w => w

end Finding

/-- The protocol of an activity that finds its address. -/
def steady? (b : Binder) (w : Finding) : (r : Request) → r.Reply → Option Finding
  | .call c, reply =>
    if w.isLost then some .failed else if c.isView then (w.hear .restore c reply).map Finding.settle else none
  | .own (.note (.emit e)), _ => if w.isLost || e.isSteady b then some w else none
  | .own (.task _), _ => some .nothing
  | .own _, _ => some w
  | .clock _, _ => some w

section Protocol

variable {b : Binder} {w t : Finding} {α : Type}

theorem steady?_view {c : Call} {reply : c.Reply} (hw : w.isLost = false) (hc : c.isView = true) :
    steady? b w (.call c) reply = (w.hear .restore c reply).map Finding.settle := by
  simp [steady?, hw, hc]

theorem steady?_call {c : Call} {reply : c.Reply} (hw : w.isLost = false) (h : steady? b w (.call c) reply = some t) :
    c.isView = true ∧ ∃ u, w.hear .restore c reply = some u ∧ u.settle = t := by
  by_cases hc : c.isView = true
  · rw [steady?_view hw hc] at h
    exact ⟨hc, Option.map_eq_some_iff.1 h⟩
  · simp [steady?, hw, hc] at h

theorem steady?_own {o : Own} {reply : o.Reply} (h : steady? b w (.own o) reply = some t) : t = w ∨ t = .nothing := by
  cases o with
  | control _ => exact .inl (Option.some.inj h).symm
  | task _ => exact .inr (Option.some.inj h).symm
  | note n =>
    cases n with
    | observe _ => exact .inl (Option.some.inj h).symm
    | emit e =>
      obtain ⟨-, h⟩ := Option.ite_none_right_eq_some.1 h
      exact .inl (Option.some.inj h).symm

theorem lenient_steady (b : Binder) : Lenient (steady? b) where
  lets_own w o reply ho := by
    cases o with
    | control _ => exact ⟨w, rfl⟩
    | task _ => exact ⟨.nothing, rfl⟩
    | note n =>
      cases n with
      | observe _ => exact ⟨w, rfl⟩
      | emit e =>
        have hsteady : e.isSteady b = true := by cases e <;> first | rfl | cases ho
        exact ⟨w, by simp [steady?, hsteady]⟩
  lets_clock w _ _ := ⟨w, rfl⟩

/-- Something is true of a result, unless the activity is lost. -/
def UnlessLost (P : α → Prop) (a : α) (w : Finding) : Prop := w.isLost = true ∨ P a

theorem keeps_lost {P : α → Prop} (p : Program pass α) (hw : w.isLost = true) :
    p.Keeps (withinPass (steady? b)) (UnlessLost P) w := by
  obtain rfl : w = .failed := by cases w <;> first | rfl | cases hw
  have hstay : ∀ (r : Pass.Request) (reply : r.Reply), withinPass (steady? b) .failed r reply = some .failed := by
    intro r reply
    cases r with
    | call _ => rfl
    | note n => cases n <;> rfl
  exact (keeps_stay hstay p).mono fun _ _ ht => .inl (ht ▸ rfl)

end Protocol

/-! ## Passes -/

section Passes

open Pass

variable {b : Binder} {α : Type}

/-- **A view that is not lost has found a candidate address.** -/
theorem steady_context (w : Finding) : (context b).Keeps (withinPass (steady? b))
    (UnlessLost fun r => ∃ ctx i, r = .ok ctx ∧ ctx.boundInterface? = some i) w := by
  cases hw : w.isLost with
  | true => exact keeps_lost _ hw
  | false =>
    rw [context_eq]
    refine .ask (fun m => (Finding.ofMetadata m).settle) (fun _ => steady?_view (b := b) hw rfl)
      fun (m : Except Error InstanceMetadata) => ?_
    cases m with
    | error _ => exact .inl rfl
    | ok m =>
      have hurls : ∀ urls : Except Error (List String),
          steady? b (.named m) (.call (.serviceUrls m.availabilityZone)) urls = some (Finding.ofUrls m urls).settle := by
        intro urls
        rw [steady?_view rfl rfl]
        simp [Finding.hear]
      refine .ask (fun urls => (Finding.ofUrls m urls).settle) hurls fun (urls : Except Error (List String)) => ?_
      cases urls with
      | error _ => exact .inl rfl
      | ok urls =>
        unfold Finding.ofUrls
        dsimp only
        cases Candidates.ofEntries m.availabilityZone urls with
        | error e => exact .inl rfl
        | ok candidates =>
          have hview : ∀ d : Except Error (Option InstanceDescription),
              steady? b (.resolved m candidates) (.call (.provider (.describeInstance m.instanceId))) d =
                some (Finding.ofDescription candidates d).settle := by
            intro d
            rw [steady?_view rfl rfl]
            simp [Finding.hear]
          refine .ask (fun d => (Finding.ofDescription candidates d).settle) hview
            fun (d : Except Error (Option InstanceDescription)) => ?_
          match d with
          | .error _ => exact .inl rfl
          | .ok none => exact .inl rfl
          | .ok (some d) =>
            cases hbound : Decision.boundInterface? d.interfaces candidates with
            | none => exact .inl (by simp [Finding.ofDescription, Finding.settle, hbound, Finding.isLost])
            | some i => exact .inr ⟨_, i, rfl, hbound⟩

theorem steady_of_context {f : Context → Program pass (Except Error α)} {P : Except Error α → Prop}
    (hf : ∀ ctx i w, ctx.boundInterface? = some i → (f ctx).Keeps (withinPass (steady? b)) (UnlessLost P) w) (w : Finding) :
    ((context b).andThen f).Keeps (withinPass (steady? b)) (UnlessLost P) w := by
  refine keeps_bind.2 ((steady_context w).mono fun r t ht => ?_)
  rcases ht with hlost | ⟨ctx, i, rfl, hbound⟩
  · exact keeps_lost _ hlost
  · exact hf ctx i t hbound

theorem steady_observe (o : Observation) (w : Finding) :
    (observe o).Keeps (withinPass (steady? b)) (fun _ t => t = w) w := fun _ => ⟨w, rfl, rfl⟩

theorem steady_observeHeld (i : Interface) (w : Finding) :
    (observeHeld i).Keeps (withinPass (steady? b)) (fun _ t => t = w) w := by
  unfold observeHeld
  split
  · exact steady_observe _ w
  · rfl

theorem steady_alreadyBound (w : Finding) :
    (alreadyBound b).Keeps (withinPass (steady? b)) (UnlessLost (· = .ok true)) w := by
  refine steady_of_context (fun ctx i w hbound => ?_) w
  simp only [hbound]
  exact .inr rfl

theorem steady_attempt (w : Finding) : (attempt b).Keeps (withinPass (steady? b)) (UnlessLost (· = .ok true)) w := by
  refine steady_of_context (fun ctx i w hbound => ?_) w
  simp only [hbound]
  exact keeps_bind.2 ((steady_observeHeld i w).mono fun _ _ _ => .inr rfl)

theorem steady_reconcile (w : Finding) : (reconcile b).Keeps (withinPass (steady? b)) (UnlessLost (· = .ok true)) w := by
  refine steady_of_context (fun ctx i w hbound => ?_) w
  simp only [hbound]
  exact keeps_bind.2 ((steady_observeHeld i w).mono fun _ _ _ => .inr rfl)

/-- **A periodic pass that is not lost says that it found the instance bound**, and returns the bound interval. -/
theorem steady_periodic (w : Finding) :
    (periodic b).Keeps (withinPass (steady? b)) (UnlessLost (· = b.config.boundInterval)) w := by
  refine keeps_bind.2 ((steady_reconcile w).mono fun r t ht => ?_)
  rcases ht with hlost | rfl
  · exact keeps_lost _ hlost
  · have hsteady : (Event.passCompleted true (nextDelay b true)).isSteady b = true := by
      simp [Event.isSteady, nextDelay]
    refine .ask (fun _ => t) (fun _ => rfl) fun _ => ?_
    refine .ask (fun _ => t) (fun _ => ?_) fun _ => .inr rfl
    simp [withinPass, steady?, hsteady]

end Passes

/-! ## Operations and rounds -/

/-- How an activity ends whose instance keeps its address. -/
def Role.Expects (b : Binder) : Role → Finish → Prop
  | .operation .runPass, f => f = .operation (.delay b.config.boundInterval)
  | .operation .alreadyBound, f => f = .operation (.held (.ok true))
  | _, _ => True

/-- An activity is at a position of the protocol of which something is true; if it is of the expected ones, it ends as
its role expects. -/
def Steady (b : Binder) (expected : Prop) (T : Finding → Prop) (a : Activity) : Prop :=
  ∃ w, a.program.Keeps (steady? b) (UnlessLost fun f => expected → a.role.Expects b f) w ∧ T w

section Steady

variable {b : Binder} {expected : Prop} {T : Finding → Prop} {a : Activity}

theorem keepsAlways_periodic : (Pass.periodic b).KeepsAlways (withinPass (steady? b)) := fun w =>
  (steady_periodic w).mono fun _ _ _ => trivial

theorem steady_laterRound (delay : Nat) : (laterRound b delay).KeepsAlways (steady? b) :=
  (lenient_steady b).laterRound keepsAlways_periodic delay

theorem steady_ofRound {p : Program lifecycle (Option Nat)} (hp : p.KeepsAlways (steady? b)) (h : T .nothing) :
    Steady b expected T (.ofRound p) :=
  ⟨.nothing, keeps_bind.2 ((hp _).mono fun _ _ _ => .inr fun _ => trivial), h⟩

/-- **An operation that is launched is steady.** -/
theorem steady_ofOperation {op : Operation} (hop : op.isSteady = true) (h : T .nothing) :
    Steady b expected T (.ofOperation b op) := by
  refine ⟨.nothing, keeps_bind.2 ?_, h⟩
  cases op with
  | start =>
    have hattempt : (Pass.attempt b).KeepsAlways (withinPass (steady? b)) := fun w =>
      (steady_attempt w).mono fun _ _ _ => trivial
    exact keeps_bind.2 (((lenient_steady b).start hattempt _).mono fun _ _ _ => .inr fun _ => trivial)
  | runPass =>
    refine keeps_bind.2 ((keeps_ofPass (steady_periodic _)).mono fun ms t ht => ?_)
    exact ht.imp_right fun hms _ => by rw [hms]; rfl
  | alreadyBound =>
    refine keeps_bind.2 ((keeps_ofPass (steady_alreadyBound _)).mono fun r t ht => ?_)
    exact ht.imp_right fun hr _ => by rw [hr]; rfl
  | _ => cases hop

theorem Steady.same {a' : Activity} (h : Steady b expected T a) (hrole : a'.role = a.role)
    (hp : a'.program = a.program) : Steady b expected T a' := by
  obtain ⟨w, hk, hw⟩ := h
  exact ⟨w, by rw [hrole, hp]; exact hk, hw⟩

/-- **A steady activity that gets a reply stays steady** where the reply leads. -/
theorem Steady.goOn {r : Request} {f : r.Reply → Program lifecycle Finish} {reply : r.Reply}
    (h : Steady b expected T a) (hp : a.program = .ask r f) (hnew : T .nothing)
    (hT : ∀ w t, T w → steady? b w r reply = some t → T t) : Steady b expected T (a.goOn b (f reply)) := by
  obtain ⟨w, hk, hw⟩ := h
  rw [hp] at hk
  obtain ⟨t, ht, hrest⟩ := hk reply
  have htold : T t := hT w t hw ht
  generalize f reply = p at hrest
  match p, hrest with
  | .done (.round (some delay)), _ => exact steady_ofRound (steady_laterRound delay) hnew
  | .done (.round none), hrest => exact ⟨t, hrest, htold⟩
  | .done (.operation _), hrest => exact ⟨t, hrest, htold⟩
  | .ask _ _, hrest => exact ⟨t, hrest, htold⟩

theorem Steady.isView {c : Call} {f : Request.Reply (.call c) → Program lifecycle Finish} (h : Steady b expected T a)
    (hlost : ∀ w, T w → w.isLost = false) (hp : a.program = .ask (.call c) f) : c.isView = true := by
  obtain ⟨w, hk, hw⟩ := h
  rw [hp] at hk
  obtain ⟨t, ht, -⟩ := hk (.error default)
  exact (steady?_call (hlost w hw) ht).1

theorem Steady.emits {e : Event} {f : Unit → Program lifecycle Finish} (h : Steady b expected T a)
    (hlost : ∀ w, T w → w.isLost = false) (hp : a.program = .ask (.own (.note (.emit e))) f) :
    e.isSteady b = true := by
  obtain ⟨w, hk, hw⟩ := h
  rw [hp] at hk
  obtain ⟨t, ht, -⟩ := hk ()
  by_cases he : e.isSteady b = true
  · exact he
  · simp [steady?, hlost w hw, he] at ht

theorem Steady.result {r : Operation.Result} (h : Steady b expected T a) (hlost : ∀ w, T w → w.isLost = false)
    (hexpected : expected) (hr : a.result? = some r) : a.role.Expects b (.operation r) := by
  obtain ⟨w, hk, hw⟩ := h
  rw [Activity.program_of_result? hr] at hk
  rcases hk with hl | hexpects
  · rw [hlost w hw] at hl
    cases hl
  · exact hexpects hexpected

end Steady

/-! ## The whole binder -/

/-- What a binder does that finds its address: it asks for views, and of its passes it tells that they found it. -/
def Line.IsSteady (b : Binder) (l : Line) : Prop :=
  match l.deed with
  | .issued c => c.isView = true
  | .answered r _ => ∀ e ∈ r.event?, e.isSteady b = true

/-- What is left of an activity that is one pass is the rest of that pass. -/
def Activity.InPass (a : Activity) : Prop :=
  ∀ op, a.role = .operation op → op.isPass = true → ∃ q, a.program = remainder q

/-- Whether the activity has ended, or is the periodic task between two passes. -/
def Activity.rests (a : Activity) : Bool :=
  match a.program with
  | .done _ => true
  | .ask (.own (.task _)) _ => a.role == .periodic
  | .ask _ _ => false

theorem steady_of_rests {b : Binder} {expected : Prop} {T : Finding → Prop} {a : Activity} (h : a.rests = true)
    (hperiodic : a.role = .periodic → ∃ w, a.program.Keeps (steady? b) (fun _ _ => True) w) (hold : ¬ expected)
    (hT : T .nothing) : Steady b expected T a := by
  refine ⟨.nothing, ?_, hT⟩
  unfold Activity.rests at h
  split at h
  · rename_i f hp
    rw [hp]
    exact .inr fun hexpected => absurd hexpected hold
  · -- where the task asks, what was found before is forgotten
    rename_i r f hp
    obtain ⟨w, hw⟩ := hperiodic (eq_of_beq h)
    rw [hp] at hw ⊢
    intro reply
    obtain ⟨t, ht, hrest⟩ := hw reply
    exact ⟨t, ht, hrest.mono fun _ _ _ => .inr fun hexpected => absurd hexpected hold⟩
  · cases h

namespace Scene

/-- Whether no operation is under way, and the periodic task is between two passes. -/
def rests (x : Scene) : Bool := x.activities.all Activity.rests

/-- Since it was as before, the binder has found its address: every activity is steady, and those that were launched end
as expected. -/
structure SteadySince (b : Binder) (T : Finding → Prop) (before x : Scene) : Prop where
  activities : ∀ {k : Nat} {a : Activity}, x.activities[k]? = some a → Steady b (before.activities.length ≤ k) T a
  passes : ∀ {k : Nat} {a : Activity}, before.activities.length ≤ k → x.activities[k]? = some a → a.InPass
  log : ∃ lines, x.log = before.log ++ lines ∧ ∀ l ∈ lines, l.IsSteady b

variable {b : Binder} {T : Finding → Prop} {before x y : Scene} {act : Act} {acts : List Act} {k : Nat} {a : Activity}

theorem Heir.inPass (h : Heir b x act y k a)
    (hx : ∀ {a : Activity}, x.activities[k]? = some a → a.InPass) : a.InPass := by
  intro op hrole hop
  cases h with
  | same hn hsame hp _ =>
    rw [hp]
    exact hx hn op (hsame ▸ hrole) hop
  | launched op' _ _ =>
    cases hrole
    obtain ⟨p, hprogram⟩ := Operation.program_of_pass (b := b) hop
    exact ⟨p, program_launched hprogram⟩
  | @resumed a r f reply _ hn hp _ _ _ _ =>
    have hsame : a.role = .operation op := by
      unfold Activity.goOn at hrole
      split at hrole
      · cases hrole
      · exact hrole
    obtain ⟨q, hq⟩ := hx hn op hsame hop
    obtain ⟨q', hq'⟩ := remainder_resume (hq.symm.trans hp) reply
    rw [hq', goOn_remainder]
    exact ⟨q', rfl⟩

/-- The periodic task keeps to the protocol of a steady one, whatever it is told. -/
theorem Reaches.keeps_periodic (h : Reaches b acts x) : ∀ (k : Nat) (a : Activity), x.activities[k]? = some a →
    a.role = .periodic → ∃ w, a.program.Keeps (steady? b) (fun _ _ => True) w := by
  have hround : ∀ {p : Program lifecycle (Option Nat)}, p.KeepsAlways (steady? b) →
      ∃ w, (Activity.ofRound p).program.Keeps (steady? b) (fun _ _ => True) w := fun hp =>
    ⟨.nothing, (hp.bind fun _ => keepsAlways_done _) _⟩
  refine h.induction (P := fun _ x => ∀ (k : Nat) (a : Activity), x.activities[k]? = some a → a.role = .periodic →
    ∃ w, a.program.Keeps (steady? b) (fun _ _ => True) w) ?_ ?_
  · intro k a hk _
    obtain rfl := List.mem_singleton.1 (List.mem_of_getElem? hk)
    exact hround ((lenient_steady b).firstRound keepsAlways_periodic)
  · intro acts x act y _ hx ht k a hk hrole
    cases ht.heir hk with
    | same hn hsame hp _ =>
      rw [hp]
      exact hx k _ hn (hsame ▸ hrole)
    | launched => cases hrole
    | @resumed a r f reply _ hn hp _ _ _ _ =>
      unfold Activity.goOn at hrole ⊢
      split
      · exact hround (steady_laterRound _)
      · rename_i hmore
        have hsame : a.role = .periodic := by simpa [hmore] using hrole
        obtain ⟨w, hw⟩ := hx k a hn hsame
        rw [hp] at hw
        obtain ⟨t, -, hrest⟩ := hw reply
        exact ⟨t, hrest⟩

/-- **A binder at rest is steady**, whatever has happened to it. -/
theorem Reaches.steadySince_self (h : Reaches b acts x) (hx : x.rests = true) (hT : T .nothing) :
    SteadySince b T x x := by
  refine ⟨fun {k a} hk => ?_, fun {k a} hle hk => ?_, [], (List.append_nil _).symm,
    fun _ hl => absurd hl List.not_mem_nil⟩
  · have hlt : k < x.activities.length := (List.getElem?_eq_some_iff.1 hk).1
    have hrests : a.rests = true := List.all_eq_true.1 hx a (List.mem_of_getElem? hk)
    exact steady_of_rests hrests (fun hrole => h.keeps_periodic k a hk hrole) (Nat.not_le.2 hlt) hT
  · exact absurd (List.getElem?_eq_some_iff.1 hk).1 (Nat.not_lt.2 hle)

/-- **A steady binder stays steady**, whatever it launches that looks for an address first, and whatever replies keep its
activities where they should be. -/
theorem SteadySince.turn (hx : SteadySince b T before x) (h : x.Turn b act y)
    (hop : ∀ op, act = .launch op → op.isSteady = true) (hnew : T .nothing) (hlost : ∀ w, T w → w.isLost = false)
    (hT : ∀ w t k r reply, Brings act k r reply → T w → steady? b w r reply = some t → T t) :
    SteadySince b T before y where
  activities hk := by
    cases h.heir hk with
    | same hn hrole hp _ => exact (hx.activities hn).same hrole hp
    | launched op hact _ => exact steady_ofOperation (hop op hact) hnew
    | resumed reply _ hn hp _ hb _ _ =>
      exact (hx.activities hn).goOn hp hnew fun w t hw ht => hT w t _ _ reply hb hw ht
  passes hle hk := (h.heir hk).inPass (hx.passes hle)
  log := by
    obtain ⟨lines, hlog, hlines⟩ := hx.log
    have hconcat : ∀ l : Line, l.IsSteady b →
        ∃ lines, x.log ++ [l] = before.log ++ lines ∧ ∀ l ∈ lines, l.IsSteady b := fun l hl =>
      ⟨lines ++ [l], by rw [hlog, List.append_assoc], List.forall_mem_append.2 ⟨hlines, List.forall_mem_singleton.2 hl⟩⟩
    cases h with
    | launch _ | aside => exact ⟨lines, hlog, hlines⟩
    | issue hn hp => exact hconcat _ ((hx.activities hn).isView hlost hp)
    | @resume _ _ _ r f reply _ hn hp =>
      refine hconcat _ fun e he => ?_
      have hr : r = .own (.note (.emit e)) := by
        unfold Request.event? at he
        split at he
        · rw [Option.some.inj he]
        · cases he
      subst hr
      exact (hx.activities hn).emits hlost hp

end Scene

end Lifecycle
end AddressBinder
