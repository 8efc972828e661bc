import AddressBinder.Cloud.Provider
import AddressBinder.Retry
/-!
# Protocols of programs

A protocol says which requests may come in a position and where each reply leads.  `Keeps` says that a program keeps to
a protocol from a position on, whatever the replies are; it is computed from the outside in, one rule per way of putting
programs together, so a program is never run to see what it asks.  `Leads` are the runs themselves, taken apart by the
same rules.
-/
namespace AddressBinder

/-- Where each reply to a request leads from a position; nowhere when the request may not come there. -/
abbrev Protocol (σ : Signature) (S : Type) := S → (r : σ.Request) → σ.Reply r → Option S

namespace Program

variable {σ τ : Signature} {S T α β : Type}

/-- A program keeps to a protocol from a position on, and `Q` holds of its result and of the position it ends in. -/
def Keeps (next : Protocol σ S) (Q : α → S → Prop) : Program σ α → S → Prop
  | .done a, s => Q a s
  | .ask r k, s => ∀ reply, ∃ t, next s r reply = some t ∧ (k reply).Keeps next Q t

variable {next : Protocol σ S}

@[simp] theorem keeps_done {Q : α → S → Prop} {a : α} {s : S} : (Program.done a : Program σ α).Keeps next Q s ↔ Q a s :=
  Iff.rfl

theorem keeps_ask {Q : α → S → Prop} {r : σ.Request} {k : σ.Reply r → Program σ α} {s : S} :
    (Program.ask r k).Keeps next Q s ↔ ∀ reply, ∃ t, next s r reply = some t ∧ (k reply).Keeps next Q t := Iff.rfl

theorem Keeps.mono {Q Q' : α → S → Prop} (h : ∀ a s, Q a s → Q' a s) :
    ∀ {p : Program σ α} {s : S}, p.Keeps next Q s → p.Keeps next Q' s
  | .done a, s, hp => h a s hp
  | .ask _ _, _, hp => fun reply =>
    let ⟨t, ht, hk⟩ := hp reply
    ⟨t, ht, Keeps.mono h hk⟩

/-- **One program and then another keep to a protocol when the second does from wherever the first ends.** -/
theorem keeps_bind {Q : β → S → Prop} {f : α → Program σ β} : ∀ {p : Program σ α} {s : S},
    (p.bind f).Keeps next Q s ↔ p.Keeps next (fun a t => (f a).Keeps next Q t) s
  | .done _, _ => Iff.rfl
  | .ask _ k, _ => forall_congr' fun reply =>
    exists_congr fun _ => and_congr_right fun _ => keeps_bind (p := k reply)

theorem Keeps.ask {Q : α → S → Prop} {r : σ.Request} {k : σ.Reply r → Program σ α} {s : S} (t : σ.Reply r → S)
    (hnext : ∀ reply, next s r reply = some (t reply)) (hk : ∀ reply, (k reply).Keeps next Q (t reply)) :
    (Program.ask r k).Keeps next Q s := fun reply => ⟨t reply, hnext reply, hk reply⟩

/-- **A program continues after a success.** -/
theorem keeps_andThen {Q : Except Error β → S → Prop} {p : Program σ (Except Error α)}
    {f : α → Program σ (Except Error β)} {s : S} :
    (p.andThen f).Keeps next Q s ↔
      p.Keeps next (fun r t => match r with | .error e => Q (.error e) t | .ok a => (f a).Keeps next Q t) s := by
  unfold andThen
  rw [keeps_bind]
  constructor
  · exact Keeps.mono fun r t h => by cases r <;> exact h
  · exact Keeps.mono fun r t h => by cases r <;> exact h

/-- **Requests served by programs**: each serving program takes the position where the reply would have led. -/
theorem keeps_translate {serve : (r : σ.Request) → Program τ (σ.Reply r)} {next' : Protocol τ S}
    (hserve : ∀ s r, (∀ reply, ∃ t, next s r reply = some t) →
      (serve r).Keeps next' (fun reply t => next s r reply = some t) s) {Q : α → S → Prop} :
    ∀ {p : Program σ α} {s : S}, p.Keeps next Q s → (p.translate serve).Keeps next' Q s
  | .done _, _, h => h
  | .ask r k, s, h => by
    refine keeps_bind.2 ((hserve s r fun reply => (h reply).imp fun t ht => ht.1).mono fun reply t ht => ?_)
    obtain ⟨t', ht', hk⟩ := h reply
    obtain rfl : t' = t := Option.some.inj (ht'.symm.trans ht)
    exact keeps_translate hserve hk

theorem keeps_stay {s : S} (h : ∀ r reply, next s r reply = some s) : ∀ p : Program σ α, p.Keeps next (fun _ t => t = s) s
  | .done _ => rfl
  | .ask r k => fun reply => ⟨s, h r reply, keeps_stay h (k reply)⟩

/-- A program that keeps to a protocol keeps to every one that allows what it allows. -/
theorem Keeps.map {next' : Protocol σ T} {f : S → T} {Q : α → S → Prop}
    (h : ∀ s r reply t, next s r reply = some t → next' (f s) r reply = some (f t)) :
    ∀ {p : Program σ α} {s : S}, p.Keeps next Q s → p.Keeps next' (fun a u => ∃ t, u = f t ∧ Q a t) (f s)
  | .done _, s, hp => ⟨s, rfl, hp⟩
  | .ask r _, s, hp => fun reply =>
    let ⟨t, ht, hk⟩ := hp reply
    ⟨f t, h s r reply t ht, hk.map h⟩

/-- A program keeps to a protocol from every position. -/
def KeepsAlways (next : Protocol σ S) (p : Program σ α) : Prop := ∀ s, p.Keeps next (fun _ _ => True) s

theorem keepsAlways_done (a : α) : (Program.done a : Program σ α).KeepsAlways next := fun _ => trivial

theorem KeepsAlways.bind {p : Program σ α} {f : α → Program σ β} (hp : p.KeepsAlways next)
    (hf : ∀ a, (f a).KeepsAlways next) : (p.bind f).KeepsAlways next := fun s =>
  keeps_bind.2 ((hp s).mono fun a t _ => hf a t)

/-! ## Runs -/

abbrev Exchange (σ : Signature) := (r : σ.Request) × σ.Reply r

/-- A program goes through some exchanges, and the second program is what is left of it. -/
inductive Leads : Program σ α → List (Exchange σ) → Program σ α → Prop where
  | nil (p : Program σ α) : Leads p [] p
  | cons {r : σ.Request} {k : σ.Reply r → Program σ α} (reply : σ.Reply r) {es : List (Exchange σ)} {q : Program σ α}
      (h : Leads (k reply) es q) : Leads (.ask r k) (⟨r, reply⟩ :: es) q

theorem leads_done {a a' : α} {es : List (Exchange σ)} :
    (Program.done a : Program σ α).Leads es (.done a') ↔ es = [] ∧ a' = a := by
  constructor
  · rintro ⟨⟩
    exact ⟨rfl, rfl⟩
  · rintro ⟨rfl, rfl⟩
    exact .nil _

theorem leads_ask {r : σ.Request} {k : σ.Reply r → Program σ α} {a : α} {es : List (Exchange σ)} :
    (Program.ask r k).Leads es (.done a) ↔
      ∃ reply es', es = ⟨r, reply⟩ :: es' ∧ (k reply).Leads es' (.done a) := by
  constructor
  · rintro ⟨⟩
    exact ⟨_, _, rfl, ‹_›⟩
  · rintro ⟨reply, es', rfl, h⟩
    exact .cons reply h

theorem Leads.concat {p : Program σ α} {r : σ.Request} {k : σ.Reply r → Program σ α} {es : List (Exchange σ)}
    (h : p.Leads es (.ask r k)) (reply : σ.Reply r) : p.Leads (es ++ [⟨r, reply⟩]) (k reply) := by
  generalize hq : Program.ask r k = q at h
  induction h with
  | nil =>
    subst hq
    exact .cons reply (.nil _)
  | cons reply' _ ih => exact .cons reply' (ih hq)

theorem Leads.append {p q q' : Program σ α} {es es' : List (Exchange σ)} (h : p.Leads es q) (h' : q.Leads es' q') :
    p.Leads (es ++ es') q' := by
  induction h with
  | nil => exact h'
  | cons reply _ ih => exact .cons reply (ih h')

/-- Where every request has a reply, a program can be brought to an end. -/
theorem exists_leads_done (hreply : ∀ r, Nonempty (σ.Reply r)) : ∀ p : Program σ α, ∃ es a, p.Leads es (.done a)
  | .done a => ⟨[], a, .nil _⟩
  | .ask r k => by
    obtain ⟨reply⟩ := hreply r
    obtain ⟨es, a, h⟩ := exists_leads_done hreply (k reply)
    exact ⟨_, a, .cons reply h⟩

/-- **A complete run of one program and then another is a run of each.** -/
theorem leads_bind {f : α → Program σ β} {b : β} : ∀ {p : Program σ α} {es : List (Exchange σ)},
    (p.bind f).Leads es (.done b) ↔
      ∃ a es₁ es₂, es = es₁ ++ es₂ ∧ p.Leads es₁ (.done a) ∧ (f a).Leads es₂ (.done b)
  | .done a, es => by
    constructor
    · exact fun h => ⟨a, [], es, rfl, .nil _, h⟩
    · rintro ⟨a', es₁, es₂, rfl, h₁, h₂⟩
      obtain ⟨rfl, rfl⟩ := leads_done.1 h₁
      exact h₂
  | .ask r k, es => by
    rw [ask_bind, leads_ask]
    constructor
    · rintro ⟨reply, es', rfl, h⟩
      obtain ⟨a, es₁, es₂, rfl, h₁, h₂⟩ := leads_bind.1 h
      exact ⟨a, _, es₂, rfl, .cons reply h₁, h₂⟩
    · rintro ⟨a, es₁, es₂, rfl, h₁, h₂⟩
      obtain ⟨reply, es', rfl, hk⟩ := leads_ask.1 h₁
      exact ⟨reply, es' ++ es₂, rfl, leads_bind.2 ⟨a, es', es₂, rfl, hk, h₂⟩⟩

theorem leads_andThen_iff {p : Program σ (Except Error α)} {f : α → Program σ (Except Error β)} {r : Except Error β}
    {es : List (Exchange σ)} : (p.andThen f).Leads es (.done r) ↔
      (∃ e, r = .error e ∧ p.Leads es (.done (.error e))) ∨
        ∃ a es₁ es₂, es = es₁ ++ es₂ ∧ p.Leads es₁ (.done (.ok a)) ∧ (f a).Leads es₂ (.done r) := by
  unfold andThen
  rw [leads_bind]
  constructor
  · rintro ⟨_ | a, es₁, es₂, rfl, h₁, h₂⟩
    · obtain ⟨rfl, rfl⟩ := leads_done.1 h₂
      exact .inl ⟨_, rfl, by rwa [List.append_nil]⟩
    · exact .inr ⟨a, es₁, es₂, rfl, h₁, h₂⟩
  · rintro (⟨e, rfl, h⟩ | ⟨a, es₁, es₂, rfl, h₁, h₂⟩)
    · exact ⟨.error e, es, [], (List.append_nil es).symm, h, .nil _⟩
    · exact ⟨.ok a, es₁, es₂, rfl, h₁, h₂⟩

theorem leads_andThen {p : Program σ (Except Error α)} {f : α → Program σ (Except Error β)} {r : Except Error β}
    {es : List (Exchange σ)} (h : (p.andThen f).Leads es (.done r)) :
    (∃ e, r = .error e ∧ p.Leads es (.done (.error e))) ∨
      ∃ a es₁ es₂, es = es₁ ++ es₂ ∧ p.Leads es₁ (.done (.ok a)) ∧ (f a).Leads es₂ (.done r) := leads_andThen_iff.1 h

/-! ## Positions along a run -/

/-- The position that some exchanges lead to, if they may come one after the other. -/
def follow? (next : Protocol σ S) : S → List (Exchange σ) → Option S
  | s, [] => some s
  | s, e :: es => (next s e.1 e.2).bind fun t => follow? next t es

theorem follow?_append (s : S) (es es' : List (Exchange σ)) :
    follow? next s (es ++ es') = (follow? next s es).bind fun t => follow? next t es' := by
  induction es generalizing s with
  | nil => rfl
  | cons e es ih =>
    simp only [List.cons_append, follow?, Option.bind_assoc]
    exact congrArg _ (funext fun t => ih t)

/-- **A run of a program that keeps to a protocol ends where the protocol leads.** -/
theorem Keeps.follow {Q : α → S → Prop} {a : α} {es : List (Exchange σ)} : ∀ {p : Program σ α} {s : S},
    p.Keeps next Q s → p.Leads es (.done a) → ∃ t, follow? next s es = some t ∧ Q a t
  | .done a', s, hp, h => by
    obtain ⟨rfl, rfl⟩ := leads_done.1 h
    exact ⟨s, rfl, hp⟩
  | .ask r k, s, hp, h => by
    obtain ⟨reply, es', rfl, hrest⟩ := leads_ask.1 h
    obtain ⟨u, hu, hk⟩ := hp reply
    obtain ⟨t, ht, hQ⟩ := hk.follow hrest
    refine ⟨t, ?_, hQ⟩
    simp only [follow?, hu, Option.bind_some]
    exact ht

end Program

/-! ## Retries -/

namespace Retry

open Program

variable {σ : Signature} {S α : Type} {next : Protocol σ S} {policy : Policy} {pause : Nat → Program σ Unit}
  {op : Nat → Program σ (Except Error (Attempt α))}

/-- Where an attempt may end when `I` holds where the run goes on, and `Q` where it is over. -/
def AttemptLeaves (I : S → Prop) (Q : Outcome α → S → Prop) (number : Nat) : Except Error (Attempt α) → S → Prop
  | .ok (.done a), t => Q (.succeeded a number) t
  | .ok .again, t => I t
  | .error _, t => I t

/-- One attempt, and then those that are left. -/
theorem keeps_attempt {I : S → Prop} {Q : Outcome α → S → Prop} {left number : Nat} {last : Option Error} {s : S}
    (hop : (op number).Keeps next (AttemptLeaves I Q number) s)
    (hpause : ∀ ms s, I s → (pause ms).Keeps next (fun _ t => I t) s)
    (hrest : ∀ last t, I t → (runFrom policy pause op left (number + 1) last).Keeps next Q t) :
    (runFrom policy pause op (left + 1) number last).Keeps next Q s := by
  refine keeps_bind.2 (hop.mono fun r t ht => ?_)
  match r, ht with
  | .ok (.done a), ht => exact ht
  | .ok .again, ht => exact hrest _ t ht
  | .error e, ht =>
    show Keeps next Q (if left = 0 then _ else _) t
    split
    · exact hrest _ t ht
    · exact keeps_bind.2 ((hpause _ t ht).mono fun _ u hu => hrest _ u hu)

theorem keeps_runFrom {I : S → Prop} {Q : Outcome α → S → Prop}
    (hop : ∀ number s, I s → (op number).Keeps next (AttemptLeaves I Q number) s)
    (hpause : ∀ ms s, I s → (pause ms).Keeps next (fun _ t => I t) s)
    (hend : ∀ n e s, I s → Q (.exhausted n e) s) (left : Nat) :
    ∀ number last s, I s → (runFrom policy pause op left number last).Keeps next Q s := by
  -- `I` holds before every attempt that is left
  induction left with
  | zero => exact fun number last s hs => hend _ _ s hs
  | succ left ih => exact fun number last s hs => keeps_attempt (hop number s hs) hpause (ih (number + 1))

/-- **A retry run keeps to a protocol when an attempt does from every position that an attempt or a pause may leave**;
those positions are `I`. -/
theorem keeps_run {I : S → Prop} {Q : Outcome α → S → Prop}
    (hop : ∀ number s, I s → (op number).Keeps next (AttemptLeaves I Q number) s)
    (hpause : ∀ ms s, I s → (pause ms).Keeps next (fun _ t => I t) s)
    (hend : ∀ n e s, I s → Q (.exhausted n e) s) {s : S} (hs : I s) : (run policy pause op).Keeps next Q s :=
  keeps_runFrom hop hpause hend _ _ _ s hs

/-- **A retry run that makes an attempt ends where attempts and pauses end**, wherever it begins. -/
theorem keeps_run_of_pos {I : S → Prop} (hpos : 0 < policy.attempts)
    (hop : ∀ number s, (op number).Keeps next (fun _ t => I t) s)
    (hpause : ∀ ms s, I s → (pause ms).Keeps next (fun _ t => I t) s) (s : S) :
    (run policy pause op).Keeps next (fun _ t => I t) s := by
  have hattempt : ∀ number s, (op number).Keeps next (AttemptLeaves I (fun _ t => I t) number) s := fun number s =>
    (hop number s).mono fun r t ht => by rcases r with e | ⟨a | _⟩ <;> exact ht
  obtain ⟨left, hleft⟩ : ∃ left, policy.attempts = left + 1 := ⟨policy.attempts - 1, by omega⟩
  unfold run
  rw [hleft]
  exact keeps_attempt (hattempt 1 s) hpause fun last t ht =>
    keeps_runFrom (fun number s _ => hattempt number s) hpause (fun _ _ _ h => h) left _ last t ht

theorem keepsAlways_run (hop : ∀ number, (op number).KeepsAlways next) (hpause : ∀ ms, (pause ms).KeepsAlways next) :
    (run policy pause op).KeepsAlways next := fun _ =>
  keeps_run (I := fun _ => True)
    (fun number s _ => (hop number s).mono fun r _ _ => by rcases r with e | ⟨a | _⟩ <;> trivial)
    (fun ms s _ => hpause ms s) (fun _ _ _ _ => trivial) trivial

end Retry
end AddressBinder
