import AddressBinder.Proofs.Program.Protocol
/-!
# Programs served from a state

What a run of a program put together from others does, when every request is served at once.
-/
namespace AddressBinder
namespace Program

theorem run_andThen {σ : Signature} {S α β : Type} (serve : (r : σ.Request) → S → σ.Reply r × S)
    (p : Program σ (Except Error α)) (f : α → Program σ (Except Error β)) (s : S) :
    (p.andThen f).run serve s =
      match p.run serve s with
      | (.error e, t) => (.error e, t)
      | (.ok a, t) => (f a).run serve t := by
  unfold andThen
  rw [run_bind]
  rcases p.run serve s with ⟨_ | _, t⟩ <;> rfl

/-- What holds of every result of the second program holds of the result of both. -/
theorem run_bind_of_forall {σ : Signature} {S α β : Type} {serve : (r : σ.Request) → S → σ.Reply r × S} {Q : β → Prop}
    {p : Program σ α} {f : α → Program σ β} (h : ∀ a s, Q ((f a).run serve s).1) (s : S) :
    Q ((p.bind f).run serve s).1 := by
  rw [run_bind]
  exact h _ _

theorem run_andThen_of_ok {σ : Signature} {S α β : Type} {serve : (r : σ.Request) → S → σ.Reply r × S}
    {p : Program σ (Except Error α)} {f : α → Program σ (Except Error β)} {a : α} {s t : S}
    (h : p.run serve s = (.ok a, t)) : (p.andThen f).run serve s = (f a).run serve t := by
  rw [run_andThen, h]

theorem andThen_assoc {σ : Signature} {α β γ : Type} (p : Program σ (Except Error α))
    (f : α → Program σ (Except Error β)) (g : β → Program σ (Except Error γ)) :
    (p.andThen f).andThen g = p.andThen fun a => (f a).andThen g := by
  unfold andThen
  rw [bind_assoc]
  refine congrArg p.bind (funext fun result => ?_)
  cases result <;> rfl

/-- What follows a success and changes nothing may be left out. -/
theorem run_andThen_snd {σ : Signature} {S α β : Type} (serve : (r : σ.Request) → S → σ.Reply r × S)
    (p : Program σ (Except Error α)) (f : α → Program σ (Except Error β)) (s : S)
    (hf : ∀ a t, ((f a).run serve t).2 = t) : ((p.andThen f).run serve s).2 = (p.run serve s).2 := by
  rw [run_andThen]
  rcases p.run serve s with ⟨_ | a, t⟩
  · rfl
  · exact hf a t

/-- A program whose requests are served by programs runs as when these are run for its requests. -/
theorem run_translate {σ τ : Signature} {S α : Type} (serve : (r : τ.Request) → S → τ.Reply r × S)
    (f : (r : σ.Request) → Program τ (σ.Reply r)) : ∀ (p : Program σ α) (s : S),
      (p.translate f).run serve s = p.run (fun r s => (f r).run serve s) s
  | .done _, _ => rfl
  | .ask r k, s => by
    rw [translate, run_bind, run_translate serve f (k _), run]

/-! ## What is asked meanwhile -/

section Served

variable {σ : Signature} {S α : Type} {serve : (r : σ.Request) → S → σ.Reply r × S} {s t : S} {es es' : List (Exchange σ)}

/-- The replies are those that are served, one after the other, from the first state, and leave the second. -/
inductive Served (serve : (r : σ.Request) → S → σ.Reply r × S) : S → List (Exchange σ) → S → Prop where
  | nil (s : S) : Served serve s [] s
  | cons {s t : S} {r : σ.Request} {es : List (Exchange σ)} (h : Served serve (serve r s).2 es t) :
      Served serve s (⟨r, (serve r s).1⟩ :: es) t

theorem served_append : Served serve s (es ++ es') t ↔ ∃ u, Served serve s es u ∧ Served serve u es' t := by
  constructor
  · induction es generalizing s with
    | nil => exact fun h => ⟨s, .nil s, h⟩
    | cons e es ih =>
      rintro ⟨⟩
      rename_i h
      obtain ⟨u, hu, ht⟩ := ih h
      exact ⟨u, .cons hu, ht⟩
  · rintro ⟨u, hu, ht⟩
    induction hu with
    | nil => exact ht
    | cons _ ih => exact .cons (ih ht)

theorem leads_run (serve : (r : σ.Request) → S → σ.Reply r × S) : ∀ (p : Program σ α) (s : S),
    ∃ es, p.Leads es (.done (p.run serve s).1) ∧ Served serve s es (p.run serve s).2
  | .done a, s => ⟨[], .nil _, .nil s⟩
  | .ask r k, s => by
    obtain ⟨es, hes, hserved⟩ := leads_run serve (k (serve r s).1) (serve r s).2
    exact ⟨_, .cons _ hes, .cons hserved⟩

/-- **What a program asks and is served makes up its run.** -/
theorem Served.run_eq {a : α} : ∀ {p : Program σ α} {es : List (Exchange σ)} {s : S}, Served serve s es t →
    p.Leads es (.done a) → p.run serve s = (a, t)
  | .done _, es, s, h, hp => by
    obtain ⟨rfl, rfl⟩ := leads_done.1 hp
    cases h
    rfl
  | .ask r k, es, s, h, hp => by
    obtain ⟨reply, es, rfl, hk⟩ := leads_ask.1 hp
    cases h
    rename_i h
    exact h.run_eq hk

end Served

/-! ## As far as the state allows -/

section Advance

variable {σ : Signature} {S α β : Type} {serve : (r : σ.Request) → S → Option (σ.Reply r × S)}

theorem advance_of_some {r : σ.Request} {k : σ.Reply r → Program σ α} {reply : σ.Reply r} {s t : S}
    (h : serve r s = some (reply, t)) : (Program.ask r k).advance serve s = (k reply).advance serve t := by
  rw [advance, h]

theorem advance_of_none {r : σ.Request} {k : σ.Reply r → Program σ α} {s : S} (h : serve r s = none) :
    (Program.ask r k).advance serve s = (.ask r k, s) := by
  rw [advance, h]

theorem advance_bind_of_done {f : α → Program σ β} {a : α} {t : S} : ∀ {p : Program σ α} {s : S},
    p.advance serve s = (.done a, t) → (p.bind f).advance serve s = (f a).advance serve t
  | .done _, s, h => by
    cases h
    rfl
  | .ask r k, s, h => by
    rw [ask_bind]
    cases hr : serve r s with
    | none =>
      rw [advance_of_none hr] at h
      cases h
    | some reply =>
      rw [advance_of_some hr] at h ⊢
      exact advance_bind_of_done h

theorem advance_bind_of_ask {f : α → Program σ β} {r : σ.Request} {k : σ.Reply r → Program σ α} {t : S} :
    ∀ {p : Program σ α} {s : S}, p.advance serve s = (.ask r k, t) →
      (p.bind f).advance serve s = (.ask r (fun reply => (k reply).bind f), t)
  | .done _, s, h => by cases h
  | .ask r' k', s, h => by
    rw [ask_bind]
    cases hr : serve r' s with
    | none =>
      rw [advance_of_none hr] at h ⊢
      cases h
      rfl
    | some reply =>
      rw [advance_of_some hr] at h ⊢
      exact advance_bind_of_ask h

/-- What is left of a program waits. -/
theorem canAdvance_advance : ∀ (p : Program σ α) (s : S),
    (p.advance serve s).1.canAdvance serve (p.advance serve s).2 = false
  | .done _, _ => rfl
  | .ask r k, s => by
    cases hr : serve r s with
    | none =>
      rw [advance_of_none hr]
      simp [canAdvance, hr]
    | some reply =>
      rw [advance_of_some hr]
      exact canAdvance_advance (k reply.1) reply.2

end Advance

end Program
end AddressBinder
