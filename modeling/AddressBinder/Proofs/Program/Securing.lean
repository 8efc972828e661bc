import AddressBinder.Proofs.Program.Protocol
/-!
# What a program secures

A partner replies to the requests of a program: in each state some replies may come, and each leaves a state.  A program
secures a condition from a state on when the condition holds of its result and of the state it ends in, whichever of
these replies come (`Secures`).  Unlike a protocol, which has to allow every reply, a partner rules out those that it
would not give.
-/
namespace AddressBinder

/-- Which replies to a request may come in a state, and the states that they leave. -/
abbrev Partner (σ : Signature) (S : Type) := S → (r : σ.Request) → σ.Reply r → S → Prop

namespace Program

variable {σ τ : Signature} {S α β : Type}

def Secures (partner : Partner σ S) (Q : α → S → Prop) : Program σ α → S → Prop
  | .done a, s => Q a s
  | .ask r k, s => ∀ reply t, partner s r reply t → (k reply).Secures partner Q t

variable {partner : Partner σ S}

theorem Secures.mono {Q Q' : α → S → Prop} (h : ∀ a s, Q a s → Q' a s) :
    ∀ {p : Program σ α} {s : S}, p.Secures partner Q s → p.Secures partner Q' s
  | .done a, s, hp => h a s hp
  | .ask _ _, _, hp => fun reply t ht => (hp reply t ht).mono h

/-- **One program and then another secure what the second secures wherever the first ends.** -/
theorem secures_bind {Q : β → S → Prop} {f : α → Program σ β} : ∀ {p : Program σ α} {s : S},
    (p.bind f).Secures partner Q s ↔ p.Secures partner (fun a t => (f a).Secures partner Q t) s
  | .done _, _ => Iff.rfl
  | .ask _ k, _ => forall_congr' fun reply => forall_congr' fun _ => imp_congr_right fun _ => secures_bind (p := k reply)

theorem secures_andThen {Q : Except Error β → S → Prop} {p : Program σ (Except Error α)}
    {f : α → Program σ (Except Error β)} {s : S} :
    (p.andThen f).Secures partner Q s ↔
      p.Secures partner (fun r t => match r with | .error e => Q (.error e) t | .ok a => (f a).Secures partner Q t) s := by
  unfold andThen
  rw [secures_bind]
  constructor
  · exact Secures.mono fun r t h => by cases r <;> exact h
  · exact Secures.mono fun r t h => by cases r <;> exact h

/-- **Requests served by programs**: each serving program is to reply what the partner would. -/
theorem secures_translate {serve : (r : σ.Request) → Program τ (σ.Reply r)} {partner' : Partner τ S}
    (hserve : ∀ r s, (serve r).Secures partner' (fun reply t => partner s r reply t) s) {Q : α → S → Prop} :
    ∀ {p : Program σ α} {s : S}, p.Secures partner Q s → (p.translate serve).Secures partner' Q s
  | .done _, _, h => h
  | .ask r _, s, h => secures_bind.2 ((hserve r s).mono fun reply t ht => secures_translate hserve (h reply t ht))

/-- What holds before the program holds after it, whatever the result. -/
def Maintains (partner : Partner σ S) (I : S → Prop) (p : Program σ α) : Prop :=
  ∀ s, I s → p.Secures partner (fun _ t => I t) s

variable {I : S → Prop}

theorem maintains_done {a : α} : (Program.done a : Program σ α).Maintains partner I := fun _ hs => hs

theorem maintains_bind {p : Program σ α} {f : α → Program σ β} (hp : p.Maintains partner I)
    (hf : ∀ a, (f a).Maintains partner I) : (p.bind f).Maintains partner I := fun s hs =>
  secures_bind.2 ((hp s hs).mono fun a t ht => hf a t ht)

end Program

/-! ## Retries -/

namespace Retry

open Program

variable {σ : Signature} {S α : Type} {partner : Partner σ S} {policy : Policy} {pause : Nat → Program σ Unit}
  {op : Nat → Program σ (Except Error (Attempt α))} {I : S → Prop}

theorem secures_attempt {left number : Nat} {last : Option Error} {s : S}
    (hop : (op number).Secures partner (fun _ t => I t) s) (hpause : ∀ ms, (pause ms).Maintains partner I)
    (hrest : ∀ last, (runFrom policy pause op left (number + 1) last).Maintains partner I) :
    (runFrom policy pause op (left + 1) number last).Secures partner (fun _ t => I t) s := by
  refine secures_bind.2 (hop.mono fun r t ht => ?_)
  match r with
  | .ok (.done a) => exact ht
  | .ok .again => exact hrest last t ht
  | .error e =>
    show Secures partner _ (if left = 0 then _ else _) t
    split
    · exact hrest _ t ht
    · exact maintains_bind (hpause _) (fun _ => hrest _) t ht

theorem maintains_runFrom (hop : ∀ number, (op number).Maintains partner I)
    (hpause : ∀ ms, (pause ms).Maintains partner I) (left : Nat) :
    ∀ number last, (runFrom policy pause op left number last).Maintains partner I := by
  -- the condition holds before every attempt that is left
  induction left with
  | zero => exact fun _ _ _ hs => hs
  | succ left ih => exact fun number last s hs => secures_attempt (hop number s hs) hpause (ih (number + 1))

/-- **A retry run maintains what its attempts and pauses maintain.** -/
theorem maintains_run (hop : ∀ number, (op number).Maintains partner I)
    (hpause : ∀ ms, (pause ms).Maintains partner I) : (run policy pause op).Maintains partner I :=
  maintains_runFrom hop hpause _ _ _

/-- **A retry run that makes an attempt secures what its first attempt does**, if the others and the pauses maintain it. -/
theorem secures_run_of_pos (hpos : 0 < policy.attempts) {s : S} (hfirst : (op 1).Secures partner (fun _ t => I t) s)
    (hop : ∀ number, (op number).Maintains partner I) (hpause : ∀ ms, (pause ms).Maintains partner I) :
    (run policy pause op).Secures partner (fun _ t => I t) s := by
  obtain ⟨left, hleft⟩ : ∃ left, policy.attempts = left + 1 := ⟨policy.attempts - 1, by omega⟩
  unfold run
  rw [hleft]
  exact secures_attempt hfirst hpause fun last => maintains_runFrom hop hpause left _ last

end Retry
end AddressBinder
