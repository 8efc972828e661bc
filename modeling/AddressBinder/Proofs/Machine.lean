import AddressBinder.Machine
import AddressBinder.Proofs.Program.Serving
/-!
# How machines run

A machine settles by polls, each of the first thread that can move; when polls lead to a machine in which none can, that
machine is what it settles in, however much fuel is left (`Polls.settle`).  What each poll and each change of the clock
keep is kept by every way to run the machine.  A machine over the image of a state runs as the machine over the state does
(`Follows`).
-/
namespace AddressBinder
namespace Machine

variable {σ : Signature} {S α : Type} {k : Kernel σ S} {m m' m'' : Machine σ S α} {s : S}

/-- Every thread waits or has ended. -/
def Rests (k : Kernel σ S) (m : Machine σ S α) : Prop := ∀ t ∈ m.threads, t.canMove k m.state = false

/-- The second machine comes from the first by a number of polls, each of the first thread that can move. -/
inductive Polls (k : Kernel σ S) : Nat → Machine σ S α → Machine σ S α → Prop where
  | refl (m : Machine σ S α) : Polls k 0 m m
  | cons {n : Nat} {m m' : Machine σ S α} {r : List (Thread σ α) × S} (h : pollFirst k m.threads m.state = some r)
      (hrest : Polls k n ⟨r.2, r.1⟩ m') : Polls k (n + 1) m m'

theorem pollFirst_of_rests : ∀ {ts : List (Thread σ α)}, (∀ t ∈ ts, t.canMove k s = false) → pollFirst k ts s = none
  | [], _ => rfl
  | t :: ts, h => by
    obtain ⟨ht, hts⟩ := List.forall_mem_cons.1 h
    rw [pollFirst, ht, pollFirst_of_rests hts]
    rfl

theorem pollFirst_append {t : Thread σ α} {after : List (Thread σ α)} (ht : t.canMove k s = true) :
    ∀ {before : List (Thread σ α)}, (∀ t ∈ before, t.canMove k s = false) →
      pollFirst k (before ++ t :: after) s = some (before ++ (t.poll k s).1 :: after, (t.poll k s).2)
  | [], _ => by simp [pollFirst, ht]
  | u :: before, h => by
    obtain ⟨hu, hbefore⟩ := List.forall_mem_cons.1 h
    rw [List.cons_append, pollFirst, hu, pollFirst_append ht hbefore]
    rfl

theorem settle_of_rests (h : m.Rests k) (fuel : Nat) : m.settle k fuel = m := by
  cases fuel with
  | zero => rfl
  | succ fuel => rw [settle, pollFirst_of_rests h]

/-- **Polls that end in a machine at rest are all that settling does.** -/
theorem Polls.settle {n : Nat} (h : Polls k n m m') (hrests : m'.Rests k) : ∀ {fuel : Nat}, n ≤ fuel →
    m.settle k fuel = m' := by
  induction h with
  | refl m => exact fun {fuel} _ => settle_of_rests hrests fuel
  | cons h _ ih =>
    intro fuel hfuel
    obtain ⟨fuel, rfl⟩ : ∃ f, fuel = f + 1 := ⟨fuel - 1, by omega⟩
    rw [Machine.settle, h]
    exact ih hrests (Nat.le_of_succ_le_succ hfuel)

theorem Polls.trans {n n' : Nat} (h : Polls k n m m') (h' : Polls k n' m' m'') : Polls k (n + n') m m'' := by
  induction h with
  | refl m =>
    rw [Nat.zero_add]
    exact h'
  | cons h _ ih =>
    rw [Nat.add_right_comm]
    exact .cons h (ih h')

/-! ## What is kept -/

section Keeping

variable {I : Machine σ S α → Prop}

theorem settle_keeps (hpoll : ∀ {m : Machine σ S α} {r}, I m → pollFirst k m.threads m.state = some r → I ⟨r.2, r.1⟩) :
    ∀ (fuel : Nat) {m : Machine σ S α}, I m → I (m.settle k fuel)
  | 0, _, h => h
  | fuel + 1, m, h => by
    rw [Machine.settle]
    cases hp : pollFirst k m.threads m.state with
    | none => exact h
    | some r => exact settle_keeps hpoll fuel (hpoll h hp)

/-- **What each poll and each change of the clock keep is kept while time passes.** -/
theorem advanceTo_keeps (hpoll : ∀ {m : Machine σ S α} {r}, I m → pollFirst k m.threads m.state = some r → I ⟨r.2, r.1⟩)
    (hclock : ∀ {m : Machine σ S α} (time : Nat), I m → I (m.setClock k time)) (time : Nat) :
    ∀ (fuel : Nat) {m : Machine σ S α}, I m → I (m.advanceTo k time fuel)
  | 0, _, h => h
  | fuel + 1, m, h => by
    have hsettled : I (m.settle k (fuel + 1)) := settle_keeps hpoll _ h
    rw [advanceTo]
    cases (m.settle k (fuel + 1)).nextDue k with
    | none => exact hclock time hsettled
    | some due =>
      dsimp only
      split
      · exact advanceTo_keeps hpoll hclock time fuel (hclock due hsettled)
      · exact hclock time hsettled

end Keeping

/-! ## Running until a thread has ended -/

variable {i : Nat} {limit : Option Nat} {fuel : Nat}

theorem runUntilDone_of_done (hfuel : 0 < fuel) (hs : m.settle k fuel = m') {a : α} (hdone : m'.result? i = some a) :
    m.runUntilDone k i limit fuel = m' := by
  obtain ⟨fuel, rfl⟩ : ∃ f, fuel = f + 1 := ⟨fuel - 1, by omega⟩
  simp only [runUntilDone, hs, hdone]

theorem runUntilDone_of_due (hs : m.settle k (fuel + 1) = m') (hwaits : m'.result? i = none) {due : Nat}
    (hdue : m'.nextDue k = some due) :
    m.runUntilDone k i limit (fuel + 1) =
      if isPast limit due then m'.setClock k (limit.getD due) else runUntilDone k i limit fuel (m'.setClock k due) := by
  simp only [runUntilDone, hs, hwaits, hdue]

/-! ## The same run over another state -/

variable {S' : Type} {k' : Kernel σ S'} {f : S → S'}

/-- The machine with its state changed for another one. -/
def mapState (f : S → S') (m : Machine σ S α) : Machine σ S' α := ⟨f m.state, m.threads⟩

theorem mapState_result? (m : Machine σ S α) (i : Nat) : (m.mapState f).result? i = m.result? i := rfl

/-- From the image of a state one kernel serves what the other serves from the state. -/
structure Follows (k : Kernel σ S) (k' : Kernel σ S') (f : S → S') : Prop where
  serve (r : σ.Request) (s : S) : k'.serve r (f s) = (k.serve r s).map fun a => (a.1, f a.2)
  due (r : σ.Request) : k'.due r = k.due r
  clock (s : S) : k'.clock (f s) = k.clock s
  setClock (time : Nat) (s : S) : k'.setClock time (f s) = f (k.setClock time s)

namespace Follows

theorem canAdvance (h : Follows k k' f) (p : Program σ α) (s : S) :
    p.canAdvance k'.serve (f s) = p.canAdvance k.serve s := by
  cases p with
  | done a => rfl
  | ask r next => rw [Program.canAdvance, Program.canAdvance, h.serve, Option.isSome_map]

theorem advance (h : Follows k k' f) : ∀ (p : Program σ α) (s : S),
    p.advance k'.serve (f s) = ((p.advance k.serve s).1, f (p.advance k.serve s).2)
  | .done _, _ => rfl
  | .ask r next, s => by
    have hserve := h.serve r s
    cases hr : k.serve r s with
    | none =>
      rw [hr] at hserve
      rw [Program.advance_of_none hserve, Program.advance_of_none hr]
    | some a =>
      rw [hr] at hserve
      rw [Program.advance_of_some hserve, Program.advance_of_some hr]
      exact h.advance (next a.1) a.2

theorem canMove (h : Follows k k' f) (t : Thread σ α) (s : S) : t.canMove k' (f s) = t.canMove k s :=
  h.canAdvance t.program s

theorem poll (h : Follows k k' f) (t : Thread σ α) (s : S) : t.poll k' (f s) = ((t.poll k s).1, f (t.poll k s).2) := by
  unfold Thread.poll
  rw [h.advance]

theorem pollFirst (h : Follows k k' f) (s : S) : ∀ ts : List (Thread σ α),
    Machine.pollFirst k' ts (f s) = (Machine.pollFirst k ts s).map fun r => (r.1, f r.2)
  | [] => rfl
  | t :: ts => by
    rw [Machine.pollFirst, Machine.pollFirst, h.canMove, h.poll, h.pollFirst s ts]
    split
    · rfl
    · rw [Option.map_map, Option.map_map]
      rfl

theorem nextDue (h : Follows k k' f) (m : Machine σ S α) : (m.mapState f).nextDue k' = m.nextDue k := by
  have hdue : Thread.due k' = Thread.due (α := α) k := by
    funext t
    unfold Thread.due
    cases t.program with
    | done a => rfl
    | ask r next => exact h.due r
  rw [Machine.nextDue, hdue]
  rfl

theorem mapState_setClock (h : Follows k k' f) (time : Nat) (m : Machine σ S α) :
    (m.mapState f).setClock k' time = (m.setClock k time).mapState f := by
  unfold Machine.setClock mapState
  rw [h.setClock]

theorem settle (h : Follows k k' f) : ∀ (fuel : Nat) (m : Machine σ S α),
    (m.mapState f).settle k' fuel = (m.settle k fuel).mapState f
  | 0, _ => rfl
  | fuel + 1, m => by
    rw [Machine.settle, Machine.settle, mapState, h.pollFirst]
    cases Machine.pollFirst k m.threads m.state with
    | none => rfl
    | some r => exact h.settle fuel ⟨r.2, r.1⟩

theorem advanceTo (h : Follows k k' f) (time : Nat) : ∀ (fuel : Nat) (m : Machine σ S α),
    (m.mapState f).advanceTo k' time fuel = (m.advanceTo k time fuel).mapState f
  | 0, _ => rfl
  | fuel + 1, m => by
    rw [Machine.advanceTo, Machine.advanceTo, h.settle, h.nextDue]
    cases (m.settle k (fuel + 1)).nextDue k with
    | none => exact h.mapState_setClock time _
    | some due =>
      dsimp only
      split
      · rw [h.mapState_setClock]
        exact h.advanceTo time fuel _
      · exact h.mapState_setClock time _

theorem runUntilDone (h : Follows k k' f) (i : Nat) (limit : Option Nat) : ∀ (fuel : Nat) (m : Machine σ S α),
    (m.mapState f).runUntilDone k' i limit fuel = (m.runUntilDone k i limit fuel).mapState f
  | 0, _ => rfl
  | fuel + 1, m => by
    rw [Machine.runUntilDone, Machine.runUntilDone, h.settle, h.nextDue, mapState_result?]
    cases (m.settle k (fuel + 1)).result? i with
    | some a => rfl
    | none =>
      cases (m.settle k (fuel + 1)).nextDue k with
      | none => rfl
      | some due =>
        dsimp only
        split
        · exact h.mapState_setClock _ _
        · rw [h.mapState_setClock]
          exact h.runUntilDone i limit fuel _

end Follows

end Machine
end AddressBinder
