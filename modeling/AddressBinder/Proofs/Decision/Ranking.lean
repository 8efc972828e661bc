import Mathlib.Data.List.Pairwise
import AddressBinder.Proofs.Decision
/-!
# The ranking is exact

What is picked out of a list is determined by it: of the interfaces whose address has the least place in the pool, the
earliest listed.  The address picked does not depend on the order of the list, and nothing picked depends on what the
pool repeats, so instances that see the same interfaces in another order, or the same pool with other repetitions, compete
for the same address.
-/
namespace AddressBinder

variable {candidates pool : Candidates} {l l' : List Interface} {i j : Interface} {ip : Ipv4} {k n : Nat}

namespace Candidates

/-- A pool after some of its addresses were struck out where they stood a second time or more. -/
inductive Thins (candidates : Candidates) : Candidates → Prop
  | whole : Thins candidates candidates
  | strike {before after : List Ipv4} {ip : Ipv4} :
    Thins candidates ⟨before ++ ip :: after⟩ → ip ∈ before → Thins candidates ⟨before ++ after⟩

theorem Thins.eraseDups_tail {candidates : Candidates} : ∀ {todo before : List Ipv4},
    Thins candidates ⟨before ++ todo⟩ → Thins candidates ⟨before ++ (todo.removeAll before).eraseDups⟩
  | [], _, h => h
  | ip :: rest, before, h => by
    by_cases hip : ip ∈ before
    · have hskip : (ip :: rest).removeAll before = rest.removeAll before := by simp [List.removeAll, hip]
      rw [hskip]
      exact eraseDups_tail (h.strike hip)
    · have hstep : ((ip :: rest).removeAll before).eraseDups =
          ip :: (rest.removeAll (before ++ [ip])).eraseDups := by
        simp [List.removeAll, hip, List.eraseDups_cons, List.filter_filter, Bool.beq_eq_decide_eq, Bool.and_comm]
      rw [hstep, List.append_cons]
      exact eraseDups_tail (by rwa [List.append_assoc])

/-- Striking out goes as far as a pool without repetitions. -/
theorem thins_eraseDups (candidates : Candidates) : candidates.Thins ⟨candidates.addresses.eraseDups⟩ := by
  have hwhole : candidates.Thins ⟨[] ++ candidates.addresses⟩ := .whole
  have hstruck := hwhole.eraseDups_tail
  rwa [List.removeAll_nil] at hstruck

theorem position_eq_some : candidates.position ip = some k ↔
    candidates.addresses[k]? = some ip ∧ ∀ m < k, candidates.addresses[m]? ≠ some ip := by
  rw [position, List.idxOf?_eq_some_iff]
  constructor
  · rintro ⟨hk, hat, hfirst⟩
    refine ⟨by rw [List.getElem?_eq_getElem hk, hat], fun m hm => ?_⟩
    rw [List.getElem?_eq_getElem (Nat.lt_trans hm hk)]
    exact fun h => hfirst m hm (Option.some.inj h)
  · rintro ⟨hat, hfirst⟩
    obtain ⟨hk, hat⟩ := List.getElem?_eq_some_iff.1 hat
    refine ⟨hk, hat, fun m hm h => hfirst m hm ?_⟩
    rw [List.getElem?_eq_getElem (Nat.lt_trans hm hk), h]

theorem position_eq_some_iff_idxOf : candidates.position ip = some k ↔
    ip ∈ candidates.addresses ∧ candidates.addresses.idxOf ip = k := by
  rw [position, List.idxOf_eq_getD_idxOf?]
  cases h : candidates.addresses.idxOf? ip with
  | none => simp [List.idxOf?_eq_none_iff.1 h]
  | some m =>
    have hmem : ip ∈ candidates.addresses := by
      by_contra hmem
      rw [List.idxOf?_eq_none_iff.2 hmem] at h
      cases h
    simp [hmem]

/-- The same addresses in the same order of their first places. -/
structure SameOrder (candidates pool : Candidates) : Prop where
  mem_iff : ∀ ip, ip ∈ pool.addresses ↔ ip ∈ candidates.addresses
  lt_iff : ∀ {a b : Ipv4}, a ∈ candidates.addresses → b ∈ candidates.addresses →
    (pool.addresses.idxOf a < pool.addresses.idxOf b ↔ candidates.addresses.idxOf a < candidates.addresses.idxOf b)

theorem SameOrder.symm (h : SameOrder candidates pool) : SameOrder pool candidates :=
  ⟨fun ip => (h.mem_iff ip).symm, fun ha hb => (h.lt_iff ((h.mem_iff _).1 ha) ((h.mem_iff _).1 hb)).symm⟩

theorem SameOrder.trans {fewer : Candidates} (h : SameOrder candidates pool) (hfewer : SameOrder pool fewer) :
    SameOrder candidates fewer :=
  ⟨fun ip => (hfewer.mem_iff ip).trans (h.mem_iff ip), fun ha hb =>
    (hfewer.lt_iff ((h.mem_iff _).2 ha) ((h.mem_iff _).2 hb)).trans (h.lt_iff ha hb)⟩

/-- A repetition that goes moves later first places forward by one, and no first place before it. -/
theorem sameOrder_strike {before after : List Ipv4} (hip : ip ∈ before) :
    SameOrder ⟨before ++ ip :: after⟩ ⟨before ++ after⟩ := by
  refine ⟨fun a => ?_, fun {a b} _ _ => ?_⟩
  · by_cases ha : a = ip
    · simp [ha, hip]
    · simp [ha]
  · have hplace : ∀ {c}, c ∉ before → (ip :: after).idxOf c = after.idxOf c + 1 := fun {c} hc => by
      have hne : ip ≠ c := fun h => hc (h ▸ hip)
      rw [List.idxOf_cons, beq_false_of_ne hne, cond_false]
    have hbound : ∀ {c}, c ∈ before → before.idxOf c < before.length := List.idxOf_lt_length_of_mem
    simp only [List.idxOf_append]
    by_cases ha : a ∈ before <;> by_cases hb : b ∈ before <;> simp only [ha, hb, if_true, if_false]
    · have := hbound ha
      rw [hplace hb]
      omega
    · have := hbound hb
      rw [hplace ha]
      omega
    · rw [hplace ha, hplace hb]
      omega

theorem Thins.sameOrder (h : Thins candidates pool) : SameOrder candidates pool := by
  induction h with
  | whole => exact ⟨fun _ => Iff.rfl, fun _ _ => Iff.rfl⟩
  | strike _ hip ih => exact ih.trans (sameOrder_strike hip)

end Candidates

namespace Decision

open Candidates (SameOrder)

/-- An interface has an address, and the first place of it in the pool is the given one. -/
def HasPlace (candidates : Candidates) (i : Interface) (k : Nat) : Prop :=
  ∃ ip, i.privateIp = some ip ∧ candidates.addresses[k]? = some ip ∧ ∀ m < k, candidates.addresses[m]? ≠ some ip

/-- The earliest listed of the interfaces of least place. -/
def IsEarliestBest (candidates : Candidates) (l : List Interface) (i : Interface) : Prop :=
  ∃ (n : Nat) (k : Nat), l[n]? = some i ∧ HasPlace candidates i k ∧
    ∀ (n' : Nat) j k', l[n']? = some j → HasPlace candidates j k' → k < k' ∨ k = k' ∧ n ≤ n'

theorem rank?_eq_some : rank? candidates i = some k ↔ ∃ ip, i.privateIp = some ip ∧ candidates.position ip = some k := by
  unfold rank?
  cases i.privateIp <;> simp

theorem rank?_eq_some_iff_hasPlace : rank? candidates i = some k ↔ HasPlace candidates i k := by
  simp only [rank?_eq_some, HasPlace, Candidates.position_eq_some]

theorem isEarliestBest_iff : IsEarliestBest candidates l i ↔ ∃ (n : Nat) (k : Nat), l[n]? = some i ∧
    rank? candidates i = some k ∧
    ∀ (n' : Nat) j k', l[n']? = some j → rank? candidates j = some k' → k < k' ∨ k = k' ∧ n ≤ n' := by
  simp only [IsEarliestBest, rank?_eq_some_iff_hasPlace]

theorem Chosen.isEarliestBest (h : Chosen candidates l i) : IsEarliestBest candidates l i := by
  obtain ⟨before, after, k, rfl, hk, hbefore, hafter⟩ := h
  refine isEarliestBest_iff.2 ⟨before.length, k, by simp, hk, fun n' j k' hj hrank => ?_⟩
  rcases Nat.lt_trichotomy n' before.length with hlt | rfl | hgt
  · rw [List.getElem?_append_left hlt] at hj
    exact .inl (hbefore j (List.mem_of_getElem? hj) k' hrank)
  · obtain rfl : i = j := by simpa using hj
    exact .inr ⟨Option.some.inj (hk.symm.trans hrank), Nat.le_refl _⟩
  · obtain ⟨d, rfl⟩ := Nat.exists_eq_add_of_lt hgt
    have hmem : j ∈ after := List.mem_of_getElem? (i := d) (by
      rw [← hj, List.getElem?_append_right (by omega), Nat.add_assoc, Nat.add_sub_cancel_left, List.getElem?_cons_succ])
    have := hafter j hmem k' hrank
    omega

theorem IsEarliestBest.chosen (h : IsEarliestBest candidates l i) : Chosen candidates l i := by
  obtain ⟨n, k, hi, hk, hleast⟩ := isEarliestBest_iff.1 h
  obtain ⟨hn, hat⟩ := List.getElem?_eq_some_iff.1 hi
  refine ⟨l.take n, l.drop (n + 1), k, ?_, hk, fun j hj m hm => ?_, fun j hj m hm => ?_⟩
  · rw [← hat, List.getElem_cons_drop, List.take_append_drop]
  · obtain ⟨n', hn', rfl⟩ := List.mem_iff_getElem.1 hj
    rw [List.length_take] at hn'
    have := hleast n' _ m (by rw [← List.getElem?_eq_getElem, List.getElem?_take_of_lt (by omega)]) hm
    omega
  · obtain ⟨n', hn'⟩ := List.mem_iff_getElem?.1 hj
    rw [List.getElem?_drop] at hn'
    have := hleast _ j m hn' hm
    omega

/-- What stands first among the best is picked. -/
theorem Chosen.best?_eq (h : Chosen candidates l i) : best? candidates l = some i := by
  obtain ⟨before, after, k, rfl, hk, hbefore, hafter⟩ := h
  induction before with
  | nil =>
    rw [List.nil_append, best?, hk]
    cases hrest : best? candidates after with
    | none => rfl
    | some j =>
      have hj := chosen_of_best? hrest
      obtain ⟨n, hn, -⟩ := hj.rank_le
      have hle := hafter j hj.mem n hn
      simp only [hn, if_neg (Nat.not_lt.2 hle)]
  | cons b before ih =>
    rw [List.cons_append, best?, ih fun j hj => hbefore j (List.mem_cons_of_mem b hj)]
    cases hb : rank? candidates b with
    | none => rfl
    | some m =>
      have hlt := hbefore b List.mem_cons_self m hb
      simp only [hk, if_pos hlt]

theorem best?_eq_some : best? candidates l = some i ↔ Chosen candidates l i := ⟨chosen_of_best?, Chosen.best?_eq⟩

theorem select?_eq_some : select? l candidates = some i ↔ IsEarliestBest candidates l i :=
  best?_eq_some.trans ⟨Chosen.isEarliestBest, IsEarliestBest.chosen⟩

/-- Interfaces of one place have one address. -/
theorem privateIp_eq_of_rank? (hi : rank? candidates i = some k) (hj : rank? candidates j = some k) :
    i.privateIp = j.privateIp := by
  obtain ⟨a, ha, hka⟩ := rank?_eq_some.1 hi
  obtain ⟨b, hb, hkb⟩ := rank?_eq_some.1 hj
  obtain ⟨hka, -⟩ := Candidates.position_eq_some.1 hka
  obtain ⟨hkb, -⟩ := Candidates.position_eq_some.1 hkb
  rw [ha, hb, ← hka, ← hkb]

theorem Chosen.privateIp_eq (h : Chosen candidates l i) (h' : Chosen candidates l' j) (hperm : l.Perm l') :
    i.privateIp = j.privateIp := by
  obtain ⟨k, hk, hleast⟩ := h.rank_le
  obtain ⟨n, hn, hleast'⟩ := h'.rank_le
  have hkn : k = n := Nat.le_antisymm (hleast j (hperm.mem_iff.2 h'.mem) n hn) (hleast' i (hperm.mem_iff.1 h.mem) k hk)
  exact privateIp_eq_of_rank? hk (hkn ▸ hn)

/-- A list and one in another order: nothing is picked out of either, or something out of each, of one address. -/
theorem best?_cases_of_perm (candidates : Candidates) (hperm : l.Perm l') :
    best? candidates l = none ∧ best? candidates l' = none ∨
      ∃ i j, best? candidates l = some i ∧ best? candidates l' = some j ∧ i.privateIp = j.privateIp := by
  have hnone : best? candidates l = none ↔ best? candidates l' = none := by
    simp only [best?_eq_none, hperm.mem_iff]
  cases h : best? candidates l with
  | none => exact .inl ⟨rfl, hnone.1 h⟩
  | some i =>
    cases h' : best? candidates l' with
    | none =>
      rw [hnone.2 h'] at h
      cases h
    | some j => exact .inr ⟨i, j, rfl, rfl, (chosen_of_best? h).privateIp_eq (chosen_of_best? h') hperm⟩

/-- **The address picked is the same in every order of the list.** -/
theorem best?_privateIp_perm (candidates : Candidates) (hperm : l.Perm l') :
    (best? candidates l').bind Interface.privateIp = (best? candidates l).bind Interface.privateIp := by
  rcases best?_cases_of_perm candidates hperm with ⟨h, h'⟩ | ⟨i, j, h, h', hsame⟩
  · rw [h, h']
  · rw [h, h', Option.bind_some, Option.bind_some, hsame]

theorem eq_of_privateIp (hdistinct : (l.filterMap Interface.privateIp).Nodup) (hi : i ∈ l) (hj : j ∈ l)
    (hip : i.privateIp = some ip) (hjp : j.privateIp = some ip) : i = j := by
  by_contra hne
  have hpairs := List.pairwise_filterMap.1 hdistinct
  have : Std.Symm fun a b : Interface => ∀ x, a.privateIp = some x → ∀ y, b.privateIp = some y → x ≠ y :=
    ⟨fun _ _ h x hx y hy => (h y hy x hx).symm⟩
  exact hpairs.forall hi hj hne ip hip ip hjp rfl

/-- **Where no two interfaces share an address, the interface picked is the same in every order of the list.** -/
theorem best?_perm (candidates : Candidates) (hdistinct : (l.filterMap Interface.privateIp).Nodup) (hperm : l.Perm l') :
    best? candidates l' = best? candidates l := by
  rcases best?_cases_of_perm candidates hperm with ⟨h, h'⟩ | ⟨i, j, h, h', hsame⟩
  · rw [h, h']
  · have hi := chosen_of_best? h
    have hj := chosen_of_best? h'
    obtain ⟨ip, hip, -⟩ := hi.isCandidate
    have hjp : j.privateIp = some ip := by rw [← hsame, hip]
    rw [h, h', eq_of_privateIp hdistinct hi.mem (hperm.mem_iff.2 hj.mem) hip hjp]

/-! ## Repetitions in the pool -/

theorem rank?_eq_some_iff_idxOf : rank? candidates i = some k ↔
    ∃ ip, i.privateIp = some ip ∧ ip ∈ candidates.addresses ∧ candidates.addresses.idxOf ip = k := by
  simp only [rank?_eq_some, Candidates.position_eq_some_iff_idxOf]

theorem exists_rank?_of_sameOrder (h : SameOrder candidates pool) (hi : rank? candidates i = some k) :
    ∃ k', rank? pool i = some k' := by
  obtain ⟨ip, hip, hmem, -⟩ := rank?_eq_some_iff_idxOf.1 hi
  exact ⟨_, rank?_eq_some_iff_idxOf.2 ⟨ip, hip, (h.mem_iff ip).2 hmem, rfl⟩⟩

theorem rank?_lt_iff_of_sameOrder (h : SameOrder candidates pool) {k' n' : Nat} (hi : rank? candidates i = some k)
    (hj : rank? candidates j = some n) (hi' : rank? pool i = some k') (hj' : rank? pool j = some n') :
    k' < n' ↔ k < n := by
  obtain ⟨a, ha, hmem, rfl⟩ := rank?_eq_some_iff_idxOf.1 hi
  obtain ⟨b, hb, hmem', rfl⟩ := rank?_eq_some_iff_idxOf.1 hj
  obtain ⟨a', ha', -, rfl⟩ := rank?_eq_some_iff_idxOf.1 hi'
  obtain ⟨b', hb', -, rfl⟩ := rank?_eq_some_iff_idxOf.1 hj'
  obtain rfl : a = a' := Option.some.inj (ha.symm.trans ha')
  obtain rfl : b = b' := Option.some.inj (hb.symm.trans hb')
  exact h.lt_iff hmem hmem'

theorem Chosen.of_sameOrder (hi : Chosen candidates l i) (h : SameOrder candidates pool) : Chosen pool l i := by
  obtain ⟨before, after, k, rfl, hk, hbefore, hafter⟩ := hi
  obtain ⟨k', hk'⟩ := exists_rank?_of_sameOrder h hk
  refine ⟨before, after, k', rfl, hk', fun j hj n' hn' => ?_, fun j hj n' hn' => ?_⟩
  · obtain ⟨n, hn⟩ := exists_rank?_of_sameOrder h.symm hn'
    exact (rank?_lt_iff_of_sameOrder h hk hn hk' hn').2 (hbefore j hj n hn)
  · obtain ⟨n, hn⟩ := exists_rank?_of_sameOrder h.symm hn'
    have hle := hafter j hj n hn
    have hiff := rank?_lt_iff_of_sameOrder h hn hk hn' hk'
    omega

/-- Pools of one order pick the same interface out of every list. -/
theorem best?_of_sameOrder (h : SameOrder candidates pool) (l : List Interface) : best? pool l = best? candidates l :=
  Option.ext fun _ => by
    simp only [best?_eq_some]
    exact ⟨fun hi => hi.of_sameOrder h.symm, fun hi => hi.of_sameOrder h⟩

/-- **What is held and what is to be attached are picked by one exact rule**: nothing exactly when no listed interface
has a candidate address; otherwise the earliest listed of those whose address comes first in the pool; the same address
in every order of the list, the same interface after repetitions are struck from the pool, and the same interface in
every order of a list in which no address occurs twice. -/
theorem selection_exact (candidates : Candidates) (l : List Interface) :
    boundInterface? l candidates = select? l candidates ∧
    (select? l candidates = none ↔ ∀ i ∈ l, ¬ IsCandidate candidates i) ∧
    (∀ i, select? l candidates = some i ↔ IsEarliestBest candidates l i) ∧
    (∀ l', l.Perm l' →
      (select? l' candidates).bind Interface.privateIp = (select? l candidates).bind Interface.privateIp) ∧
    (∀ pool, candidates.Thins pool → select? l pool = select? l candidates) ∧
    ((l.filterMap Interface.privateIp).Nodup → ∀ l', l.Perm l' → select? l' candidates = select? l candidates) :=
  ⟨rfl, best?_eq_none, fun _ => best?_eq_some.trans ⟨Chosen.isEarliestBest, IsEarliestBest.chosen⟩,
    fun _ hperm => best?_privateIp_perm candidates hperm, fun _ hthins => best?_of_sameOrder hthins.sameOrder l,
    fun hdistinct _ hperm => best?_perm candidates hdistinct hperm⟩

/-- A pool that repeats its first address at the end. -/
def repeating : Candidates := ⟨[⟨10, 0, 0, 2⟩, ⟨10, 0, 0, 1⟩, ⟨10, 0, 0, 2⟩]⟩

/-- Interfaces without an address, without a candidate address, and with the addresses of `repeating`. -/
def assorted : List Interface :=
  [⟨"eni-0", none, .available, none, "s"⟩, .free "eni-1" ⟨10, 0, 0, 1⟩ "s", .free "eni-9" ⟨10, 0, 0, 9⟩ "s",
    .free "eni-2" ⟨10, 0, 0, 2⟩ "s"]

theorem selection_exact_of_assorted :
    assorted.Perm assorted.reverse ∧ repeating.Thins ⟨[⟨10, 0, 0, 2⟩, ⟨10, 0, 0, 1⟩]⟩ ∧
    (assorted.filterMap Interface.privateIp).Nodup ∧
    (select? assorted.reverse repeating).bind Interface.privateIp = (select? assorted repeating).bind Interface.privateIp ∧
    select? assorted.reverse repeating = select? assorted repeating ∧
    select? assorted ⟨[⟨10, 0, 0, 2⟩, ⟨10, 0, 0, 1⟩]⟩ = some (.free "eni-2" ⟨10, 0, 0, 2⟩ "s") := by
  have hperm : assorted.Perm assorted.reverse := assorted.reverse_perm.symm
  have hthins : repeating.Thins ⟨[⟨10, 0, 0, 2⟩, ⟨10, 0, 0, 1⟩]⟩ :=
    @Candidates.Thins.strike repeating [⟨10, 0, 0, 2⟩, ⟨10, 0, 0, 1⟩] [] ⟨10, 0, 0, 2⟩ .whole (by decide)
  have hdistinct : (assorted.filterMap Interface.privateIp).Nodup := by decide
  obtain ⟨-, -, -, hsame, hfewer, hexact⟩ := selection_exact repeating assorted
  exact ⟨hperm, hthins, hdistinct, hsame _ hperm, hexact hdistinct _ hperm, (hfewer _ hthins).trans (by decide)⟩

end Decision
end AddressBinder
