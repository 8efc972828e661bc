import AddressBinder.Daemon.Wiring
import AddressBinder.Proofs.Cloud.Lending
/-!
# The pool of a simulated cloud

A pool holds one free interface for each address, under ids that tell them apart however many there are, so the interface
of the first address is there, and a decision that may choose among all of them chooses one with that address
(`select?_addPool`).
-/
namespace AddressBinder
namespace Daemon

open Cloud Decision

variable {subnetId key : String} {n : Nat} {ips : List Ipv4} {c : Cloud} {i : Interface}

theorem simulatedId_injective {m n : Nat} (h : simulatedId m = simulatedId n) : m = n := by
  have hlist := congrArg String.toList h
  simp only [simulatedId, showNat, String.toList_append, String.toList_ofList, List.append_cancel_left_eq] at hlist
  exact Text.numeral_injective hlist

theorem get?_addInterface (c : Cloud) (i : Interface) (key : String) : (c.addInterface i).interfaces.get? key =
    if key = i.interfaceId then some i else c.interfaces.get? key := TextMap.get?_insert _ _ _ _

/-- A pool changes the interfaces only. -/
theorem addPool_eq : ∀ (n : Nat) (ips : List Ipv4) (c : Cloud),
    addPool subnetId n ips c = { c with interfaces := (addPool subnetId n ips c).interfaces }
  | _, [], _ => rfl
  | n, ip :: ips, c => addPool_eq (n + 1) ips (c.addInterface (.free (simulatedId n) ip subnetId))

/-- The interfaces of a pool are free, each with one of the addresses. -/
theorem free_of_addPool : ∀ {n : Nat} {ips : List Ipv4} {c : Cloud},
    (addPool subnetId n ips c).interfaces.get? key = some i →
      c.interfaces.get? key = some i ∨ ∃ ip ∈ ips, i = .free key ip subnetId
  | _, [], _, h => .inl h
  | n, ip :: ips, c, h => by
    rw [addPool] at h
    rcases free_of_addPool h with hc | ⟨ip', hip', hi⟩
    · rw [get?_addInterface] at hc
      split at hc
      · rename_i hkey
        subst hkey
        exact .inr ⟨ip, List.mem_cons_self, (Option.some.inj hc).symm⟩
      · exact .inl hc
    · exact .inr ⟨ip', List.mem_cons_of_mem _ hip', hi⟩

/-- The ids of a pool that is numbered from `n` on are not those of smaller numbers. -/
theorem get?_addPool_of_lt {m : Nat} : ∀ {n : Nat} {ips : List Ipv4} {c : Cloud}, m < n →
    (addPool subnetId n ips c).interfaces.get? (simulatedId m) = c.interfaces.get? (simulatedId m)
  | _, [], _, _ => rfl
  | n, ip :: ips, c, h => by
    have hne : simulatedId m ≠ simulatedId n := fun heq => Nat.ne_of_lt h (simulatedId_injective heq)
    rw [addPool, get?_addPool_of_lt (Nat.lt_succ_of_lt h), get?_addInterface]
    exact if_neg hne

/-- **The interface of the first address is there**, whatever comes after it. -/
theorem get?_addPool_first (n : Nat) (ip : Ipv4) (ips : List Ipv4) (c : Cloud) :
    (addPool subnetId n (ip :: ips) c).interfaces.get? (simulatedId n) = some (.free (simulatedId n) ip subnetId) := by
  rw [addPool, get?_addPool_of_lt (Nat.lt_succ_self n), get?_addInterface]
  exact if_pos rfl

/-! ## The cloud of a known instance -/

/-- The cloud with an instance and a pool. -/
def pooled (instanceId subnetId : String) (ips : List Ipv4) : Cloud :=
  addPool subnetId 1 ips (Cloud.empty.addInstance instanceId subnetId)

variable {instanceId : String}

theorem free_of_pooled (h : (pooled instanceId subnetId ips).interfaces.get? key = some i) :
    ∃ ip ∈ ips, i = .free key ip subnetId := by
  rcases free_of_addPool h with hc | hfree
  · cases hc
  · exact hfree

theorem pooled_eq : pooled instanceId subnetId ips =
    { Cloud.empty.addInstance instanceId subnetId with interfaces := (pooled instanceId subnetId ips).interfaces } :=
  addPool_eq 1 ips _

theorem instances_pooled : (pooled instanceId subnetId ips).instances.get? instanceId = some subnetId := by
  rw [pooled_eq]
  exact (TextMap.get?_insert _ _ _ _).trans (if_pos rfl)

theorem attachment?_pooled (key : String) : (pooled instanceId subnetId ips).attachment? key = none := by
  unfold attachment?
  cases hi : (pooled instanceId subnetId ips).interfaces.get? key with
  | none => rfl
  | some i =>
    obtain ⟨ip, -, rfl⟩ := free_of_pooled hi
    rfl

theorem sound_pooled : (pooled instanceId subnetId ips).Sound where
  distinct {k _ _ _} ha := by
    rw [attachment?_pooled k] at ha
    cases ha
  fresh {k _ _} ha := by
    rw [attachment?_pooled k] at ha
    cases ha

/-- The instance may attach any interface of its pool. -/
theorem grants_pooled (slot : Nat) (h : (pooled instanceId subnetId ips).interfaces.get? key = some i) :
    (pooled instanceId subnetId ips).Grants key instanceId slot i := by
  obtain ⟨ip, -, rfl⟩ := free_of_pooled h
  have hslot : (pooled instanceId subnetId ips).slotTaken instanceId slot = false := by
    rw [← Bool.not_eq_true, slotTaken_iff]
    rintro ⟨k, j, a, hj, ha, -⟩
    obtain ⟨ip', -, rfl⟩ := free_of_pooled hj
    cases ha
  have hworks : (pooled instanceId subnetId ips).failAttaches = false := by rw [pooled_eq]; rfl
  exact ⟨hworks, congrArg Option.isSome instances_pooled, hslot, h, rfl, rfl⟩

theorem home_pooled (own : String) (candidates : Candidates) :
    Home own candidates (pooled instanceId subnetId ips).interfaces.get? where
  indexed key i h := by
    obtain ⟨ip, -, rfl⟩ := free_of_pooled h
    rfl
  vacant key i h _ := by
    obtain ⟨ip, -, rfl⟩ := free_of_pooled h
    rfl
  unheld key i h hheld := by
    obtain ⟨ip, -, rfl⟩ := free_of_pooled h
    cases hheld

theorem admits_free {candidates : Candidates} {ip : Ipv4} (h : ip ∈ candidates.addresses) :
    (Inventory.availableFilter candidates subnetId).admits (.free key ip subnetId) = true := by
  simp [Inventory.availableFilter, InterfaceFilter.admits, Interface.free, h]

theorem rank?_free (ip : Ipv4) (more : List Ipv4) (key : String) (ip' : Ipv4) :
    rank? ⟨ip :: more⟩ (.free key ip' subnetId) = some 0 ↔ ip' = ip := by
  by_cases h : ip = ip'
  · simp [rank?, Interface.free, Candidates.position, List.idxOf?_cons, h]
  · simp [rank?, Interface.free, Candidates.position, List.idxOf?_cons, h, Ne.symm h]

/-- **What is chosen out of a pool has its first address**, in whatever order the interfaces are listed. -/
theorem select?_pooled (instanceId subnetId : String) (ip : Ipv4) (more : List Ipv4) :
    ∃ key, (pooled instanceId subnetId (ip :: more)).interfaces.get? key = some (.free key ip subnetId) ∧
      select? ((pooled instanceId subnetId (ip :: more)).interfaces.values.filter
        (Inventory.availableFilter ⟨ip :: more⟩ subnetId).admits) ⟨ip :: more⟩ = some (.free key ip subnetId) := by
  have hthere : (pooled instanceId subnetId (ip :: more)).interfaces.get? (simulatedId 1) =
      some (.free (simulatedId 1) ip subnetId) := get?_addPool_first 1 ip more _
  have hlisted : Interface.free (simulatedId 1) ip subnetId ∈
      (pooled instanceId subnetId (ip :: more)).interfaces.values.filter
        (Inventory.availableFilter ⟨ip :: more⟩ subnetId).admits :=
    List.mem_filter.2 ⟨TextMap.mem_values.2 ⟨_, hthere⟩, admits_free List.mem_cons_self⟩
  cases hchosen : select? ((pooled instanceId subnetId (ip :: more)).interfaces.values.filter
      (Inventory.availableFilter ⟨ip :: more⟩ subnetId).admits) ⟨ip :: more⟩ with
  | none => exact absurd ⟨ip, rfl, List.mem_cons_self⟩ (best?_eq_none.1 hchosen _ hlisted)
  | some i =>
    have hbest := chosen_of_best? hchosen
    obtain ⟨key, hkey⟩ := TextMap.mem_values.1 (List.mem_filter.1 hbest.mem).1
    obtain ⟨ip', -, rfl⟩ := free_of_pooled hkey
    obtain ⟨k, hk, hle⟩ := hbest.rank_le
    obtain rfl : k = 0 := Nat.le_zero.1 (hle _ hlisted 0 ((rank?_free ip more _ ip).2 rfl))
    obtain rfl := (rank?_free ip more key ip').1 hk
    exact ⟨key, hkey, rfl⟩

end Daemon
end AddressBinder
