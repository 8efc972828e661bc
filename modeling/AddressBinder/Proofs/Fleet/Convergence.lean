import Mathlib.Data.List.Nodup
import AddressBinder.Proofs.Cloud.Attachments
import AddressBinder.Proofs.Pass.Alone
/-!
# Convergence

Binders of one subnet that share a pool of addresses and pass one after the other.  Each pass takes the free interface
that ranks first and leaves the others in their order (`Waiting.step`), so the passes hand the free interfaces out in the
order of priority, whichever binder comes when.
-/
namespace AddressBinder
namespace Pass

open Decision

variable {c d : Cloud} {candidates : Candidates} {subnet : String} {pool : List Interface} {p q : Runner}
  {order before : List Runner} {i : Interface}

/-! ## What is free -/

/-- A cloud whose calls work, where what is available is unattached and an address belongs to one interface. -/
structure Pooled (c : Cloud) : Prop where
  indexed : c.Indexed
  vacant : c.Vacant
  distinct : ∀ k l i j ip, c.interfaces.get? k = some i → c.interfaces.get? l = some j → i.privateIp = some ip →
    j.privateIp = some ip → k = l
  queries : c.failQueries = false
  attaches : c.failAttaches = false

/-- An interface of the subnet with a candidate address that is available. -/
structure Free (c : Cloud) (candidates : Candidates) (subnet : String) (i : Interface) : Prop where
  known : c.interfaces.get? i.interfaceId = some i
  available : i.status = .available
  inSubnet : i.subnetId = subnet
  candidate : IsCandidate candidates i

/-- The free interfaces of the subnet, those of higher priority first. -/
structure Ranked (c : Cloud) (candidates : Candidates) (subnet : String) (pool : List Interface) : Prop where
  free : ∀ i, i ∈ pool ↔ Free c candidates subnet i
  sorted : pool.Pairwise fun i j => ∀ m n, rank? candidates i = some m → rank? candidates j = some n → m < n

/-- A binder whose instance holds no candidate address and has the slot free. -/
structure Ready (c : Cloud) (candidates : Candidates) (subnet : String) (p : Runner) : Prop where
  resolves : Candidates.ofEntries p.metadata.availabilityZone p.urls = .ok candidates
  registered : c.instances.get? p.instanceId = some subnet
  unbound : ∀ key i, c.interfaces.get? key = some i → i.isHeldBy p.instanceId = true → ¬ IsCandidate candidates i
  slotFree : c.slotTaken p.instanceId Inventory.secondarySlot = false

/-- **A pass gets to choose from the free interfaces.** -/
theorem mem_choice (hc : c.Indexed) (hne : candidates.addresses ≠ []) :
    i ∈ Runner.choice c candidates subnet ↔ Free c candidates subnet i := by
  unfold Runner.choice
  rw [List.mem_filter, TextMap.mem_values]
  have hsome : candidates.addresses.isEmpty = false := by simpa using hne
  have hadmits : (Inventory.availableFilter candidates subnet).admits i = true ↔
      IsCandidate candidates i ∧ i.status = .available ∧ i.subnetId = subnet := by
    unfold InterfaceFilter.admits Inventory.availableFilter IsCandidate
    simp only [hsome, Bool.false_or, Bool.and_eq_true, beq_iff_eq]
    cases i.privateIp <;> simp [and_assoc]
  rw [hadmits]
  constructor
  · rintro ⟨⟨key, hkey⟩, hcandidate, havailable, hsubnet⟩
    have hid : i.interfaceId = key := hc key i hkey
    exact ⟨hid ▸ hkey, havailable, hsubnet, hcandidate⟩
  · intro h
    exact ⟨⟨_, h.known⟩, h.candidate, h.available, h.inSubnet⟩

/-- **The decision picks the free interface that ranks first.** -/
theorem Ranked.select (h : Ranked c candidates subnet pool) (hc : c.Indexed) (hne : candidates.addresses ≠ []) :
    select? (Runner.choice c candidates subnet) candidates = pool.head? := by
  have hmem : ∀ i, i ∈ Runner.choice c candidates subnet ↔ i ∈ pool := fun i => by rw [mem_choice hc hne, h.free]
  cases hs : select? (Runner.choice c candidates subnet) candidates with
  | none =>
    cases pool with
    | nil => rfl
    | cons j rest =>
      have hj : Free c candidates subnet j := (h.free j).1 List.mem_cons_self
      exact absurd hj.candidate (best?_eq_none.1 hs j ((hmem j).2 List.mem_cons_self))
  | some i =>
    have hchosen := chosen_of_best? hs
    have hi : i ∈ pool := (hmem i).1 hchosen.mem
    obtain ⟨k, hk, hleast⟩ := hchosen.rank_le
    cases pool with
    | nil => cases hi
    | cons j rest =>
      rcases List.mem_cons.1 hi with rfl | hrest
      · rfl
      · -- an interface behind the first one ranks behind it, so it was not picked
        have hj : j ∈ j :: rest := List.mem_cons_self
        obtain ⟨n, hn⟩ := Option.ne_none_iff_exists'.1 fun hnone => rank?_eq_none.1 hnone ((h.free j).1 hj).candidate
        have hle : k ≤ n := hleast j ((hmem j).2 hj) n hn
        have hlt : n < k := (List.pairwise_cons.1 h.sorted).1 i hrest n k hn hk
        omega

/-! ## One pass -/

/-- A pass attaches the interface, if one is there to attach, and changes nothing else. -/
def Attaches (instanceId : String) (c d : Cloud) : Option Interface → Prop
  | some i =>
    d.attachCalls = c.attachCalls ++ [(i.interfaceId, instanceId, Inventory.secondarySlot)] ∧
      ∃ id, d.interfaces = c.interfaces.modify i.interfaceId (.taken ⟨id, instanceId, Inventory.secondarySlot⟩)
  | none => d.attachCalls = c.attachCalls ∧ d.interfaces = c.interfaces

/-- The binders that are still to pass, and the free interfaces that are left. -/
structure Waiting (c : Cloud) (candidates : Candidates) (subnet : String) (pool : List Interface) (order : List Runner) :
    Prop where
  pooled : Pooled c
  ranked : Ranked c candidates subnet pool
  ready : ∀ p ∈ order, Ready c candidates subnet p
  apart : (order.map (·.instanceId)).Nodup

theorem Ready.boundInterface? (h : Ready c candidates subnet p) :
    Decision.boundInterface? (c.heldBy p.instanceId) candidates = none := by
  refine best?_eq_none.2 fun i hi => ?_
  obtain ⟨key, a, hkey, ha⟩ := Cloud.mem_heldBy.1 hi
  exact h.unbound key i hkey (Interface.isHeldBy_iff.2 ⟨a, ha⟩)

theorem Free.grants (h : Free c candidates subnet i) (hc : Pooled c) (hp : Ready c candidates subnet p) :
    c.Grants i.interfaceId p.instanceId Inventory.secondarySlot i where
  working := hc.attaches
  registered := by
    unfold TextMap.contains
    rw [hp.registered]
    rfl
  slotFree := hp.slotFree
  known := h.known
  available := h.available
  unattached := hc.vacant _ i h.known h.available

theorem Runner.attachTo_setup (instanceId : String) (c : Cloud) : ∀ o, c.SameSetup (attachTo instanceId c o)
  | none => ⟨rfl, rfl, rfl, rfl⟩
  | some _ => Cloud.sameSetup_serve c _

theorem pass_setup (hc : Pooled c) (hp : Ready c candidates subnet p) : c.SameSetup (p.pass c) := by
  rw [Runner.pass_eq hp.resolves hp.registered hc.queries hp.boundInterface?]
  obtain ⟨hi, hq, ha, hd⟩ := Runner.attachTo_setup p.instanceId
    ((c.record (.describeInstance p.instanceId)).record .describeInterfaces)
    (select? (Runner.choice c candidates subnet) candidates)
  exact ⟨hi, hq, ha, hd⟩

/-- **A pass attaches the free interface that ranks first.** -/
theorem attaches_pass (hc : Pooled c) (hr : Ranked c candidates subnet pool) (hp : Ready c candidates subnet p) :
    Attaches p.instanceId c (p.pass c) pool.head? := by
  rw [Runner.pass_eq hp.resolves hp.registered hc.queries hp.boundInterface?,
    hr.select hc.indexed (addresses_ne_nil hp.resolves)]
  cases pool with
  | nil =>
    refine ⟨?_, rfl⟩
    simp [Runner.attachTo, Cloud.attachCalls, Cloud.record]
  | cons i rest =>
    have hfree : Free c candidates subnet i := (hr.free i).1 List.mem_cons_self
    have hgrants := hfree.grants hc hp
    have hgrants : ((c.record (.describeInstance p.instanceId)).record .describeInterfaces).Grants i.interfaceId
        p.instanceId Inventory.secondarySlot i := ⟨hgrants.1, hgrants.2, hgrants.3, hgrants.4, hgrants.5, hgrants.6⟩
    rcases Cloud.serve_attach _ i.interfaceId p.instanceId Inventory.secondarySlot with ⟨j, -, heq⟩ | ⟨hno, -⟩
    · refine ⟨?_, _, congrArg (·.2.interfaces) heq⟩
      show (Cloud.serve (.attach i.interfaceId p.instanceId Inventory.secondarySlot) _).2.attachCalls = _
      rw [heq]
      simp [Cloud.attachCalls, Cloud.record, Cloud.attached]
    · exact absurd hgrants (hno i)

theorem Attaches.entry {o : Option Interface} (h : Attaches q.instanceId c d o)
    (ho : ∀ i, o = some i → c.interfaces.get? i.interfaceId = some i) (key : String) :
    ((∀ i, o = some i → i.interfaceId ≠ key) ∧ d.interfaces.get? key = c.interfaces.get? key) ∨
      ∃ i id, o = some i ∧ i.interfaceId = key ∧ c.interfaces.get? key = some i ∧
        d.interfaces.get? key = some (i.taken ⟨id, q.instanceId, Inventory.secondarySlot⟩) := by
  cases o with
  | none => exact .inl ⟨nofun, by rw [h.2]⟩
  | some i =>
    obtain ⟨-, id, hd⟩ := h
    have hi : c.interfaces.get? i.interfaceId = some i := ho i rfl
    by_cases hkey : i.interfaceId = key
    · subst hkey
      have hnew : d.interfaces.get? i.interfaceId = some (i.taken ⟨id, q.instanceId, Inventory.secondarySlot⟩) := by
        rw [hd, TextMap.get?_modify_of hi, if_pos rfl]
      exact .inr ⟨i, id, rfl, rfl, hi, hnew⟩
    · refine .inl ⟨fun j hj => ?_, ?_⟩
      · obtain rfl := Option.some.inj hj
        exact hkey
      · rw [hd, TextMap.get?_modify_of hi, if_neg (Ne.symm hkey)]

theorem Ranked.apart (h : Ranked c candidates subnet pool) :
    pool.Pairwise fun i j => i.interfaceId ≠ j.interfaceId := by
  refine h.sorted.imp_of_mem fun {i j} hi hj hlt hid => ?_
  have hfree : Free c candidates subnet i := (h.free i).1 hi
  have hsame : i = j := Option.some.inj (hfree.known.symm.trans (hid ▸ ((h.free j).1 hj).known))
  obtain ⟨n, hn⟩ := Option.ne_none_iff_exists'.1 fun hnone => rank?_eq_none.1 hnone hfree.candidate
  have hself : n < n := hlt n n hn (hsame ▸ hn)
  omega

namespace Waiting

variable (h : Waiting c candidates subnet pool (q :: order))

include h in
theorem attaches : Attaches q.instanceId c (q.pass c) pool.head? :=
  attaches_pass h.pooled h.ranked (h.ready q List.mem_cons_self)

include h in
theorem entry (key : String) :
    ((∀ i, pool.head? = some i → i.interfaceId ≠ key) ∧ (q.pass c).interfaces.get? key = c.interfaces.get? key) ∨
      ∃ i id, pool.head? = some i ∧ i.interfaceId = key ∧ c.interfaces.get? key = some i ∧
        (q.pass c).interfaces.get? key = some (i.taken ⟨id, q.instanceId, Inventory.secondarySlot⟩) :=
  h.attaches.entry (fun i hi => ((h.ranked.free i).1 (List.mem_of_head? hi)).known) key

include h in
theorem was {key : String} {j : Interface} (hj : (q.pass c).interfaces.get? key = some j) :
    ∃ i, c.interfaces.get? key = some i ∧ j.interfaceId = i.interfaceId ∧ j.privateIp = i.privateIp := by
  rcases h.entry key with ⟨-, hsame⟩ | ⟨i, id, -, -, hi, hnew⟩
  · exact ⟨j, hsame ▸ hj, rfl, rfl⟩
  · obtain rfl := Option.some.inj (hnew.symm.trans hj)
    exact ⟨i, hi, rfl, rfl⟩

include h in
theorem pooled_pass : Pooled (q.pass c) := by
  have hsetup : c.SameSetup (q.pass c) := pass_setup h.pooled (h.ready q List.mem_cons_self)
  refine ⟨fun key j hj => ?_, fun key j hj hs => ?_, fun k l i j ip hi hj hip hjp => ?_, ?_, ?_⟩
  · obtain ⟨i, hi, hname, -⟩ := h.was hj
    exact hname.trans (h.pooled.indexed key i hi)
  · rcases h.entry key with ⟨-, hsame⟩ | ⟨i, id, -, -, -, hnew⟩
    · exact h.pooled.vacant key j (hsame ▸ hj) hs
    · obtain rfl := Option.some.inj (hnew.symm.trans hj)
      cases hs
  · obtain ⟨i', hi', -, haddr⟩ := h.was hi
    obtain ⟨j', hj', -, haddr'⟩ := h.was hj
    exact h.pooled.distinct k l i' j' ip hi' hj' (haddr ▸ hip) (haddr' ▸ hjp)
  · exact hsetup.failQueries.trans h.pooled.queries
  · exact hsetup.failAttaches.trans h.pooled.attaches

include h in
theorem ranked_pass : Ranked (q.pass c) candidates subnet pool.tail := by
  refine ⟨fun i => ⟨fun hi => ?_, fun hi => ?_⟩, h.ranked.sorted.sublist (List.tail_sublist pool)⟩
  · have hfree : Free c candidates subnet i := (h.ranked.free i).1 (List.mem_of_mem_tail hi)
    rcases h.entry i.interfaceId with ⟨-, hsame⟩ | ⟨j, id, hhead, hid, -, -⟩
    · exact ⟨hsame.trans hfree.known, hfree.available, hfree.inSubnet, hfree.candidate⟩
    · -- what is taken is the head, which no other interface is named like
      have hapart := h.ranked.apart
      cases pool with
      | nil => cases hhead
      | cons j' rest =>
        obtain rfl : j' = j := Option.some.inj hhead
        exact absurd hid ((List.pairwise_cons.1 hapart).1 i hi)
  · rcases h.entry i.interfaceId with ⟨hother, hsame⟩ | ⟨j, id, -, -, -, hnew⟩
    · have hmem : i ∈ pool := (h.ranked.free i).2 ⟨hsame.symm.trans hi.known, hi.available, hi.inSubnet, hi.candidate⟩
      cases pool with
      | nil => cases hmem
      | cons j rest =>
        rcases List.mem_cons.1 hmem with rfl | hrest
        · exact absurd rfl (hother i rfl)
        · exact hrest
    · have htaken : j.taken ⟨id, q.instanceId, Inventory.secondarySlot⟩ = i := Option.some.inj (hnew.symm.trans hi.known)
      have hstatus := hi.available
      rw [← htaken] at hstatus
      cases hstatus

include h in
theorem ready_pass (hp : p ∈ order) : Ready (q.pass c) candidates subnet p := by
  have hready : Ready c candidates subnet p := h.ready p (List.mem_cons_of_mem q hp)
  have hsetup : c.SameSetup (q.pass c) := pass_setup h.pooled (h.ready q List.mem_cons_self)
  have hne : q.instanceId ≠ p.instanceId := by
    intro heq
    have hnotin := (List.nodup_cons.1 h.apart).1
    exact hnotin (List.mem_map.2 ⟨p, hp, heq.symm⟩)
  refine ⟨hready.resolves, ?_, fun key j hj hheld => ?_, ?_⟩
  · rw [hsetup.instances]
    exact hready.registered
  · rcases h.entry key with ⟨-, hsame⟩ | ⟨i, id, -, -, -, hnew⟩
    · exact hready.unbound key j (hsame ▸ hj) hheld
    · obtain rfl := Option.some.inj (hnew.symm.trans hj)
      exact absurd (eq_of_beq hheld) hne
  · have hfree := hready.slotFree
    by_contra htaken
    obtain ⟨key, j, a, hj, ha, hown, hslot⟩ := Cloud.slotTaken_iff.1 (by simpa using htaken)
    rcases h.entry key with ⟨-, hsame⟩ | ⟨i, id, -, -, -, hnew⟩
    · rw [Cloud.slotTaken_iff.2 ⟨key, j, a, hsame ▸ hj, ha, hown, hslot⟩] at hfree
      cases hfree
    · obtain rfl := Option.some.inj (hnew.symm.trans hj)
      obtain rfl := Option.some.inj ha
      exact hne hown

include h in
/-- **After a pass the others wait for what is left.** -/
theorem step : Waiting (q.pass c) candidates subnet pool.tail order where
  pooled := h.pooled_pass
  ranked := h.ranked_pass
  ready _ hp := h.ready_pass hp
  apart := (List.nodup_cons.1 h.apart).2

end Waiting

/-! ## Passes one after the other -/

/-- The cloud after passes of binders, one after the other. -/
def passes (c : Cloud) (order : List Runner) : Cloud := order.foldl (fun c p => p.pass c) c

theorem Waiting.run {after : List Runner} (h : Waiting c candidates subnet pool (before ++ after)) :
    Waiting (passes c before) candidates subnet (pool.drop before.length) after := by
  induction before generalizing c pool with
  | nil => exact h
  | cons p before ih =>
    rw [List.length_cons, ← List.drop_tail]
    exact ih h.step

/-- The binder that comes as number `k` attaches the interface that ranks as number `k`, or nothing when there is none. -/
theorem Waiting.turn {k : Nat} (h : Waiting c candidates subnet pool order) (hp : order[k]? = some p) :
    Attaches p.instanceId (passes c (order.take k)) (passes c (order.take (k + 1))) pool[k]? := by
  obtain ⟨hk, rfl⟩ := List.getElem?_eq_some_iff.1 hp
  have hsplit : order = order.take k ++ order[k] :: order.drop (k + 1) := by simp
  have hwait : Waiting (passes c (order.take k)) candidates subnet (pool.drop (order.take k).length)
      (order[k] :: order.drop (k + 1)) := by
    rw [hsplit] at h
    exact h.run
  have hlength : (order.take k).length = k := List.length_take_of_le (Nat.le_of_lt hk)
  have hnext : passes c (order.take (k + 1)) = order[k].pass (passes c (order.take k)) := by
    unfold passes
    rw [List.take_succ_eq_append_getElem hk, List.foldl_append]
    rfl
  have hattaches := hwait.attaches
  rw [hlength, List.head?_drop] at hattaches
  rw [hnext]
  exact hattaches

/-- **The passes take the interfaces that rank first, one each**, and leave all others alone. -/
theorem Waiting.outcome (h : Waiting c candidates subnet pool order) :
    (∀ (k : Nat) (i : Interface) (p : Runner), pool[k]? = some i → order[k]? = some p → ∃ id, (passes c order).interfaces.get? i.interfaceId =
      some (i.taken ⟨id, p.instanceId, Inventory.secondarySlot⟩)) ∧
    ∀ key, (∀ i ∈ pool.take order.length, i.interfaceId ≠ key) →
      (passes c order).interfaces.get? key = c.interfaces.get? key := by
  induction order generalizing c pool with
  | nil => exact ⟨fun _ _ _ _ hp => by simp at hp, fun _ _ => rfl⟩
  | cons q order ih =>
    obtain ⟨htaken, hothers⟩ := ih h.step
    cases pool with
    | nil =>
      refine ⟨fun _ _ _ hi _ => by simp at hi, fun key hkey => ?_⟩
      have hsame : (q.pass c).interfaces = c.interfaces := h.attaches.2
      rw [← hsame]
      exact hothers key (by simp)
    | cons i₀ rest =>
      have hapart := (List.pairwise_cons.1 h.ranked.apart).1
      refine ⟨fun k i p hi hp => ?_, fun key hkey => ?_⟩
      · cases k with
        | zero =>
          obtain rfl : i₀ = i := Option.some.inj hi
          obtain rfl : q = p := Option.some.inj hp
          have hlater : ∀ j ∈ rest.take order.length, j.interfaceId ≠ i₀.interfaceId := fun j hj =>
            (hapart j (List.mem_of_mem_take hj)).symm
          have hstays : (passes c (q :: order)).interfaces.get? i₀.interfaceId =
            (q.pass c).interfaces.get? i₀.interfaceId := hothers i₀.interfaceId hlater
          rcases h.entry i₀.interfaceId with ⟨hother, -⟩ | ⟨j, id, hhead, -, -, hnew⟩
          · exact absurd rfl (hother i₀ rfl)
          · obtain rfl := Option.some.inj hhead
            exact ⟨id, hstays.trans hnew⟩
        | succ k => exact htaken k i p hi hp
      · have hrest : ∀ i ∈ rest.take order.length, i.interfaceId ≠ key := fun i hi => hkey i (List.mem_cons_of_mem i₀ hi)
        have hfirst : i₀.interfaceId ≠ key := hkey i₀ List.mem_cons_self
        rcases h.entry key with ⟨-, hsame⟩ | ⟨j, id, hhead, hid, -, -⟩
        · exact (hothers key hrest).trans hsame
        · obtain rfl := Option.some.inj hhead
          exact absurd hid hfirst

theorem Waiting.pooled_passes (h : Waiting c candidates subnet pool order) : Pooled (passes c order) := by
  rw [← List.append_nil order] at h
  exact h.run.pooled

/-- An interface with the address is attached to the instance. -/
def Holds (c : Cloud) (ip : Ipv4) (instanceId : String) : Prop :=
  ∃ key i a, c.interfaces.get? key = some i ∧ i.privateIp = some ip ∧ i.attachment = some a ∧ a.instanceId = instanceId

theorem Waiting.holds_iff {k : Nat} {ip : Ipv4} {who : String} (h : Waiting c candidates subnet pool order)
    (hi : pool[k]? = some i) (hip : i.privateIp = some ip) :
    Holds (passes c order) ip who ↔ order[k]?.map (·.instanceId) = some who := by
  obtain ⟨htaken, hothers⟩ := h.outcome
  have hfree : Free c candidates subnet i := (h.ranked.free i).1 (List.mem_of_getElem? hi)
  -- the address belongs to the one interface, so its entry decides
  have hentry : ∀ j, (passes c order).interfaces.get? i.interfaceId = some j → j.privateIp = some ip →
      (Holds (passes c order) ip who ↔ ∃ a, j.attachment = some a ∧ a.instanceId = who) := by
    intro j hj hjp
    constructor
    · rintro ⟨key, j', a, hj', hip', ha⟩
      obtain rfl : key = i.interfaceId := h.pooled_passes.distinct key _ j' j ip hj' hj hip' hjp
      obtain rfl := Option.some.inj (hj.symm.trans hj')
      exact ⟨a, ha⟩
    · rintro ⟨a, ha, hwho⟩
      exact ⟨_, j, a, hj, hjp, ha, hwho⟩
  cases hp : order[k]? with
  | some p =>
    obtain ⟨id, hj⟩ := htaken k i p hi hp
    rw [hentry _ hj hip]
    simp [Interface.taken]
  | none =>
    have hlate : ∀ j ∈ pool.take order.length, j.interfaceId ≠ i.interfaceId := by
      intro j hj
      obtain ⟨n, hn, rfl⟩ := List.mem_take_iff_getElem.1 hj
      obtain ⟨hk, rfl⟩ := List.getElem?_eq_some_iff.1 hi
      have hle : order.length ≤ k := List.getElem?_eq_none_iff.1 hp
      exact List.pairwise_iff_getElem.1 h.ranked.apart n k (by omega) hk (by omega)
    have hj := (hothers i.interfaceId hlate).trans hfree.known
    rw [hentry i hj hip, h.pooled.vacant _ i hfree.known hfree.available]
    simp

/-! ## The pool -/

/-- Whether an interface is not behind another one in priority; of two that have none either will do. -/
def notBehind (candidates : Candidates) (i j : Interface) : Bool :=
  (rank? candidates i).getD 0 ≤ (rank? candidates j).getD 0

/-- The free interfaces of a subnet by priority. -/
def freeByPriority (c : Cloud) (candidates : Candidates) (subnet : String) : List Interface :=
  (c.interfaces.values.filter fun i =>
    i.status == .available && i.subnetId == subnet && (rank? candidates i).isSome).mergeSort (notBehind candidates)

theorem nodup_values (hc : c.Indexed) : c.interfaces.values.Nodup := by
  refine List.pairwise_map.2 (c.interfaces.sorted.imp_of_mem fun {e f} he hf hlt heq => ?_)
  have hkeys : e.1 = f.1 := (hc _ _ (TextMap.mem_entries.1 he)).symm.trans (heq ▸ hc _ _ (TextMap.mem_entries.1 hf))
  exact String.lt_irrefl f.1 (hkeys ▸ hlt)

theorem privateIp_of_rank? {n : Nat} (hi : rank? candidates i = some n) : i.privateIp = candidates.addresses[n]? := by
  unfold rank? Candidates.position at hi
  split at hi
  · rename_i ip hip
    obtain ⟨hn, heq, -⟩ := List.idxOf?_eq_some_iff.1 hi
    rw [hip, List.getElem?_eq_getElem hn, heq]
  · cases hi

/-- **There is an order of priority.** -/
theorem ranked_freeByPriority (hc : Pooled c) : Ranked c candidates subnet (freeByPriority c candidates subnet) := by
  have hmem : ∀ i, i ∈ freeByPriority c candidates subnet ↔ Free c candidates subnet i := by
    intro i
    unfold freeByPriority
    rw [List.mem_mergeSort, List.mem_filter, TextMap.mem_values]
    have hcandidate : (rank? candidates i).isSome = true ↔ IsCandidate candidates i := by
      rw [Option.isSome_iff_ne_none, ne_eq, rank?_eq_none, not_not]
    simp only [Bool.and_eq_true, beq_iff_eq, hcandidate]
    constructor
    · rintro ⟨⟨key, hkey⟩, ⟨havailable, hsubnet⟩, hi⟩
      have hid : i.interfaceId = key := hc.indexed key i hkey
      exact ⟨hid ▸ hkey, havailable, hsubnet, hi⟩
    · intro h
      exact ⟨⟨_, h.known⟩, ⟨h.available, h.inSubnet⟩, h.candidate⟩
  refine ⟨hmem, ?_⟩
  have hsorted : (freeByPriority c candidates subnet).Pairwise fun i j => notBehind candidates i j = true :=
    List.pairwise_mergeSort (fun i j k => by simp only [notBehind, decide_eq_true_eq]; omega)
      (fun i j => by simp only [notBehind, Bool.or_eq_true, decide_eq_true_eq]; omega) _
  have hnodup : (freeByPriority c candidates subnet).Nodup :=
    (List.mergeSort_perm _ _).nodup_iff.2 ((nodup_values hc.indexed).filter _)
  refine (hsorted.and hnodup).imp_of_mem fun {i j} hi hj hij m n hm hn => ?_
  obtain ⟨hle, hne⟩ := hij
  have hle : m ≤ n := by simpa [notBehind, hm, hn] using hle
  -- two interfaces of one rank would have one address
  refine Nat.lt_of_le_of_ne hle fun hmn => hne ?_
  subst hmn
  have hifree : Free c candidates subnet i := (hmem i).1 hi
  have hjfree : Free c candidates subnet j := (hmem j).1 hj
  obtain ⟨ip, hip, -⟩ := hifree.candidate
  have hjp : j.privateIp = some ip := (privateIp_of_rank? hn).trans ((privateIp_of_rank? hm).symm.trans hip)
  have hkey : i.interfaceId = j.interfaceId := hc.distinct _ _ i j ip hifree.known hjfree.known hip hjp
  exact Option.some.inj (hifree.known.symm.trans (hkey ▸ hjfree.known))

/-- **Order-independent convergence.**  Binders of one subnet whose instances hold no candidate address, with the slot
free, pass one after the other, in whatever order.  The one that comes as number `k` attaches the interface that ranks as
number `k` among those that are free in the beginning, or nothing when there are not so many; so in the end the addresses
of the first ones are held, each by the instance whose turn it was, and no other interface has changed. -/
theorem passes_converge (hc : Pooled c) {crew : List Runner} (hcrew : ∀ p ∈ crew, Ready c candidates subnet p)
    (hapart : (crew.map (·.instanceId)).Nodup) :
    ∃ pool, Ranked c candidates subnet pool ∧ ∀ order : List Runner, order.Perm crew →
      (∀ (k : Nat) (p : Runner), order[k]? = some p →
        Attaches p.instanceId (passes c (order.take k)) (passes c (order.take (k + 1))) pool[k]?) ∧
      (∀ (k : Nat) (i : Interface) (ip : Ipv4), pool[k]? = some i → i.privateIp = some ip → ∀ who,
        Holds (passes c order) ip who ↔ order[k]?.map (·.instanceId) = some who) ∧
      ∀ key, (∀ i ∈ pool.take crew.length, i.interfaceId ≠ key) →
        (passes c order).interfaces.get? key = c.interfaces.get? key := by
  refine ⟨_, ranked_freeByPriority hc, fun order hperm => ?_⟩
  have hwait : Waiting c candidates subnet (freeByPriority c candidates subnet) order :=
    ⟨hc, ranked_freeByPriority hc, fun p hp => hcrew p (hperm.mem_iff.1 hp), (hperm.map _).nodup_iff.2 hapart⟩
  refine ⟨fun k p hp => hwait.turn hp, fun k i ip hi hip who => hwait.holds_iff hi hip, fun key hkey => ?_⟩
  rw [← hperm.length_eq] at hkey
  exact hwait.outcome.2 key hkey

/-- Two free interfaces for three instances. -/
def contested : Cloud :=
  { Cloud.empty with
    instances := ⟨[("i-1", "s"), ("i-2", "s"), ("i-3", "s")], by decide⟩
    interfaces := ⟨[("eni-a", .free "eni-a" ⟨10, 0, 0, 1⟩ "s"), ("eni-b", .free "eni-b" ⟨10, 0, 0, 2⟩ "s")], by decide⟩ }

/-- Binders on the three instances; one address of their pool is named twice. -/
def trio : List Runner :=
  ["i-1", "i-2", "i-3"].map fun n => ⟨⟨.default, "memory"⟩, ⟨n, "z"⟩, ["10.0.0.2", "10.0.0.1", "10.0.0.2"], 1⟩

theorem pooled_contested : Pooled contested where
  indexed := TextMap.forall_get?.2 (by decide)
  vacant := TextMap.forall_get?.2 (by decide)
  distinct k l i j ip hi hj hip hjp := by
    have happart : ∀ e ∈ contested.interfaces.entries, ∀ f ∈ contested.interfaces.entries,
        e.2.privateIp = f.2.privateIp → e.1 = f.1 := by decide
    exact happart (k, i) (TextMap.mem_entries.2 hi) (l, j) (TextMap.mem_entries.2 hj) (hip.trans hjp.symm)
  queries := rfl
  attaches := rfl

theorem ready_trio : ∀ p ∈ trio, Ready contested ⟨[⟨10, 0, 0, 2⟩, ⟨10, 0, 0, 1⟩, ⟨10, 0, 0, 2⟩]⟩ "s" p := by
  have hfree : ∀ key i, contested.interfaces.get? key = some i → i.attachment = none :=
    TextMap.forall_get?.2 (by decide)
  intro p hp
  obtain ⟨n, hn, rfl⟩ := List.mem_map.1 hp
  refine ⟨rfl, ?_, fun key i hi hheld => ?_, rfl⟩
  · have hall : ∀ n ∈ ["i-1", "i-2", "i-3"], contested.instances.get? n = some "s" := by decide
    exact hall n hn
  · obtain ⟨a, ha, -⟩ := Interface.isHeldBy_iff.1 hheld
    rw [hfree key i hi] at ha
    cases ha

theorem passes_converge_of_trio : ∃ pool,
    Ranked contested ⟨[⟨10, 0, 0, 2⟩, ⟨10, 0, 0, 1⟩, ⟨10, 0, 0, 2⟩]⟩ "s" pool ∧
      ∀ order : List Runner, order.Perm trio → ∀ (k : Nat) (i : Interface) (ip : Ipv4), pool[k]? = some i →
        i.privateIp = some ip → ∀ who, Holds (passes contested order) ip who ↔ order[k]?.map (·.instanceId) = some who := by
  obtain ⟨pool, hranked, horder⟩ := passes_converge pooled_contested ready_trio (by decide)
  exact ⟨pool, hranked, fun order hperm => (horder order hperm).2.1⟩

example : (passes contested trio.reverse).attachCalls = [("eni-b", "i-3", 1), ("eni-a", "i-2", 1)] := by rfl

end Pass
end AddressBinder
