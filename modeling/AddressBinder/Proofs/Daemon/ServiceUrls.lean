import AddressBinder.Daemon.Environment
import AddressBinder.Proofs.Discovery.Listing
import AddressBinder.Proofs.TextMap
/-!
# Service URLs out of one text

A text of service URLs is a list of entries, each of which assigns URLs to a zone, and a zone has what its entries assign
to it, in their order (`get?_serviceUrls`).  So a text that is put together from two has the zones of both, and of each
zone the URLs of the one before those of the other, however they are written (`serviceUrls_append`).
-/
namespace AddressBinder
namespace Daemon

open Text Discovery

variable {zone : String} {urls : List String} {entry : List Char} {assigned : List (String × List String)}

/-! ## What entries assign -/

/-- The zone of an entry and the URLs that the entry assigns to it. -/
def assignment (entry : List Char) : String × List String :=
  ((zoneAndList entry).1, (items ',' (zoneAndList entry).2).map String.ofList)

/-- What the entries of a text assign, in their order. -/
def assignments (raw : String) : List (String × List String) := (items ';' raw.toList).map assignment

/-- The lists that are assigned to a zone. -/
def listsOf (zone : String) (assigned : List (String × List String)) : List (List String) :=
  (assigned.filter (fun a => a.1 == zone)).map Prod.snd

/-- What is assigned to a zone: its lists one after the other, if it has any. -/
def gathered? (zone : String) (assigned : List (String × List String)) : Option (List String) :=
  if (listsOf zone assigned).isEmpty then none else some (listsOf zone assigned).flatten

theorem merge_assoc (xs ys zs : Option (List String)) :
    Option.merge (· ++ ·) (Option.merge (· ++ ·) xs ys) zs = Option.merge (· ++ ·) xs (Option.merge (· ++ ·) ys zs) := by
  cases xs <;> cases ys <;> cases zs <;> simp

theorem gathered?_append (zone : String) (assigned more : List (String × List String)) :
    gathered? zone (assigned ++ more) = Option.merge (· ++ ·) (gathered? zone assigned) (gathered? zone more) := by
  have hlists : listsOf zone (assigned ++ more) = listsOf zone assigned ++ listsOf zone more := by
    unfold listsOf
    rw [List.filter_append, List.map_append]
  unfold gathered?
  rw [hlists]
  cases listsOf zone assigned with
  | nil => cases listsOf zone more <;> simp
  | cons list lists => cases listsOf zone more <;> simp

theorem gathered?_singleton (zone : String) (a : String × List String) :
    gathered? zone [a] = if a.1 = zone then some a.2 else none := by
  by_cases h : a.1 = zone
  · simp [gathered?, listsOf, h]
  · simp [gathered?, listsOf, h]

theorem mem_of_gathered? (h : gathered? zone assigned = some urls) :
    (∃ a ∈ assigned, a.1 = zone) ∧ ∀ url ∈ urls, ∃ a ∈ assigned, a.1 = zone ∧ url ∈ a.2 := by
  have hof : ∀ list ∈ listsOf zone assigned, ∃ a ∈ assigned, a.1 = zone ∧ a.2 = list := by
    intro list hlist
    obtain ⟨a, ha, rfl⟩ := List.mem_map.1 hlist
    obtain ⟨hmem, hzone⟩ := List.mem_filter.1 ha
    exact ⟨a, hmem, by simpa using hzone, rfl⟩
  unfold gathered? at h
  cases hlists : listsOf zone assigned with
  | nil =>
    rw [hlists] at h
    cases h
  | cons list lists =>
    rw [hlists] at h hof
    obtain rfl := Option.some.inj h
    refine ⟨?_, fun url hurl => ?_⟩
    · obtain ⟨a, ha, hzone, -⟩ := hof list List.mem_cons_self
      exact ⟨a, ha, hzone⟩
    · obtain ⟨l, hl, hurl⟩ := List.mem_flatten.1 hurl
      obtain ⟨a, ha, hzone, rfl⟩ := hof l hl
      exact ⟨a, ha, hzone, hurl⟩

/-! ## The map of a text -/

theorem get?_extend (m : TextMap (List String)) (a : String × List String) (zone : String) :
    (extend m a.1 a.2).get? zone = Option.merge (· ++ ·) (m.get? zone) (gathered? zone [a]) := by
  unfold extend
  rw [TextMap.get?_insert, gathered?_singleton]
  by_cases h : a.1 = zone
  · subst h
    cases m.get? a.1 <;> simp
  · rw [if_neg h, if_neg (Ne.symm h)]
    cases m.get? zone <;> rfl

/-- **What is assigned comes after what a map has.** -/
theorem get?_foldl_extend (zone : String) : ∀ (assigned : List (String × List String)) (m : TextMap (List String)),
    (assigned.foldl (fun m a => extend m a.1 a.2) m).get? zone =
      Option.merge (· ++ ·) (m.get? zone) (gathered? zone assigned)
  | [], m => by cases h : m.get? zone <;> simp [gathered?, listsOf, h]
  | a :: assigned, m => by
    have hcons : gathered? zone (a :: assigned) = gathered? zone ([a] ++ assigned) := rfl
    rw [List.foldl_cons, get?_foldl_extend zone assigned, get?_extend, hcons, gathered?_append, merge_assoc]

/-- The map of what is assigned. -/
def gather (assigned : List (String × List String)) : TextMap (List String) :=
  assigned.foldl (fun m a => extend m a.1 a.2) TextMap.empty

theorem get?_gather (zone : String) (assigned : List (String × List String)) :
    (gather assigned).get? zone = gathered? zone assigned := by
  unfold gather
  rw [get?_foldl_extend, TextMap.get?_empty]
  cases gathered? zone assigned <;> rfl

theorem serviceUrls_eq_gather (raw : String) : serviceUrls raw = gather (assignments raw) := by
  unfold serviceUrls gather assignments
  rw [List.foldl_map]
  rfl

/-- **A zone has what the entries of the text assign to it.** -/
theorem get?_serviceUrls (raw zone : String) : (serviceUrls raw).get? zone = gathered? zone (assignments raw) := by
  rw [serviceUrls_eq_gather, get?_gather]

/-! ## What can be read at all -/

/-- A zone and URLs that can be read: no mark of a scheme in the name, and each URL an item. -/
structure Readable (zone : String) (urls : List String) : Prop where
  zone_unmarked : ¬ "://".toList <:+: zone.toList
  zone_whole : ';' ∉ zone.toList
  isItem : ∀ url ∈ urls, IsItem ',' url.toList
  urls_whole : ∀ url ∈ urls, ';' ∉ url.toList

theorem hasScheme_iff {cs : List Char} : hasScheme cs = true ↔ "://".toList <:+: cs := after_isSome_iff

theorem zoneAndList_cases (entry : List Char) : zoneAndList entry = (defaultZone, entry) ∨
    ∃ name list, entry = name ++ '=' :: list ∧ ¬ "://".toList <:+: name ∧
      zoneAndList entry = (String.ofList (trim name), list) := by
  unfold zoneAndList
  cases hcut : cut '=' entry with
  | none => exact .inl rfl
  | some parts =>
    by_cases hscheme : hasScheme parts.1 = true
    · exact .inl (if_pos hscheme)
    · exact .inr ⟨parts.1, parts.2, (cut_eq hcut).1, fun h => hscheme (hasScheme_iff.2 h), if_neg hscheme⟩

theorem readable_items {list : List Char} (hzone : ¬ "://".toList <:+: zone.toList) (hwhole : ';' ∉ zone.toList)
    (hlist : ';' ∉ list) : Readable zone ((items ',' list).map String.ofList) where
  zone_unmarked := hzone
  zone_whole := hwhole
  isItem := by
    intro url hurl
    obtain ⟨it, hit, rfl⟩ := List.mem_map.1 hurl
    rw [String.toList_ofList]
    exact isItem_of_mem_items hit
  urls_whole := by
    intro url hurl hmem
    obtain ⟨it, hit, rfl⟩ := List.mem_map.1 hurl
    rw [String.toList_ofList] at hmem
    exact hlist (mem_of_mem_items hit hmem)

/-- **Whatever an entry holds, what it assigns can be read.** -/
theorem readable_assignment (hentry : ';' ∉ entry) : Readable (assignment entry).1 (assignment entry).2 := by
  unfold assignment
  rcases zoneAndList_cases entry with hbare | ⟨name, list, rfl, hname, hnamed⟩
  · rw [hbare]
    dsimp only
    exact readable_items (fun h => absurd (hasScheme_iff.2 h) (by decide)) (by decide) hentry
  · rw [hnamed]
    dsimp only
    obtain ⟨hwhole, hlist⟩ : ';' ∉ name ∧ ';' ∉ list := by
      simp only [List.mem_append, List.mem_cons, not_or] at hentry
      exact ⟨hentry.1, hentry.2.2⟩
    have htrim : (String.ofList (trim name)).toList <:+: name := by
      rw [String.toList_ofList]
      exact infix_dropEnds isBlank name
    exact readable_items (fun h => hname (h.trans htrim)) (fun h => hwhole (htrim.subset h)) hlist

theorem readable_of_get? {raw : String} (h : (serviceUrls raw).get? zone = some urls) : Readable zone urls := by
  have hall : ∀ a ∈ assignments raw, Readable a.1 a.2 := by
    intro a ha
    obtain ⟨entry, hentry, rfl⟩ := List.mem_map.1 ha
    exact readable_assignment (isItem_of_mem_items hentry).sep_notMem
  rw [get?_serviceUrls] at h
  obtain ⟨⟨a, ha, rfl⟩, hurls⟩ := mem_of_gathered? h
  refine ⟨(hall a ha).zone_unmarked, (hall a ha).zone_whole, fun url hurl => ?_, fun url hurl => ?_⟩
  · obtain ⟨b, hb, -, hurl⟩ := hurls url hurl
    exact (hall b hb).isItem url hurl
  · obtain ⟨b, hb, -, hurl⟩ := hurls url hurl
    exact (hall b hb).urls_whole url hurl

/-! ## Texts put together -/

theorem assignments_append (r s : String) : assignments (r ++ ";" ++ s) = assignments r ++ assignments s := by
  have htext : (r ++ ";" ++ s).toList = r.toList ++ ';' :: s.toList := by simp
  unfold assignments
  rw [htext, items_append, List.map_append]

/-- **Reading texts put together is reading each of them**, whatever they hold: the zones are those of both, and a zone
has the URLs of the first before those of the second.  What is read of any text can be written. -/
theorem serviceUrls_append (r s : String) :
    (∀ zone, (serviceUrls (r ++ ";" ++ s)).contains zone = ((serviceUrls r).contains zone || (serviceUrls s).contains zone) ∧
      urlsOf (serviceUrls (r ++ ";" ++ s)) zone = urlsOf (serviceUrls r) zone ++ urlsOf (serviceUrls s) zone) ∧
    ∀ raw zone urls, (serviceUrls raw).get? zone = some urls → Readable zone urls := by
  refine ⟨fun zone => ?_, fun raw zone urls => readable_of_get?⟩
  have hget : (serviceUrls (r ++ ";" ++ s)).get? zone =
      Option.merge (· ++ ·) ((serviceUrls r).get? zone) ((serviceUrls s).get? zone) := by
    rw [get?_serviceUrls, get?_serviceUrls, get?_serviceUrls, assignments_append, gathered?_append]
  unfold TextMap.contains urlsOf
  rw [hget]
  cases (serviceUrls r).get? zone <;> cases (serviceUrls s).get? zone <;> simp

/-- A zone without a name, a URL that is not of the zone "x://y", and a zone without URLs that another text has too. -/
theorem serviceUrls_append_of_odd :
    (serviceUrls ("=,a ,;x://y=1,z;b=c" ++ ";" ++ " b = ")).get? "" = some ["a"] ∧ Readable "" ["a"] ∧
    urlsOf (serviceUrls ("=,a ,;x://y=1,z;b=c" ++ ";" ++ " b = ")) defaultZone =
      urlsOf (serviceUrls "=,a ,;x://y=1,z;b=c") defaultZone ++ urlsOf (serviceUrls " b = ") defaultZone ∧
    urlsOf (serviceUrls "=,a ,;x://y=1,z;b=c") defaultZone = ["x://y=1", "z"] := by
  have hget : (serviceUrls ("=,a ,;x://y=1,z;b=c" ++ ";" ++ " b = ")).get? "" = some ["a"] := by decide +kernel
  obtain ⟨hboth, hread⟩ := serviceUrls_append "=,a ,;x://y=1,z;b=c" " b = "
  exact ⟨hget, hread _ _ _ hget, (hboth defaultZone).2, by decide +kernel⟩

end Daemon
end AddressBinder
