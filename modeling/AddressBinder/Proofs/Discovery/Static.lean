import AddressBinder.Proofs.Discovery.Listing
import AddressBinder.Proofs.TextMap
/-!
# What is listed for a zone

Of the entries that a map has for a zone only their text counts, that is, the entries with commas between them: the zone
has the URLs that the text lists, or those of the default zone's text when it lists none (`urls_by_text`).  The settings
are checked for entries and not for URLs, so settings pass whose entries list nothing (`check_agrees_iff`).
-/
namespace AddressBinder
namespace Discovery

open Text Config

variable {entries entries' urls : List String} {m m' : TextMap (List String)} {s : DiscoverySettings} {zone : String}

/-! ## The text of entries -/

/-- Entries as one text, with commas between them. -/
def joined (entries : List String) : List Char := join [','] (entries.map String.toList)

theorem normalise_eq_items : ∀ entries : List String,
    DiscoverySettings.normalise entries = (items ',' (joined entries)).map String.ofList
  | [] => rfl
  | [entry] => List.append_nil _
  | entry :: next :: entries => by
    have ih := normalise_eq_items (next :: entries)
    have hcons : DiscoverySettings.normalise (entry :: next :: entries) =
        (items ',' entry.toList).map String.ofList ++ DiscoverySettings.normalise (next :: entries) := rfl
    have htext : joined (entry :: next :: entries) = entry.toList ++ ',' :: joined (next :: entries) := by
      unfold joined
      rw [List.map_cons, join_cons _ (by simp), List.append_assoc, List.singleton_append]
    rw [hcons, htext, items_append, List.map_append, ih]

/-- **The URLs of entries are those that their text lists.** -/
theorem normalise_eq_iff : DiscoverySettings.normalise entries = urls ↔ HasItems ',' (joined entries) (urls.map String.toList) := by
  rw [normalise_eq_items, ← items_eq_iff (by decide)]
  constructor
  · rintro rfl
    simp [Function.comp_def]
  · intro h
    simp [h, Function.comp_def]

theorem isItem_of_mem_normalise {url : String} (h : url ∈ DiscoverySettings.normalise entries) : IsItem ',' url.toList := by
  rw [normalise_eq_items] at h
  obtain ⟨it, hit, rfl⟩ := List.mem_map.1 h
  rw [String.toList_ofList]
  exact isItem_of_mem_items hit

theorem isItem_of_hasItems (h : HasItems ',' (joined entries) (urls.map String.toList)) :
    ∀ url ∈ urls, IsItem ',' url.toList := by
  obtain rfl := normalise_eq_iff.2 h
  exact fun _ => isItem_of_mem_normalise

theorem normalise_normalise : DiscoverySettings.normalise (DiscoverySettings.normalise entries) =
    DiscoverySettings.normalise entries := normalise_eq_self fun _ => isItem_of_mem_normalise

/-! ## The URLs of a zone -/

theorem urls_static (m : TextMap (List String)) (zone : String) :
    (Source.static m).urls zone = .done (.ok (staticUrls m zone)) := rfl

theorem staticUrls_congr (h : ∀ zone, DiscoverySettings.normalise (urlsOf m zone) = DiscoverySettings.normalise (urlsOf m' zone))
    (zone : String) : staticUrls m zone = staticUrls m' zone := by
  unfold staticUrls
  simp only [listed_eq_normalise, h]

theorem urlsOf_insert (m : TextMap (List String)) (zone : String) (entries : List String) (asked : String) :
    urlsOf (m.insert zone entries) asked = if asked = zone then entries else urlsOf m asked := by
  unfold urlsOf
  rw [TextMap.get?_insert]
  by_cases h : asked = zone
  · rw [if_pos h, if_pos h, Option.getD_some]
  · rw [if_neg h, if_neg h]

/-- Entries that list the same URLs are as good as each other, for every zone. -/
theorem staticUrls_insert_congr (m : TextMap (List String)) (zone : String)
    (h : DiscoverySettings.normalise entries = DiscoverySettings.normalise entries') (asked : String) :
    staticUrls (m.insert zone entries) asked = staticUrls (m.insert zone entries') asked := by
  refine staticUrls_congr (fun other => ?_) asked
  rw [urlsOf_insert, urlsOf_insert]
  by_cases hother : other = zone
  · rw [if_pos hother, if_pos hother, h]
  · rw [if_neg hother, if_neg hother]

/-- What a map supplies to a zone: the URLs in the text of its entries, or those in the text of the default zone's entries
when its own text lists none. -/
inductive Supplies (m : TextMap (List String)) (zone : String) : List String → Prop where
  | own {urls : List String} (hne : urls ≠ []) (h : HasItems ',' (joined (urlsOf m zone)) (urls.map String.toList)) :
      Supplies m zone urls
  | fallback {urls : List String} (hnone : HasItems ',' (joined (urlsOf m zone)) [])
      (h : HasItems ',' (joined (urlsOf m defaultZone)) (urls.map String.toList)) : Supplies m zone urls

theorem supplies_staticUrls (m : TextMap (List String)) (zone : String) : Supplies m zone (staticUrls m zone) := by
  unfold staticUrls
  rw [listed_eq_normalise, listed_eq_normalise]
  by_cases hown : DiscoverySettings.normalise (urlsOf m zone) = []
  · rw [hown]
    exact .fallback (normalise_eq_iff.1 hown) (normalise_eq_iff.1 rfl)
  · rw [if_neg (by simpa using hown)]
    exact .own hown (normalise_eq_iff.1 rfl)

theorem Supplies.isItem (h : Supplies m zone urls) : ∀ url ∈ urls, IsItem ',' url.toList := by
  cases h with
  | own _ hown => exact isItem_of_hasItems hown
  | fallback _ hdefault => exact isItem_of_hasItems hdefault

/-- **The URLs of every zone depend on entries only through their text.**  Entries with the same text are as good as each
other, and so are the URLs that they list; what a zone gets is listed in its own text or in the default zone's, each URL in
its place, trimmed and without a comma. -/
theorem urls_by_text (s : DiscoverySettings) (zone : String) (entries : List String) :
    (∀ entries', joined entries' = joined entries → ∀ asked,
      (Source.static (s.serviceUrls.insert zone entries')).urls asked =
        (Source.static (s.serviceUrls.insert zone entries)).urls asked) ∧
    (∀ asked, (Source.static (s.withServiceUrls zone entries).serviceUrls).urls asked =
      (Source.static (s.serviceUrls.insert zone entries)).urls asked) ∧
    ∀ asked, ∃ urls, (Source.static s.serviceUrls).urls asked = .done (.ok urls) ∧ Supplies s.serviceUrls asked urls ∧
      ∀ url ∈ urls, IsItem ',' url.toList := by
  have hsame : ∀ entries', DiscoverySettings.normalise entries' = DiscoverySettings.normalise entries → ∀ asked,
      (Source.static (s.serviceUrls.insert zone entries')).urls asked =
        (Source.static (s.serviceUrls.insert zone entries)).urls asked := by
    intro entries' h asked
    rw [urls_static, urls_static, staticUrls_insert_congr s.serviceUrls zone h]
  refine ⟨fun entries' htext => hsame entries' ?_, hsame _ normalise_normalise, fun asked => ?_⟩
  · rw [normalise_eq_items, normalise_eq_items, htext]
  · exact ⟨_, rfl, supplies_staticUrls s.serviceUrls asked, (supplies_staticUrls s.serviceUrls asked).isItem⟩

/-- The same text cut at two other commas, for the default zone, on which a zone with a blank list falls back. -/
theorem urls_by_text_of_blank_list :
    joined ["x , y", "", "z"] = joined ["x ", " y,,z"] ∧
    (Source.static ((TextMap.empty.insert "a" [" ,"]).insert defaultZone ["x , y", "", "z"])).urls "a" =
      (Source.static ((TextMap.empty.insert "a" [" ,"]).insert defaultZone ["x ", " y,,z"])).urls "a" ∧
    staticUrls ((TextMap.empty.insert "a" [" ,"]).insert defaultZone ["x ", " y,,z"]) "a" = ["x", "y", "z"] := by
  have htext : joined ["x , y", "", "z"] = joined ["x ", " y,,z"] := by decide
  obtain ⟨hsame, -, -⟩ := urls_by_text ⟨false, TextMap.empty.insert "a" [" ,"], none⟩ defaultZone ["x ", " y,,z"]
  exact ⟨htext, hsame _ htext "a", by decide⟩

/-! ## What the check of the settings counts -/

/-- Something in an entry is neither blank nor a comma. -/
def HoldsUrl (entry : String) : Prop := ∃ c ∈ entry.toList, isBlank c = false ∧ c ≠ ','

theorem normalise_ne_nil_iff : DiscoverySettings.normalise entries ≠ [] ↔ ∃ entry ∈ entries, HoldsUrl entry := by
  have hentry : ∀ entry : String, (items ',' entry.toList).map String.ofList ≠ [] ↔ HoldsUrl entry := by
    intro entry
    unfold HoldsUrl
    rw [ne_eq, List.map_eq_nil_iff, items_eq_nil_iff (by decide)]
    simp
  unfold DiscoverySettings.normalise
  simp [List.flatMap_eq_nil_iff, ← hentry]

theorem exists_staticUrls_iff : (∃ zone, staticUrls m zone ≠ []) ↔ ∃ zone, ∃ entry ∈ urlsOf m zone, HoldsUrl entry := by
  simp only [← normalise_ne_nil_iff, ← listed_eq_normalise]
  constructor
  · rintro ⟨zone, hne⟩
    unfold staticUrls at hne
    by_cases hown : (listed m zone).isEmpty = true
    · rw [if_pos hown] at hne
      exact ⟨defaultZone, hne⟩
    · rw [if_neg hown] at hne
      exact ⟨zone, hne⟩
  · rintro ⟨zone, hne⟩
    refine ⟨zone, ?_⟩
    unfold staticUrls
    rwa [if_neg (by simpa using hne)]

theorem validateDiscovery_eq_ok_iff (hstatic : s.useDns = false) :
    validateDiscovery s = .ok () ↔ ∃ zone, urlsOf s.serviceUrls zone ≠ [] := by
  have hall : s.serviceUrls.values.all List.isEmpty = true ↔ ∀ zone, urlsOf s.serviceUrls zone = [] := by
    rw [List.all_eq_true]
    unfold urlsOf
    constructor
    · intro h zone
      cases hget : s.serviceUrls.get? zone with
      | none => rfl
      | some entries => simpa using h entries (TextMap.mem_values.2 ⟨zone, hget⟩)
    · intro h entries hmem
      obtain ⟨zone, hget⟩ := TextMap.mem_values.1 hmem
      simpa [hget] using h zone
  unfold validateDiscovery
  rw [hstatic, if_neg Bool.false_ne_true]
  by_cases h : s.serviceUrls.values.all List.isEmpty = true
  · rw [if_pos h]
    simpa using hall.1 h
  · rw [if_neg h]
    simpa using mt hall.2 h

/-- **The check passes when some zone has an entry, and some zone has URLs when an entry holds one.**  So the two agree
unless there are entries and none of them holds a URL. -/
theorem check_agrees_iff (s : DiscoverySettings) (region : Option String) (hasResolver : Bool)
    (hstatic : s.useDns = false) :
    ∃ source, Source.ofSettings s region hasResolver = .ok source ∧
      (validateDiscovery s = .ok () ↔ ∃ zone, urlsOf s.serviceUrls zone ≠ []) ∧
      ((∃ zone urls, source.urls zone = .done (.ok urls) ∧ urls ≠ []) ↔
        ∃ zone, ∃ entry ∈ urlsOf s.serviceUrls zone, HoldsUrl entry) ∧
      ((validateDiscovery s = .ok () ↔ ∃ zone urls, source.urls zone = .done (.ok urls) ∧ urls ≠ []) ↔
        ((∃ zone, urlsOf s.serviceUrls zone ≠ []) → ∃ zone, ∃ entry ∈ urlsOf s.serviceUrls zone, HoldsUrl entry)) := by
  have hsource : Source.ofSettings s region hasResolver = .ok (.static s.serviceUrls) := by
    unfold Source.ofSettings
    rw [hstatic, if_neg Bool.false_ne_true]
  have hcheck := validateDiscovery_eq_ok_iff hstatic
  have hurls : (∃ zone urls, (Source.static s.serviceUrls).urls zone = .done (.ok urls) ∧ urls ≠ []) ↔
      ∃ zone, ∃ entry ∈ urlsOf s.serviceUrls zone, HoldsUrl entry := by
    rw [← exists_staticUrls_iff]
    simp [urls_static]
  refine ⟨_, hsource, hcheck, hurls, ?_⟩
  rw [hcheck, hurls]
  constructor
  · exact Iff.mp
  · intro h
    refine ⟨h, ?_⟩
    rintro ⟨zone, entry, hentry, -⟩
    exact ⟨zone, List.ne_nil_of_mem hentry⟩

/-- Two URLs in one entry of a zone. -/
def doubledSettings : DiscoverySettings := ⟨false, TextMap.empty.insert "us-east-1a" ["http://10.0.1.4/ ,10.0.1.5"], none⟩

theorem check_agrees_of_doubled : doubledSettings.useDns = false ∧ validateDiscovery doubledSettings = .ok () ∧
    ∃ zone urls, (Source.static doubledSettings.serviceUrls).urls zone = .done (.ok urls) ∧ urls ≠ [] := by
  obtain ⟨source, hsource, -, -, hagree⟩ := check_agrees_iff doubledSettings none false rfl
  obtain rfl : Source.static doubledSettings.serviceUrls = source := Except.ok.inj hsource
  have hholds : ∃ zone, ∃ entry ∈ urlsOf doubledSettings.serviceUrls zone, HoldsUrl entry :=
    ⟨"us-east-1a", "http://10.0.1.4/ ,10.0.1.5", by decide, 'h', by decide, by decide, by decide⟩
  have hcheck : validateDiscovery doubledSettings = .ok () := by decide
  exact ⟨rfl, hcheck, (hagree.2 fun _ => hholds).1 hcheck⟩

/-- A blank and a comma in the only entry. -/
def gappedSettings : DiscoverySettings := ⟨false, TextMap.empty.insert "us-east-1a" [" ,"], none⟩

/-- **The check passes settings that list no URL at all**: an entry is there, and nothing in it. -/
theorem check_passes_without_urls : validateDiscovery gappedSettings = .ok () ∧
    Source.ofSettings gappedSettings none false = .ok (.static gappedSettings.serviceUrls) ∧
    ¬ ∃ zone urls, (Source.static gappedSettings.serviceUrls).urls zone = .done (.ok urls) ∧ urls ≠ [] := by
  refine ⟨by decide, rfl, ?_⟩
  rintro ⟨zone, urls, hurls, hne⟩
  rw [urls_static] at hurls
  cases hurls
  obtain ⟨other, entry, hentry, c, hc, hblank, hcomma⟩ := exists_staticUrls_iff.1 ⟨zone, hne⟩
  have hone : urlsOf gappedSettings.serviceUrls other = if other = "us-east-1a" then [" ,"] else [] := urlsOf_insert _ _ _ other
  rw [hone] at hentry
  split at hentry
  · obtain rfl := List.mem_singleton.1 hentry
    have hgap : ∀ c ∈ " ,".toList, isBlank c = true ∨ c = ',' := forall_mem_of_all (by decide)
    rcases hgap c hc with h | h
    · rw [h] at hblank
      cases hblank
    · exact hcomma h
  · cases hentry

end Discovery
end AddressBinder
