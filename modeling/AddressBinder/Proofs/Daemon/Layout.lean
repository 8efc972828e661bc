import Mathlib.Data.List.Forall2
import AddressBinder.Proofs.Daemon.ServiceUrls
/-!
# Service URLs written by hand

A map of service URLs can be written in many ways: its zones in any order, the URLs of a zone in one entry or in several,
the name of the default zone left out before a URL that shows its scheme, blanks and empty items anywhere.  All of them
are read as the map (`serviceUrls_of_writes`), and the source that is made of it splits none of its URLs again.
-/
namespace AddressBinder
namespace Daemon

open Text Discovery

/-- A name of a zone that can stand before an equals sign. -/
structure IsZoneName (zone : String) : Prop where
  trimmed : IsTrimmed isBlank zone.toList
  equals_notMem : '=' ∉ zone.toList
  unmarked : ¬ "://".toList <:+: zone.toList

theorem isZoneName_of_isWord {zone : String} (h : IsWord zone.toList) (hequals : '=' ∉ zone.toList)
    (hcolon : ':' ∉ zone.toList) : IsZoneName zone :=
  ⟨isTrimmed_of_forall h.2, hequals, fun hmark => hcolon (hmark.subset (by decide))⟩

/-- A URL that shows its scheme: the mark of a scheme stands in it before any equals sign. -/
def ShowsScheme (url : List Char) : Prop := ∃ scheme rest, url = scheme ++ "://".toList ++ rest ∧ '=' ∉ scheme

/-- An entry spells what it assigns: the zone, blanks if any, an equals sign and a list of URLs; or such a list alone, for
the default zone, when its first URL shows its scheme. -/
inductive Spells : List Char → String × List String → Prop where
  | named {zone : String} {gap list : List Char} {urls : List String} (hzone : IsZoneName zone)
      (hgap : ∀ c ∈ gap, isBlank c = true) (hlist : HasItems ',' list (urls.map String.toList)) :
      Spells (zone.toList ++ gap ++ '=' :: list) (zone, urls)
  | bare {list : List Char} {url : String} {urls : List String} (hurl : ShowsScheme url.toList)
      (hlist : HasItems ',' list ((url :: urls).map String.toList)) : Spells list (defaultZone, url :: urls)

/-- A text writes what its entries assign, in their order. -/
def Writes (raw : List Char) (assigned : List (String × List String)) : Prop :=
  ∃ entries, HasItems ';' raw entries ∧ List.Forall₂ Spells entries assigned

variable {zone : String} {urls : List String} {entry : List Char} {assigned : List (String × List String)} {raw : String}
  {m : TextMap (List String)}

/-! ## What is written is what is assigned -/

theorem zoneAndList_named {gap list : List Char} (hzone : IsZoneName zone) (hgap : ∀ c ∈ gap, isBlank c = true) :
    zoneAndList (zone.toList ++ gap ++ '=' :: list) = (zone, list) := by
  have hequals : '=' ∉ zone.toList ++ gap := by
    simp only [List.mem_append, not_or]
    exact ⟨hzone.equals_notMem, notMem_of_forall_isBlank (by decide) hgap⟩
  have hscheme : ¬ hasScheme (zone.toList ++ gap) = true := by
    rw [hasScheme_iff]
    have hmark : ∀ c ∈ "://".toList, isBlank c = false := forall_mem_of_all (by decide)
    refine fun h => hzone.unmarked (infix_of_infix_append (by decide) h fun c hc hmem => ?_)
    have hno := hmark c hmem
    rw [hgap c hc] at hno
    cases hno
  have hname : String.ofList (trim (zone.toList ++ gap)) = zone := by
    have htrim : trim ([] ++ zone.toList ++ gap) = zone.toList :=
      hzone.trimmed.dropEnds_between (fun _ hc => absurd hc List.not_mem_nil) hgap
    rw [List.nil_append] at htrim
    rw [htrim, String.ofList_toList]
  unfold zoneAndList
  rw [cut_append hequals]
  dsimp only
  rw [if_neg hscheme, hname]

/-- The first equals sign of a list that begins with a URL stands behind the mark of the URL's scheme. -/
theorem zoneAndList_bare {url : List Char} {more : List (List Char)} (hurl : ShowsScheme url)
    (hlist : HasItems ',' entry (url :: more)) : zoneAndList entry = (defaultZone, entry) := by
  rcases zoneAndList_cases entry with hbare | ⟨name, list, hname, hunmarked, -⟩
  · exact hbare
  obtain ⟨lead, rest, hentry, hlead⟩ := hlist.exists_first
  obtain ⟨scheme, tail, rfl, hscheme⟩ := hurl
  have hbefore : '=' ∉ lead ++ scheme ++ "://".toList := by
    simp only [List.mem_append, not_or]
    refine ⟨⟨fun hmem => ?_, hscheme⟩, by decide⟩
    rcases hlead '=' hmem with hblank | hcomma
    · exact absurd hblank (by decide)
    · exact absurd hcomma (by decide)
  have hmarked : lead ++ scheme ++ "://".toList <+: entry := ⟨tail ++ rest, by rw [hentry]; simp⟩
  have hequals : name ++ ['='] <+: entry := ⟨list, by rw [hname]; simp⟩
  rcases List.prefix_or_prefix_of_prefix hmarked hequals with hfirst | hlast
  · have hmark : "://".toList <:+: name ++ ['='] := (List.suffix_append _ _).isInfix.trans hfirst.isInfix
    refine absurd (infix_of_infix_append (by decide) hmark fun c hc => ?_) hunmarked
    rw [List.mem_singleton.1 hc]
    decide
  · exact absurd (hlast.subset (List.mem_append_right name (List.mem_singleton_self '='))) hbefore

theorem assignment_of_spells {a : String × List String} (h : Spells entry a) : assignment entry = a := by
  have hread : ∀ {list : List Char} {urls : List String}, HasItems ',' list (urls.map String.toList) →
      (items ',' list).map String.ofList = urls := by
    intro list urls hlist
    rw [(items_eq_iff (by decide)).2 hlist, List.map_map]
    simp
  unfold assignment
  cases h with
  | named hzone hgap hlist => rw [zoneAndList_named hzone hgap, hread hlist]
  | bare hurl hlist => rw [zoneAndList_bare hurl hlist, hread hlist]

theorem assignments_of_writes (h : Writes raw.toList assigned) : assignments raw = assigned := by
  obtain ⟨entries, hentries, hspells⟩ := h
  unfold assignments
  rw [(items_eq_iff (by decide)).2 hentries]
  clear hentries
  induction hspells with
  | nil => rfl
  | cons hentry _ ih => rw [List.map_cons, assignment_of_spells hentry, ih]

theorem serviceUrls_eq_of_writes (hraw : Writes raw.toList assigned) (hm : ∀ zone, m.get? zone = gathered? zone assigned) :
    serviceUrls raw = m := by
  refine TextMap.ext_get? fun zone => ?_
  rw [get?_serviceUrls, assignments_of_writes hraw, hm zone]

/-- **However a map of URLs is written, it is read as that map**, and a source that is made of it has the URLs of each zone
as they stand in the map, or those of the default zone when the zone has none. -/
theorem serviceUrls_of_writes (hraw : Writes raw.toList assigned) (hm : ∀ zone, m.get? zone = gathered? zone assigned) :
    serviceUrls raw = m ∧ ∀ zone, (Source.static (serviceUrls raw)).urls zone =
      .done (.ok (if (urlsOf m zone).isEmpty then urlsOf m defaultZone else urlsOf m zone)) := by
  have hread : serviceUrls raw = m := serviceUrls_eq_of_writes hraw hm
  have hitems : ∀ zone urls, (serviceUrls raw).get? zone = some urls → ∀ url ∈ urls, IsItem ',' url.toList :=
    fun _ _ hurls => (readable_of_get? hurls).isItem
  refine ⟨hread, fun zone => ?_⟩
  rw [Source.urls, staticUrls_eq_urlsOf hitems, hread]

/-- Two entries for one zone, one without the zone's name whose URLs hold equals signs, and one without URLs. -/
def laidOut : String := " a = http://x , ,http://y?k=1 ;; ,http://d/?q=1,k=2 ; a=http://z ;b="

theorem serviceUrls_of_writes_laidOut :
    serviceUrls laidOut = ((TextMap.empty.insert "a" ["http://x", "http://y?k=1", "http://z"]).insert defaultZone
      ["http://d/?q=1", "k=2"]).insert "b" [] ∧
    (Source.static (serviceUrls laidOut)).urls "b" = .done (.ok ["http://d/?q=1", "k=2"]) := by
  have ha : IsZoneName "a" := isZoneName_of_isWord (by decide) (by decide) (by decide)
  have hb : IsZoneName "b" := isZoneName_of_isWord (by decide) (by decide) (by decide)
  have hentries : HasItems ';' laidOut.toList ["a".toList ++ [' '] ++ '=' :: " http://x , ,http://y?k=1".toList,
      ",http://d/?q=1,k=2".toList, "a".toList ++ [] ++ '=' :: "http://z".toList, "b".toList ++ [] ++ ['=']] :=
    (items_eq_iff (by decide)).1 (by decide +kernel)
  have hraw : Writes laidOut.toList [("a", ["http://x", "http://y?k=1"]), (defaultZone, ["http://d/?q=1", "k=2"]),
      ("a", ["http://z"]), ("b", [])] := by
    refine ⟨_, hentries, .cons (.named ha ?_ ?_) (.cons (.bare ⟨"http".toList, "d/?q=1".toList, ?_, by decide⟩ ?_)
      (.cons (.named ha ?_ ?_) (.cons (.named hb ?_ ?_) .nil)))⟩
    all_goals first
      | exact forall_mem_of_all (by decide)
      | exact (items_eq_iff (by decide)).1 (by decide +kernel)
      | decide +kernel
  have hmap : gather [("a", ["http://x", "http://y?k=1"]), (defaultZone, ["http://d/?q=1", "k=2"]), ("a", ["http://z"]),
      ("b", [])] = ((TextMap.empty.insert "a" ["http://x", "http://y?k=1", "http://z"]).insert defaultZone
        ["http://d/?q=1", "k=2"]).insert "b" [] := by decide +kernel
  obtain ⟨hread, hurls⟩ := serviceUrls_of_writes hraw fun zone => get?_gather zone _
  exact ⟨hread.trans hmap, hurls "b"⟩

/-! ## The plain way to write a map -/

/-- An entry for each zone, without blanks. -/
def plain (assigned : List (String × List String)) : List Char :=
  join [';'] (assigned.map fun a => a.1.toList ++ '=' :: join [','] (a.2.map String.toList))

theorem isItem_entry (hzone : IsZoneName zone) (h : Readable zone urls) :
    IsItem ';' (zone.toList ++ '=' :: join [','] (urls.map String.toList)) where
  ne_nil := by simp
  trimmed := by
    have hlist : IsTrimmed isBlank (join [','] (urls.map String.toList)) :=
      isTrimmed_join (List.forall_mem_map.2 h.isItem)
    have hsign : IsTrimmed isBlank (['='] ++ join [','] (urls.map String.toList)) :=
      IsTrimmed.append (isTrimmed_of_forall (forall_mem_of_all (by decide))) (List.cons_ne_nil _ _) hlist.2
    by_cases hne : zone.toList = []
    · rw [hne]
      exact hsign
    · exact hzone.trimmed.append hne hsign.2
  sep_notMem := by
    intro hmem
    rcases List.mem_append.1 hmem with hmem | hmem
    · exact h.zone_whole hmem
    · rcases List.mem_cons.1 hmem with hsign | hmem
      · exact absurd hsign (by decide)
      · rcases mem_join hmem with hcomma | ⟨piece, hpiece, hmem⟩
        · exact absurd (List.mem_singleton.1 hcomma) (by decide)
        · obtain ⟨url, hurl, rfl⟩ := List.mem_map.1 hpiece
          exact h.urls_whole url hurl hmem

theorem writes_plain (h : ∀ a ∈ assigned, IsZoneName a.1 ∧ Readable a.1 a.2) : Writes (plain assigned) assigned := by
  refine ⟨_, hasItems_join (List.forall_mem_map.2 fun a ha => isItem_entry (h a ha).1 (h a ha).2), ?_⟩
  rw [List.forall₂_map_left_iff, List.forall₂_same]
  intro a ha
  have hspells : Spells (a.1.toList ++ [] ++ '=' :: join [','] (a.2.map String.toList)) (a.1, a.2) :=
    .named (h a ha).1 (fun _ hc => absurd hc List.not_mem_nil) (hasItems_join (List.forall_mem_map.2 (h a ha).2.isItem))
  rwa [List.append_nil] at hspells

theorem gathered?_of_sorted : ∀ {l : List (String × List String)}, l.Pairwise (fun a b => a.1 < b.1) →
    gathered? zone l = (l.find? (fun a => a.1 == zone)).map Prod.snd
  | [], _ => rfl
  | a :: l, h => by
    obtain ⟨hlt, hrest⟩ := List.pairwise_cons.1 h
    have hcons : gathered? zone (a :: l) = gathered? zone ([a] ++ l) := rfl
    rw [hcons, gathered?_append, gathered?_singleton, gathered?_of_sorted hrest]
    by_cases ha : a.1 = zone
    · have hnone : l.find? (fun b => b.1 == zone) = none := by
        rw [List.find?_eq_none]
        intro b hb hzone
        have hb : a.1 < b.1 := hlt b hb
        rw [ha, eq_of_beq hzone] at hb
        exact String.lt_irrefl zone hb
      simp [ha, hnone]
    · simp [ha]

/-- **What is written plainly is read back**, for every map whose zones can stand before an equals sign and whose URLs can
be read at all. -/
theorem serviceUrls_plain (h : ∀ zone urls, m.get? zone = some urls → IsZoneName zone ∧ Readable zone urls) :
    serviceUrls (String.ofList (plain m.entries)) = m := by
  have hwrites : Writes (String.ofList (plain m.entries)).toList m.entries := by
    rw [String.toList_ofList]
    exact writes_plain (TextMap.forall_get?.1 h)
  exact serviceUrls_eq_of_writes hwrites fun zone => (gathered?_of_sorted m.sorted).symm

end Daemon
end AddressBinder
