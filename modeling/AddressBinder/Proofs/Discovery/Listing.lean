import AddressBinder.Discovery.Source
import AddressBinder.Proofs.Text.Items
/-!
# URLs that are written down

A list in which every entry is one URL is listed as it is: splitting it at commas again changes nothing
(`normalise_eq_self`), so of such lists a zone has its own as it stands, or that of the default zone
(`staticUrls_eq_urlsOf`).
-/
namespace AddressBinder
namespace Discovery

open Text

variable {urls : List String} {m : TextMap (List String)} {zone : String}

/-- The URLs that a map has for a zone. -/
def urlsOf (m : TextMap (List String)) (zone : String) : List String := (m.get? zone).getD []

theorem normalise_eq_self (h : ∀ url ∈ urls, IsItem ',' url.toList) : DiscoverySettings.normalise urls = urls := by
  have hblank : ∀ c ∈ ([] : List Char), isBlank c = true := fun _ hc => absurd hc List.not_mem_nil
  unfold DiscoverySettings.normalise
  rw [List.flatMap_congr (g := fun url => [url]) fun url hurl => ?_]
  · exact List.flatMap_singleton' urls
  · have hitem : items ',' ([] ++ url.toList ++ []) = [url.toList] := items_of_isItem (by decide) (h url hurl) hblank hblank
    rw [List.nil_append, List.append_nil] at hitem
    rw [hitem, List.map_singleton, String.ofList_toList]

theorem listed_eq_normalise (m : TextMap (List String)) (zone : String) :
    listed m zone = DiscoverySettings.normalise (urlsOf m zone) := by
  unfold listed urlsOf
  cases m.get? zone <;> rfl

theorem listed_eq_urlsOf (h : ∀ urls, m.get? zone = some urls → ∀ url ∈ urls, IsItem ',' url.toList) :
    listed m zone = urlsOf m zone := by
  rw [listed_eq_normalise]
  refine normalise_eq_self ?_
  unfold urlsOf
  cases hurls : m.get? zone with
  | none => exact fun _ hurl => absurd hurl List.not_mem_nil
  | some urls => exact h urls hurls

/-- **A zone has its own URLs, or the default zone's when its own list is empty**, just as the map holds them. -/
theorem staticUrls_eq_urlsOf (h : ∀ zone urls, m.get? zone = some urls → ∀ url ∈ urls, IsItem ',' url.toList)
    (zone : String) : staticUrls m zone = if (urlsOf m zone).isEmpty then urlsOf m defaultZone else urlsOf m zone := by
  unfold staticUrls
  rw [listed_eq_urlsOf (h zone), listed_eq_urlsOf (h defaultZone)]

end Discovery
end AddressBinder
