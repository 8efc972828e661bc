import AddressBinder.Net.Ipv4
import AddressBinder.Proofs.Text.Numeral
import AddressBinder.Proofs.Text.Split
/-!
# Addresses read back

The text of an address is read as the address (`ofString?_toString`), and no other text is (`parse?_eq_some`).
-/
namespace AddressBinder
namespace Ipv4

variable {cs : List Char} {o : UInt8} {ip : Ipv4}

/-- The numerals of the octets. -/
def numerals (ip : Ipv4) : List (List Char) := ip.octets.map fun o => Text.numeral o.toNat

theorem numerals_ne_nil (ip : Ipv4) : ip.numerals ≠ [] := List.cons_ne_nil _ _

theorem isDigit_of_mem_numerals {piece : List Char} {c : Char} (h : piece ∈ ip.numerals) (hc : c ∈ piece) :
    c.isDigit = true := by
  obtain ⟨o, -, rfl⟩ := List.mem_map.1 h
  exact Text.isDigit_of_mem_numeral hc

/-- A character that is no digit parts the numerals of an address. -/
theorem notMem_of_mem_numerals {sep : Char} (hsep : sep.isDigit = false) : ∀ piece ∈ ip.numerals, sep ∉ piece := by
  intro piece hpiece hmem
  rw [isDigit_of_mem_numerals hpiece hmem] at hsep
  cases hsep

theorem octet?_eq_some : octet? cs = some o ↔ cs = Text.numeral o.toNat := by
  constructor
  · intro h
    unfold octet? at h
    cases hn : Text.canonical? cs with
    | none =>
      rw [hn] at h
      cases h
    | some n =>
      rw [hn] at h
      dsimp only at h
      split at h
      · rename_i hlt
        obtain rfl := Option.some.inj h
        have hvalue : n.toUInt8.toNat = n := UInt8.toNat_ofNat_of_lt' hlt
        rw [hvalue]
        exact Text.canonical?_eq_some.1 hn
      · cases h
  · rintro rfl
    have hlt : o.toNat < 256 := o.toNat_lt
    simp only [octet?, Text.canonical?_numeral, if_pos hlt, Nat.toUInt8_eq, UInt8.ofNat_toNat]

theorem ofOctets?_eq_some {pieces : List (List Char)} : ofOctets? pieces = some ip ↔ pieces = ip.numerals := by
  constructor
  · intro h
    unfold ofOctets? at h
    split at h
    · rename_i a b c d
      simp only [bind, Option.bind_eq_some_iff, pure, Option.some.injEq] at h
      obtain ⟨a', ha, b', hb, c', hc, d', hd, rfl⟩ := h
      simp only [numerals, octets, List.map_cons, List.map_nil, octet?_eq_some.1 ha, octet?_eq_some.1 hb,
        octet?_eq_some.1 hc, octet?_eq_some.1 hd]
    · cases h
  · rintro rfl
    have hread : ∀ o : UInt8, octet? (Text.numeral o.toNat) = some o := fun o => octet?_eq_some.2 rfl
    simp [numerals, octets, ofOctets?, hread]

/-- **A text is read as an address exactly when it is the text of the address.** -/
theorem parse?_eq_some : parse? cs = some ip ↔ cs = ip.chars := by
  unfold parse?
  rw [ofOctets?_eq_some, Text.splitAt_eq_iff]
  constructor
  · exact fun h => h.2.2
  · exact fun h => ⟨ip.numerals_ne_nil, notMem_of_mem_numerals (by decide), h⟩

theorem dot_mem_chars (ip : Ipv4) : '.' ∈ ip.chars := by
  simp [chars, octets, Text.join]

theorem parse?_chars (ip : Ipv4) : parse? ip.chars = some ip := parse?_eq_some.2 rfl

/-- **The text of an address is read as the address.** -/
theorem ofString?_toString (ip : Ipv4) : ofString? (toString ip) = some ip := by
  rw [ofString?, show (toString ip).toList = ip.chars from String.toList_ofList, parse?_chars]

end Ipv4
end AddressBinder
