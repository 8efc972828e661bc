import AddressBinder.Text.Split
import AddressBinder.Text.Numeral
/-!
# IPv4 addresses

An address is four octets, and its text is their canonical numerals with dots between them: no sign, no leading zero,
nothing else.  `Ipv4.parse?` reads that one form only.
-/
namespace AddressBinder

/-- An IPv4 address, first octet first. -/
structure Ipv4 where
  a : UInt8
  b : UInt8
  c : UInt8
  d : UInt8
deriving DecidableEq, Inhabited

namespace Ipv4

def octets (ip : Ipv4) : List UInt8 := [ip.a, ip.b, ip.c, ip.d]

/-- The dotted decimal form as characters. -/
def chars (ip : Ipv4) : List Char := Text.join ['.'] (ip.octets.map (fun o => Text.numeral o.toNat))

instance : ToString Ipv4 := ⟨fun ip => String.ofList ip.chars⟩

/-- An octet from its canonical numeral. -/
def octet? (cs : List Char) : Option UInt8 :=
  match Text.canonical? cs with
  | none => none
  | some n => if n < 256 then some n.toUInt8 else none

/-- The address whose octets are the four given texts. -/
def ofOctets? : List (List Char) → Option Ipv4
  | [a, b, c, d] => do return ⟨← octet? a, ← octet? b, ← octet? c, ← octet? d⟩
  | _ => none

/-- Reads an address in its canonical dotted decimal form. -/
def parse? (cs : List Char) : Option Ipv4 := ofOctets? (Text.splitAt '.' cs)

def ofString? (s : String) : Option Ipv4 := parse? s.toList

end Ipv4
end AddressBinder
