/-!
# Numerals

Reading and writing natural numbers in base ten, and the fixed-width base-sixteen form of serial numbers.
-/
namespace AddressBinder
namespace Text

/-- The value of an ASCII decimal digit. -/
def digit? (c : Char) : Option Nat :=
  if '0' ≤ c ∧ c ≤ '9' then some (c.toNat - '0'.toNat) else none

/-- The value of an ASCII base-sixteen digit of either case. -/
def hexDigit? (c : Char) : Option Nat :=
  if '0' ≤ c ∧ c ≤ '9' then some (c.toNat - '0'.toNat)
  else if 'a' ≤ c ∧ c ≤ 'f' then some (c.toNat - 'a'.toNat + 10)
  else if 'A' ≤ c ∧ c ≤ 'F' then some (c.toNat - 'A'.toNat + 10)
  else none

/-- The value of a run of digits appended to the value `n`, if all characters are digits. -/
def digitsFrom (n : Nat) : List Char → Option Nat
  | [] => some n
  | c :: cs =>
    match digit? c with
    | none => none
    | some d => digitsFrom (10 * n + d) cs

/-- The value of a non-empty run of decimal digits. -/
def digits? (cs : List Char) : Option Nat :=
  if cs.isEmpty then none else digitsFrom 0 cs

/-- The canonical numeral of a number: no sign, no leading zero. -/
def numeral (n : Nat) : List Char := Nat.toDigits 10 n

/-- A canonical numeral's value: `0`, or digits that start with another one. -/
def canonical? (cs : List Char) : Option Nat :=
  match cs with
  | [] => none
  | ['0'] => some 0
  | c :: rest => if c = '0' then none else digitsFrom 0 (c :: rest)

/-- The base-sixteen numeral of a number, filled with zeros up to `width` digits. -/
def hexPadded (width n : Nat) : List Char :=
  let ds := Nat.toDigits 16 n
  List.replicate (width - ds.length) '0' ++ ds

end Text
end AddressBinder
