import AddressBinder.Json.Basic
/-!
# Reading JSON

A strict reader: no comments, no trailing commas, no leading zeros, no raw control characters in strings, nothing after
the value but blanks.  Each scanner takes the characters that are left and returns what it read and what it leaves.
-/
namespace AddressBinder
namespace Json

/-- Whether the character is one of the four blanks between tokens. -/
def isSpace (c : Char) : Bool := c = ' ' || c = '\t' || c = '\n' || c = '\r'

/-- The characters after the blanks. -/
def skipSpace (cs : List Char) : List Char := cs.dropWhile isSpace

/-! ## Strings -/

/-- The code unit that four base-sixteen digits name. -/
def codeUnit? (a b c d : Char) : Option Nat := do
  return ((← Text.hexDigit? a) * 16 + (← Text.hexDigit? b)) * 256 + (← Text.hexDigit? c) * 16 + (← Text.hexDigit? d)

/-- The character that a one-letter escape stands for. -/
def simpleEscape? : Char → Option Char
  | '"' => some '"'
  | '\\' => some '\\'
  | '/' => some '/'
  | 'b' => some (Char.ofNat 8)
  | 'f' => some (Char.ofNat 12)
  | 'n' => some '\n'
  | 'r' => some '\r'
  | 't' => some '\t'
  | _ => none

/-- The code points and code units of a string up to its closing quote, and what follows the quote. -/
def stringUnits : List Char → Option (List Nat × List Char)
  | [] => none
  | '"' :: cs => some ([], cs)
  | '\\' :: 'u' :: a :: b :: c :: d :: cs => do
    let n ← codeUnit? a b c d
    let (ns, rest) ← stringUnits cs
    return (n :: ns, rest)
  | '\\' :: e :: cs => do
    let c ← simpleEscape? e
    let (ns, rest) ← stringUnits cs
    return (c.toNat :: ns, rest)
  | c :: cs =>
    if c.toNat < 0x20 || c = '\\' then none
    else do
      let (ns, rest) ← stringUnits cs
      return (c.toNat :: ns, rest)

def isHighHalf (n : Nat) : Bool := 0xd800 ≤ n && n < 0xdc00

def isLowHalf (n : Nat) : Bool := 0xdc00 ≤ n && n < 0xe000

/-- The characters of the code units, pairs joined; none when half of a pair stands alone. -/
def joinUnits : List Nat → Option (List Char)
  | [] => some []
  | m :: n :: ns =>
    if isHighHalf m then
      if isLowHalf n then (joinUnits ns).map (Char.ofNat (0x10000 + (m - 0xd800) * 0x400 + (n - 0xdc00)) :: ·) else none
    else if isLowHalf m then none
    else (joinUnits (n :: ns)).map (Char.ofNat m :: ·)
  | [m] => if isHighHalf m || isLowHalf m then none else some [Char.ofNat m]

/-- The content of a string after its opening quote, and what follows it. -/
def stringBody (cs : List Char) : Option (Option String × List Char) := do
  let (ns, rest) ← stringUnits cs
  return ((joinUnits ns).map String.ofList, rest)

/-! ## Numbers -/

def isDigit (c : Char) : Bool := (Text.digit? c).isSome

/-- A non-empty run of digits and what follows it. -/
def digitRun (cs : List Char) : Option (List Char × List Char) :=
  match cs.takeWhile isDigit with
  | [] => none
  | ds => some (ds, cs.dropWhile isDigit)

/-- The digits before the point: a zero alone, or digits that start with another one. -/
def wholePart : List Char → Option (List Char × List Char)
  | '0' :: cs => some (['0'], cs)
  | cs => digitRun cs

/-- The point and the digits after it, if there is a point. -/
def fractionPart : List Char → Option (List Char × List Char)
  | '.' :: cs => (digitRun cs).map (fun r => ('.' :: r.1, r.2))
  | cs => some ([], cs)

/-- The sign of an exponent, if there is one. -/
def exponentSign : List Char → List Char × List Char
  | '+' :: cs => (['+'], cs)
  | '-' :: cs => (['-'], cs)
  | cs => ([], cs)

/-- The exponent, if there is one. -/
def exponentPart : List Char → Option (List Char × List Char)
  | [] => some ([], [])
  | c :: cs =>
    if c = 'e' || c = 'E' then
      (digitRun (exponentSign cs).2).map (fun r => (c :: ((exponentSign cs).1 ++ r.1), r.2))
    else some ([], c :: cs)

/-- A number without its sign. -/
def unsigned (cs : List Char) : Option (List Char × List Char) := do
  let (whole, cs) ← wholePart cs
  let (fraction, cs) ← fractionPart cs
  let (exponent, cs) ← exponentPart cs
  return (whole ++ fraction ++ exponent, cs)

/-- A number literal and what follows it. -/
def number : List Char → Option (List Char × List Char)
  | '-' :: cs => (unsigned cs).map (fun r => ('-' :: r.1, r.2))
  | cs => unsigned cs

/-! ## Values -/

mutual
/-- A value and what follows it; the first argument bounds the nesting. -/
def value : Nat → List Char → Option (Json × List Char)
  | 0, _ => none
  | fuel + 1, cs =>
    match skipSpace cs with
    | 'n' :: 'u' :: 'l' :: 'l' :: rest => some (.null, rest)
    | 't' :: 'r' :: 'u' :: 'e' :: rest => some (.bool true, rest)
    | 'f' :: 'a' :: 'l' :: 's' :: 'e' :: rest => some (.bool false, rest)
    | '"' :: rest => (stringBody rest).map (fun r => (.str r.1, r.2))
    | '[' :: rest =>
      match skipSpace rest with
      | ']' :: rest => some (.arr [], rest)
      | rest => (items fuel rest).map (fun r => (.arr r.1, r.2))
    | '\x7b' :: rest =>
      match skipSpace rest with
      | '\x7d' :: rest => some (.obj [], rest)
      | rest => (members fuel rest).map (fun r => (.obj r.1, r.2))
    | rest => (number rest).map (fun r => (.num r.1, r.2))

/-- The items of an array from one item on, up to its closing bracket. -/
def items : Nat → List Char → Option (List Json × List Char)
  | 0, _ => none
  | fuel + 1, cs =>
    match value fuel cs with
    | none => none
    | some (v, rest) =>
      match skipSpace rest with
      | ']' :: rest => some ([v], rest)
      | ',' :: rest => (items fuel rest).map (fun r => (v :: r.1, r.2))
      | _ => none

/-- The members of an object from one member on, up to its closing brace. -/
def members : Nat → List Char → Option (List (Option String × Json) × List Char)
  | 0, _ => none
  | fuel + 1, cs =>
    match skipSpace cs with
    | '"' :: rest =>
      match stringBody rest with
      | none => none
      | some (key, rest) =>
        match skipSpace rest with
        | ':' :: rest =>
          match value fuel rest with
          | none => none
          | some (v, rest) =>
            match skipSpace rest with
            | '\x7d' :: rest => some ([(key, v)], rest)
            | ',' :: rest => (members fuel rest).map (fun r => ((key, v) :: r.1, r.2))
            | _ => none
        | _ => none
    | _ => none
end

/-- Reads a document: one value with nothing but blanks around it. -/
def parse? (cs : List Char) : Option Json :=
  match value (2 * cs.length + 2) cs with
  | none => none
  | some (v, rest) => if (skipSpace rest).isEmpty then some v else none

def ofText? (s : String) : Option Json := parse? s.toList

/-- What is said of a text that is no document of the expected form. -/
def unreadable : String := "not a document of the expected form"

end Json
end AddressBinder
