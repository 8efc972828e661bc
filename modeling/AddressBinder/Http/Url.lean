import AddressBinder.Text.Split
import AddressBinder.Text.Case
/-!
# From a URL to the request that is sent

A client sends a request to the site of a URL, its scheme and authority, with the rest of the URL as the target.  On
the way the URL is normalised: blanks around it and line breaks in it go, the fragment is not sent, dot segments of the
path are resolved, and characters that may not stand in a target are written as percent escapes of their bytes.
-/
namespace AddressBinder
namespace Http

/-! ## Percent escapes -/

/-- A base-sixteen digit in upper case. -/
def upperDigit (n : Nat) : Char := Char.ofNat (if n < 10 then 48 + n else 55 + n)

/-- The bytes of a character in UTF-8, as percent escapes. -/
def escape (c : Char) : List Char :=
  (String.ofList [c]).toUTF8.toList.flatMap fun b => ['%', upperDigit (b.toNat / 16), upperDigit (b.toNat % 16)]

/-- The visible ASCII characters that a query may not hold as they are. -/
def reservedInQuery : List Char := ['"', '#', '<', '>', '\'']

/-- The visible ASCII characters that a path may not hold as they are. -/
def reservedInPath : List Char := ['"', '#', '<', '>', '?', '^', '\x60', '\x7b', '\x7d']

def allowedInQuery (c : Char) : Bool := 0x20 < c.toNat && c.toNat < 0x7f && !reservedInQuery.contains c

def allowedInPath (c : Char) : Bool := 0x20 < c.toNat && c.toNat < 0x7f && !reservedInPath.contains c

/-- A text with every character outside a class escaped. -/
def escapeOutside (allowed : Char → Bool) (cs : List Char) : List Char :=
  cs.flatMap (fun c => if allowed c then [c] else escape c)

/-! ## The path -/

/-- Whether a segment of a path stands for the directory it is in. -/
def isHere (segment : List Char) : Bool :=
  [".".toList, "%2e".toList].contains (segment.map Text.asciiLower)

/-- Whether a segment of a path stands for the directory above. -/
def isAbove (segment : List Char) : Bool :=
  ["..".toList, ".%2e".toList, "%2e.".toList, "%2e%2e".toList].contains (segment.map Text.asciiLower)

/-- The segments with those that stand for a directory resolved; `above` holds the segments before, nearest first. -/
def resolve (above : List (List Char)) : List (List Char) → List (List Char)
  | [] => above.reverse
  | [segment] =>
    if isAbove segment then ([] :: above.tail).reverse
    else if isHere segment then ([] :: above).reverse
    else (segment :: above).reverse
  | segment :: segments =>
    if isAbove segment then resolve above.tail segments
    else if isHere segment then resolve above segments
    else resolve (segment :: above) segments

def sentPath (path : List Char) : List Char :=
  let path := path.map (fun c => if c = '\\' then '/' else c)
  let segments := resolve [] (Text.splitAt '/' (match path with | '/' :: rest => rest | path => path))
  '/' :: Text.join ['/'] (segments.map (escapeOutside allowedInPath))

/-! ## The whole URL -/

/-- Whether a character is dropped wherever it stands in a URL. -/
def isDropped (c : Char) : Bool := c = '\t' || c = '\n' || c = '\r'

/-- Whether a character ends the authority of a URL that is sent. -/
def endsAuthority (c : Char) : Bool := c = '/' || c = '\\' || c = '?' || c = '#'

/-- The URL without the control characters and spaces around it and without the line breaks and tabs in it. -/
def clean (url : List Char) : List Char :=
  (Text.dropEnds (fun c => c.toNat ≤ 0x20) url).filter (fun c => !isDropped c)

/-- Where a request goes and what it asks for there. -/
structure Target where
  site : List Char
  path : List Char
  /-- The query, if the URL has one. -/
  query : Option (List Char)
deriving DecidableEq

/-- The target of a URL, if it has a scheme and an authority. -/
def Target.ofUrl (url : List Char) : Option Target :=
  match Text.cut ':' (clean url) with
  | some (scheme, '/' :: '/' :: rest) =>
    let authority := rest.takeWhile (fun c => !endsAuthority c)
    let rest := (rest.drop authority.length).takeWhile (· != '#')
    if authority.isEmpty then none
    else
      match Text.cut '?' rest with
      | none => some ⟨scheme ++ "://".toList ++ authority, sentPath rest, none⟩
      | some (path, query) =>
        some ⟨scheme ++ "://".toList ++ authority, sentPath path, some (escapeOutside allowedInQuery query)⟩
  | _ => none

/-- The request line's part of a target. -/
def Target.line (t : Target) : List Char :=
  match t.query with
  | none => t.path
  | some query => t.path ++ '?' :: query

end Http
end AddressBinder
