import AddressBinder.Http.Exchange
import AddressBinder.Http.Status
import AddressBinder.Json.Reader
import AddressBinder.Json.Record
import AddressBinder.Error
/-!
# TXT lookups over HTTPS

A name service with a JSON interface: a query names the record, the answer holds a status and the records of the name.
The character-strings of a TXT record are unquoted and joined by a space, one text per record.
-/
namespace AddressBinder
namespace Http
namespace NameService

/-- The URL that asks an endpoint for the TXT records of a name, whose dots at the end do not count. -/
def queryUrl (endpoint name : String) : String :=
  endpoint ++ "?name=" ++ String.ofList (Text.dropTrailing (· == '.') name.toList) ++ "&type=TXT"

/-! ## Character-strings -/

/-- Where a reader of TXT data stands; the text is what the current string holds so far. -/
inductive Place where
  | between
  | bare (text : List Char)
  | quoted (text : List Char)
  /-- In a quoted string, after a backslash. -/
  | escaped (text : List Char)

/-- The character-strings of TXT data from a place on.  A string is quoted, with backslash escapes, or runs up to the
next blank; the end of the data ends any string. -/
def stringsFrom : Place → List Char → List (List Char)
  | .between, [] => []
  | .bare text, [] => [text]
  | .quoted text, [] => [text]
  | .escaped text, [] => [text]
  | .between, c :: cs =>
    if Text.isBlank c then stringsFrom .between cs
    else if c = '"' then stringsFrom (.quoted []) cs
    else stringsFrom (.bare [c]) cs
  | .bare text, c :: cs =>
    if Text.isBlank c then text :: stringsFrom .between cs else stringsFrom (.bare (text ++ [c])) cs
  | .quoted text, c :: cs =>
    if c = '\\' then stringsFrom (.escaped text) cs
    else if c = '"' then text :: stringsFrom .between cs
    else stringsFrom (.quoted (text ++ [c])) cs
  | .escaped text, c :: cs => stringsFrom (.quoted (text ++ [c])) cs

def characterStrings (data : List Char) : List (List Char) := stringsFrom .between data

/-! ## Answers -/

/-- The type number of TXT records. -/
def txtType : Nat := 16

/-- A record of an answer. -/
structure Entry where
  type : Nat
  data : String
deriving DecidableEq, Inhabited

/-- An answer of the name service. -/
structure Reply where
  status : Nat
  entries : List Entry
deriving DecidableEq, Inhabited

def Entry.ofJson? (v : Json) : Option Entry := do
  let r ← Json.Record.ofJson? ["type", "data"] v
  return ⟨← r.required "type" (Json.natUpTo? (0xffff)), ← r.required "data" Json.text?⟩

def Reply.ofJson? (v : Json) : Option Reply := do
  let r ← Json.Record.ofJson? ["Status", "Answer"] v
  return ⟨← r.required "Status" (Json.natUpTo? (0xffffffff)),
    ← r.withDefault "Answer" (Json.list? Entry.ofJson?) []⟩

def recordText (data : String) : String := String.ofList (Text.join [' '] (characterStrings data.toList))

/-- The TXT records in an answer to the lookup of a name. -/
def recordsOf (name : String) (r : Reply) : Except Error (List String) :=
  if r.status = 0 then .ok ((r.entries.filter (fun e => e.type == txtType)).map (fun e => recordText e.data))
  else if r.status = 3 then .error (.discovery ("No DNS record for " ++ name))
  else .error (.discovery ("DNS lookup for " ++ name ++ " failed with rcode " ++ String.ofList (Text.numeral r.status)))

/-- The TXT records in the body of an answer to the lookup of a name. -/
def records (name body : String) : Except Error (List String) :=
  match (Json.ofText? body).bind Reply.ofJson? with
  | none => .error (.json Json.unreadable)
  | some r => recordsOf name r

/-! ## Lookups -/

def recordsIn (name : String) : Except String Response → Except Error (List String)
  | .error reason => .error (.http ("TXT lookup for " ++ name ++ " failed: " ++ reason))
  | .ok r =>
    if isSuccess r.status then records name r.body
    else .error (.http ("TXT lookup for " ++ name ++ " returned " ++ showStatus r.status))

/-- Looks up the TXT records of a name at an endpoint. -/
def lookupTxt (endpoint name : String) : Program client (Except Error (List String)) :=
  (Program.request (σ := client) ⟨.get, queryUrl endpoint name, [(.accept, "application/dns-json")]⟩).bind fun r =>
    .done (recordsIn name r)

end NameService
end Http
end AddressBinder
