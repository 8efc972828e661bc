import AddressBinder.Json.Basic
/-!
# Reading typed values

A record is written as an object, or as the array of its fields in order.  In an object unknown members are ignored, a
repeated known one is refused and a missing one may have a default; in an array only the last fields may be left out,
and only if they have a default.  A variant is written as its name, or as an object whose one member is its name.
-/
namespace AddressBinder
namespace Json

/-! ## Scalars and lists -/

def text? : Json → Option String
  | .str text => text
  | _ => none

/-- The value of a boolean. -/
def bool? : Json → Option Bool
  | .bool b => some b
  | _ => none

/-- The value of an integer literal that is at most `limit`. -/
def natUpTo? (limit : Nat) : Json → Option Nat
  | .num literal =>
    match Text.digits? literal with
    | some n => if n ≤ limit then some n else none
    | none => none
  | _ => none

/-- The value of an optional thing: null is none. -/
def nullable? {α : Type} (read : Json → Option α) : Json → Option (Option α)
  | .null => some none
  | v => (read v).map some

/-- The values of an array, if each can be read. -/
def list? {α : Type} (read : Json → Option α) : Json → Option (List α)
  | .arr items => items.mapM read
  | _ => none

/-- The members of an object in order, if each key is a text and each value can be read. -/
def entries? {α : Type} (read : Json → Option α) : Json → Option (List (String × α))
  | .obj members => members.mapM (fun m => do return (← m.1, ← read m.2))
  | _ => none

/-- The name of a variant and the value written with it, if one is. -/
def variant? : Json → Option (String × Option Json)
  | .str (some name) => some (name, none)
  | .obj [(some name, v)] => some (name, some v)
  | _ => none

/-! ## Records -/

/-- The fields of a record as they are written; `byName` says whether as an object. -/
structure Record where
  byName : Bool
  fields : List (String × Json)

namespace Record

/-- The members with a name among `names`; none when one of them is repeated or a key is no text. -/
def known (names : List String) : List (Option String × Json) → Option (List (String × Json))
  | [] => some []
  | (none, _) :: _ => none
  | (some key, v) :: rest =>
    match known names rest with
    | none => none
    | some fields =>
      if key ∈ names then
        if fields.any (fun f => f.1 == key) then none else some ((key, v) :: fields)
      else some fields

/-- The fields of a record whose fields have the names given, in that order. -/
def ofJson? (names : List String) : Json → Option Record
  | .obj members => (known names members).map (fun fields => ⟨true, fields⟩)
  | .arr items => if items.length ≤ names.length then some ⟨false, names.zip items⟩ else none
  | _ => none

/-- The value of a field, if it is written. -/
def find? (r : Record) (name : String) : Option Json := (r.fields.find? (fun f => f.1 == name)).map Prod.snd

/-- A field that has to be written. -/
def required {α : Type} (r : Record) (name : String) (read : Json → Option α) : Option α :=
  match r.find? name with
  | some v => read v
  | none => none

/-- A field that has a default. -/
def withDefault {α : Type} (r : Record) (name : String) (read : Json → Option α) (default : α) : Option α :=
  match r.find? name with
  | some v => read v
  | none => some default

/-- A field that may be null, and that may be left out of an object. -/
def optional {α : Type} (r : Record) (name : String) (read : Json → Option α) : Option (Option α) :=
  match r.find? name with
  | some v => nullable? read v
  | none => if r.byName then some none else none

end Record
end Json
end AddressBinder
