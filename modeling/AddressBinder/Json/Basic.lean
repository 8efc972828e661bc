import AddressBinder.Text.Numeral
/-!
# JSON values

A document as it is written: a number keeps its literal, so that an integer and the same value with a fraction part stay
apart, and an object keeps its members in order, repetitions included.  What a repetition means is for the record
that is read from it (`Json.Record`).
-/
namespace AddressBinder

/-- A JSON value.  A string is `none` when its escapes hold half of a surrogate pair, which no text can. -/
inductive Json where
  | null
  | bool (b : Bool)
  | num (literal : List Char)
  | str (text : Option String)
  | arr (items : List Json)
  | obj (members : List (Option String × Json))

namespace Json

instance : Inhabited Json := ⟨.null⟩

/-! ## Building values -/

def ofString (s : String) : Json := .str (some s)

def ofNat (n : Nat) : Json := .num (Text.numeral n)

/-- The value of a thing that may be absent. -/
def ofOption {α : Type} (f : α → Json) : Option α → Json
  | none => .null
  | some a => f a

/-- The array of the values of a list. -/
def ofList {α : Type} (f : α → Json) (xs : List α) : Json := .arr (xs.map f)

def object (members : List (String × Json)) : Json := .obj (members.map (fun m => (some m.1, m.2)))

end Json
end AddressBinder
