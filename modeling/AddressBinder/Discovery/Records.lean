import AddressBinder.Discovery.Source
/-!
# Discovery over known records

A source whose lookups are answered from a table, with the names that were looked up.  A name that is not in the table
has no records.
-/
namespace AddressBinder
namespace Discovery

/-- The TXT records by name, or the failure of a lookup. -/
abbrev Records := List (String × Except Error (List String))

/-- The answer of a table to a lookup. -/
def Records.answer (records : Records) (name : String) : Except Error (List String) :=
  (List.lookup name records).getD (.ok [])

/-- Serves a lookup and keeps its name. -/
def Records.serve (records : Records) (name : String) (seen : List String) :
    Except Error (List String) × List String :=
  (records.answer name, seen ++ [name])

/-- Runs a program of lookups over a table; the second result is the names looked up, in order. -/
def Records.run {α : Type} (records : Records) (p : Program lookup α) : α × List String :=
  Program.run (σ := lookup) records.serve p []

end Discovery
end AddressBinder
