import AddressBinder.Text.Split
/-!
# The host of an entry

An entry of a zone's list is a URL or a bare host, as an operator writes it: blanks around it, a scheme, a user, a
port and a path are all allowed and all dropped.  The host of a bracketed literal comes without its brackets.
-/
namespace AddressBinder
namespace Host

/-- Whether a character ends the authority of a URL. -/
def endsAuthority (c : Char) : Bool := c = '/' || c = '?' || c = '#'

/-- The entry after its scheme, if it has one. -/
def afterScheme (entry : List Char) : List Char :=
  match Text.after [':', '/', '/'] entry with
  | some rest => rest
  | none => entry

/-- The authority part: what stands before the first slash, question mark or hash. -/
def authority (rest : List Char) : List Char := rest.takeWhile (fun c => !endsAuthority c)

/-- The host in a host with an optional port; a bracket that is never closed leaves none. -/
def ofHostPort : List Char → Option (List Char)
  | '[' :: inner => (Text.cut ']' inner).map Prod.fst
  | hostPort => some (hostPort.takeWhile (· != ':'))

/-- The host of an entry, if it has a non-empty one. -/
def ofEntry (entry : List Char) : Option (List Char) :=
  match ofHostPort (Text.afterLast '@' (authority (afterScheme (Text.trim entry)))) with
  | none => none
  | some host => if host.isEmpty then none else some host

end Host
end AddressBinder
