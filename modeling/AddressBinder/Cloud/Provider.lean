import AddressBinder.Cloud.Instance
import AddressBinder.Program
import AddressBinder.Error
/-!
# The provider's calls

The four calls of the cloud that a binder depends on, as requests with their replies.  Any provider answers them; the
binder takes nothing about one for granted.
-/
namespace AddressBinder

inductive ProviderCall where
  | describeInstance (instanceId : String)
  | describeInterfaces (filter : InterfaceFilter)
  /-- Attach an interface to an instance at a device slot. -/
  | attach (interfaceId instanceId : String) (deviceIndex : Nat)
  | detach (attachmentId : String)
deriving DecidableEq

namespace ProviderCall

abbrev Yield : ProviderCall → Type
  | .describeInstance _ => Option InstanceDescription
  | .describeInterfaces _ => List Interface
  | .attach .. => String
  | .detach _ => Unit

abbrev Reply (c : ProviderCall) : Type := Except Error c.Yield

end ProviderCall

/-- The requests of programs that talk to the provider only. -/
abbrev provider : Signature := ⟨ProviderCall, ProviderCall.Reply⟩

namespace Program

variable {σ : Signature} {α β : Type}

/-- One program and then, unless it fails, the one that its result selects. -/
def andThen (p : Program σ (Except Error α)) (f : α → Program σ (Except Error β)) : Program σ (Except Error β) :=
  p.bind fun
    | .error e => .done (.error e)
    | .ok a => f a

@[simp] theorem andThen_error (e : Error) (f : α → Program σ (Except Error β)) :
    (Program.done (.error e) : Program σ (Except Error α)).andThen f = .done (.error e) := rfl

@[simp] theorem andThen_ok (a : α) (f : α → Program σ (Except Error β)) :
    (Program.done (.ok a) : Program σ (Except Error α)).andThen f = f a := rfl

/-- A program with its failure rewritten. -/
def mapError (f : Error → Error) (p : Program σ (Except Error α)) : Program σ (Except Error α) :=
  p.bind fun
    | .error e => .done (.error (f e))
    | .ok a => .done (.ok a)

end Program
end AddressBinder
