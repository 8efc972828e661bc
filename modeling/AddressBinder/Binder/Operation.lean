import AddressBinder.Binder.State
/-!
# The public operations

The operations that an application asks a binder for, each a program with a result.
-/
namespace AddressBinder

inductive Operation where
  | start
  | shutdown
  | runPass
  | alreadyBound
  | bind
  | unbind
deriving DecidableEq, Inhabited

namespace Operation

inductive Result where
  /-- The operation has no result but its end. -/
  | ended
  | delay (ms : Nat)
  | held (r : Except Error Bool)
  | bound (r : Except Error Pass.Bound)
  | unbound (r : Except Error Pass.Unbound)

def program (b : Binder) : Operation → Program lifecycle Result
  | .start => (Lifecycle.start b).bind fun _ => .done .ended
  | .shutdown => (Lifecycle.shutdown b).bind fun _ => .done .ended
  | .runPass => (Lifecycle.ofPass (Pass.periodic b)).bind fun ms => .done (.delay ms)
  | .alreadyBound => (Lifecycle.ofPass (Pass.alreadyBound b)).bind fun r => .done (.held r)
  | .bind => (Lifecycle.ofPass (Pass.bind b)).bind fun r => .done (.bound r)
  | .unbind => (Lifecycle.ofPass (Pass.unbind b)).bind fun r => .done (.unbound r)

end Operation

def Binder.new (config : Config) (backend : String) : Except Config.Fault Binder :=
  match config.validate with
  | .error f => .error f
  | .ok () => .ok ⟨config, backend⟩

end AddressBinder
