import AddressBinder.Cloud.Interface
/-!
# Instances

What the metadata source, the cloud and a pass know about the instance that the binder runs on.
-/
namespace AddressBinder

/-- What the local metadata source knows. -/
structure InstanceMetadata where
  instanceId : String
  availabilityZone : String
deriving DecidableEq, Inhabited

/-- The cloud's description of an instance, with the interfaces attached to it. -/
structure InstanceDescription where
  instanceId : String
  subnetId : String
  interfaces : List Interface
deriving DecidableEq, Inhabited

/-- The instance as one pass sees it. -/
structure InstanceIdentity where
  instanceId : String
  availabilityZone : String
  subnetId : String
  interfaces : List Interface
deriving DecidableEq, Inhabited

end AddressBinder
