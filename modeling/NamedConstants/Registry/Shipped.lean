import NamedConstants.GroupClass.Shipped
import NamedConstants.Registry.Basic

/-!
# The shipped registry
-/

namespace NamedConstants.Registry

/-- The registry of the shipped groups. -/
def shipped : Registry where
  groups := GroupClass.shippedGroups.map Group.ofClass
  distinct := by decide

end NamedConstants.Registry
