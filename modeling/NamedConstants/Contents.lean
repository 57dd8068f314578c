import NamedConstants.Registry.Shipped

/-!
# Contents of the library

The names under which the library offers its parts.
-/

namespace NamedConstants.Contents

/-- What the library offers at its top. -/
def publicNames : List String :=
  ["REGISTRY", "ConstantRegistry", "ErrorCode", "FileExtension", "TestConstants", "__version__",
    "get"]

/-- What the core of the library offers. -/
def coreNames : List String :=
  ["ALL_GROUPS", "REGISTRY", "ConstantEntry", "ConstantGroup", "ConstantRegistry", "ErrorCode",
    "FileExtension", "StringConstants", "TestConstants", "get"]

/-- The names of the shipped groups. -/
def groupNames : List String :=
  GroupClass.shippedGroups.map (·.name)

end NamedConstants.Contents
