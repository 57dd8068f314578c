import NamedConstants.GroupClass.Basic

/-!
# Shipped group classes

The classes of constants that come with the library.
-/

namespace NamedConstants.GroupClass

/-- The version of the library. -/
def libraryVersion : String := "0.1.0"

/-- The base of the shipped classes, which has no members. -/
def stringConstants : GroupClass where
  name := "StringConstants"
  base := .literal
  doc := some "Base for constant groups; \x60\x60str()\x60\x60 and formatting yield the value."
  declared := []
  assigned := []
  distinct := by decide

/-- Identifiers for tests.  A mark says that the class itself is no test. -/
def testConstants : GroupClass where
  name := "TestConstants"
  base := .literal
  doc := some "Fixture identifiers shared by the quantum workspace client tests."
  declared :=
    [("SubscriptionId", .text "sub1"), ("ResourceGroupName", .text "rg1"),
      ("WorkspaceName", .text "ws1"), ("ProviderId", .text "provider1"),
      ("Endpoint", .text "https://test")]
  assigned := [("__test__", .bool false)]
  distinct := by decide

/-- Labels of error codes. -/
def errorCode : GroupClass where
  name := "ErrorCode"
  base := .literal
  doc := some "Error-code labels reported by the QIR controller."
  declared := [("InternalError", .text "InternalError")]
  assigned := []
  distinct := by decide

/-- Suffixes of files. -/
def fileExtension : GroupClass where
  name := "FileExtension"
  base := .literal
  doc := some "File suffixes of the artifacts produced by the QIR compiler."
  declared := [("CppExtension", .text ".cpp"), ("BytecodeExtension", .text ".bc")]
  assigned := []
  distinct := by decide

/-- The classes of the shipped registry. -/
def shippedGroups : List GroupClass :=
  [testConstants, errorCode, fileExtension]

/-- All shipped classes. -/
def shipped : List GroupClass :=
  stringConstants :: shippedGroups

end NamedConstants.GroupClass
