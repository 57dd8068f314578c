import NamedConstants.Markup.Render

/-!
# The host

What the program can find out about the machine it runs on.
-/

namespace NamedConstants

/-- The facts about the host that answers depend on. -/
structure Host where
  /-- Whether the renderer of styled output is installed. -/
  renderer : Bool
  /-- The version that the renderer gives of itself, if it gives one. -/
  rendererVersion : Option String
  /-- The version text of the interpreter. -/
  interpreter : String
  /-- The version numbers of the interpreter, the most significant first. -/
  release : List Int
  /-- What the renderer makes of markup beyond its tags. -/
  dialect : Markup.Dialect

/-- Some of the pictographs that the renderer brings along. -/
def Host.somePictographs : Markup.Pictographs :=
  .ofList [("smile", "😄"), ("heart", "❤"), ("warning", "⚠"), ("man_technologist", "👨\u200d💻")]

/-- A host with everything installed, whose renderer reads the parameters of all handlers. -/
def Host.standard : Host where
  renderer := true
  rendererVersion := some "15.0.0"
  interpreter := "3.11.2"
  release := [3, 11, 2]
  dialect := ⟨somePictographs, fun _ => none⟩

end NamedConstants
