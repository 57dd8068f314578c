import NamedConstants.Host
import NamedConstants.Markup.Escape
import NamedConstants.Markup.Render
import NamedConstants.Run
import NamedConstants.Text.Search
import NamedConstants.Text.Tabs

/-!
# The console

Messages for the user go to the standard error.  With the renderer they are markup: tags
are taken out, codes are replaced by pictographs, control characters that would move the cursor
are dropped and tabs are expanded.  Without it they are written as they are.
-/

namespace NamedConstants.Console

/-- Control characters that the renderer drops: bell, backspace, vertical tab, form feed
    and carriage return. -/
def isDropped (c : Char) : Bool :=
  c == '\x07' || c == '\x08' || c == '\x0b' || c == '\x0c' || c == '\r'

/-- A text as the renderer keeps it. -/
def sanitize (s : List Char) : List Char :=
  s.filter fun c => !isDropped c

/-- The lines of a rendered text with their tabs expanded. -/
def displayLines (s : List Char) : List (List Char) :=
  (Text.splitAtChar '\n' s).map Text.expandTabs

/-- A rendered text as it is written. -/
def displayText (s : List Char) : List Char :=
  Text.joinWith ['\n'] (displayLines s)

/-- The text that markup shows on the console. -/
def renderMarkup (d : Markup.Dialect) (s : String) : Except Failure (List Char) :=
  ((Markup.render d s.toList).mapError .markup).map sanitize

/-- Whether a value is shown on lines of its own. -/
def isBlock : Value → Bool
  | .list _ => true
  | .tuple _ => true
  | .dict _ => true
  | _ => false

/-- A value on the console: texts are markup, other values show their display form. -/
def renderValue (d : Markup.Dialect) (v : Value) : Except Failure (List Char) :=
  match v.asText? with
  | some s => renderMarkup d s
  | none => .ok (sanitize v.display.toList)

/-- The blocks in which values are written: lists, tuples and tables stand alone, the
    others in a row.  `row` holds the row so far, last text first. -/
def renderBlocks (d : Markup.Dialect) (row : List (List Char)) :
    List Value → Except Failure (List (List Char))
  | [] => .ok (if row.isEmpty then [] else [Text.joinWith [' '] row.reverse])
  | v :: rest => do
      let shown ← renderValue d v
      if isBlock v then
        let before := if row.isEmpty then [] else [Text.joinWith [' '] row.reverse]
        return before ++ shown :: (← renderBlocks d [] rest)
      else renderBlocks d (shown :: row) rest

/-- Writes values to the console, separated by spaces. -/
def print (host : Host) (values : List Value) : Run Unit :=
  if host.renderer then
    match renderBlocks host.dialect [] values with
    | .error failure => Run.fail failure
    | .ok [] => Run.errLine ""
    | .ok blocks => Run.err (String.ofList (blocks.flatMap fun b => displayText b ++ ['\n']))
  else Run.errLine (String.intercalate " " (values.map Value.display))

/-- Writes a text to the console. -/
def say (host : Host) (s : String) : Run Unit :=
  print host [.text s]

/-- A text made fit to stand in a message, where it is to be shown as it is. -/
def escape (host : Host) (s : String) : String :=
  if host.renderer then String.ofList (Markup.escape s.toList) else s

/-- The renderer, if it is installed. -/
def renderer (host : Host) : Except Failure Unit :=
  if host.renderer then .ok () else .error .rendererMissing

end NamedConstants.Console
