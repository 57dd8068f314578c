import NamedConstants.Markup.Pictograph
import NamedConstants.Markup.StyleName
import NamedConstants.Markup.Tag

/-!
# Rendering markup

Rendering shows the text of markup without its tags, and with the codes in it replaced by
pictographs.  Of the backslashes in front of a tag every second one is shown, and an odd one
makes the tag a part of the text.  Outside tags a backslash in front of an opening bracket is
dropped.  Tags cut the text into segments, and no code reaches from one into another.

A tag whose name starts with a slash closes the style that was opened last, or the last
one of that name; it is a fault if there is none.  Styles that are never closed are no
fault, and no style is unknown.  A style whose name starts with an at sign is a handler, whose
parameters are read when it is closed.
-/

namespace NamedConstants.Markup

/-- What keeps markup from being rendered. -/
inductive Fault where
  /-- A closing tag stands where no style is open. -/
  | nothingToClose (position : Nat)
  /-- A closing tag names a style that is not open. -/
  | notOpen (body : List Char) (position : Nat)
  /-- The parameters of a handler cannot be read. -/
  | handler (message : String)
  /-- A part of a colour should be a number and is empty. -/
  | noNumber
  deriving DecidableEq, Repr

/-- The text of a fault. -/
def Fault.message : Fault → String
  | .nothingToClose position =>
      "closing tag '[/]' at position " ++ toString position ++ " has nothing to close"
  | .notOpen body position =>
      "closing tag '[" ++ String.ofList body ++ "]' at position " ++ toString position ++
        " doesn't match any open tag"
  | .handler message => message
  | .noNumber => "invalid literal for int() with base 10: ''"

/-- What a renderer brings along. -/
structure Dialect where
  pictographs : Pictographs
  /-- What is wrong with the parameters of a handler, if anything is. -/
  handlerFault : List Char → Option String

/-- The name of a tag: what stands in front of its equals sign, or all of it. -/
def tagName (body : List Char) : List Char :=
  body.takeWhile (· != '=')

/-- The parameters of a tag: what stands behind its equals sign, if it has one. -/
def tagParameters (body : List Char) : Option (List Char) :=
  match body.dropWhile (· != '=') with
  | [] => none
  | _ :: parameters => some parameters

/-- A style that is open: its name and the parameters of its tag. -/
structure Opened where
  name : List Char
  parameters : Option (List Char)
  deriving DecidableEq, Repr

/-- The name by which a style is compared with others. -/
def styleName (name : List Char) : Except Fault (List Char) :=
  match readStyle name with
  | .ok style => .ok style.text
  | .error .unknown => .ok (Text.lower (Text.trim name))
  | .error .noNumber => .error .noNumber

/-- Takes the last style of a name off the open ones, which are listed from the last to
    the first. -/
def closeStyle? (name : List Char) : List Opened → Option (Opened × List Opened)
  | [] => none
  | latest :: rest =>
      if latest.name = name then some (latest, rest)
      else (closeStyle? name rest).map fun (closed, others) => (closed, latest :: others)

/-- Closes a style: the parameters of a handler are read. -/
def Dialect.close (d : Dialect) (closed : Opened) : Except Fault Unit :=
  match closed.parameters with
  | some (c :: rest) =>
      if closed.name.head? = some '@' then
        match d.handlerFault (c :: rest) with
        | some message => .error (.handler message)
        | none => .ok ()
      else .ok ()
  | _ => .ok ()

/-- The open styles after a tag at a position. -/
def applyTag (d : Dialect) (opened : List Opened) (position : Nat) (body : List Char) :
    Except Fault (List Opened) :=
  match tagName body with
  | '/' :: name =>
      if (Text.trim name).isEmpty then
        match opened with
        | [] => .error (.nothingToClose position)
        | latest :: rest => do
            d.close latest
            return rest
      else do
        let style ← styleName name
        match closeStyle? style opened with
        | none => .error (.notOpen body position)
        | some (closed, rest) => do
            d.close closed
            return rest
  | name => do
      let style ← styleName name
      return ⟨style, tagParameters body⟩ :: opened

/-- Checks that all styles which tokens close are open there.  The first token stands at the given
    position of the text. -/
def checkTags (d : Dialect) (opened : List Opened) (position : Nat) :
    List Token → Except Fault Unit
  | [] => .ok ()
  | .plain _ :: rest => checkTags d opened (position + 1) rest
  | .tag slashes body :: rest => do
      let next := position + slashes + body.length + 2
      if slashes % 2 = 1 then checkTags d opened next rest
      else
        let opened ← applyTag d opened (position + slashes) body
        checkTags d opened next rest

/-- Looks up the style that a tag opens, with its parameters. -/
def lookUpStyle (body : List Char) : Except Fault Unit :=
  match tagName body with
  | '/' :: _ => .ok ()
  | name => do
      let style ← styleName name
      match readStyle (style ++ ((tagParameters body).map (' ' :: ·)).getD []) with
      | .error .noNumber => .error .noNumber
      | _ => .ok ()

/-- Looks up the styles that tokens open. -/
def lookUpStyles : List Token → Except Fault Unit
  | [] => .ok ()
  | .plain _ :: rest => lookUpStyles rest
  | .tag slashes body :: rest => do
      if slashes % 2 = 0 then lookUpStyle body
      lookUpStyles rest

/-- What tokens show, cut at the tags: the text in front of the first tag, and for each tag the
    backslashes that are shown, the tag itself if it is a part of the text, and the text behind
    it. -/
def segments : List Token → List (List Char)
  | [] => [[]]
  | .plain '\\' :: .plain '[' :: rest => Text.consLine '[' (segments rest)
  | .plain c :: rest => Text.consLine c (segments rest)
  | .tag slashes body :: rest =>
      [] :: List.replicate (slashes / 2) '\\' ::
        (if slashes % 2 = 1 then '[' :: body ++ [']'] else []) :: segments rest

/-- What tokens show, with the codes in each segment replaced. -/
def shownTokens (p : Pictographs) (toks : List Token) : List Char :=
  (segments toks).flatMap p.replace

/-- The text that markup shows. -/
def render (d : Dialect) (s : List Char) : Except Fault (List Char) := do
  checkTags d [] 0 (tokens s)
  lookUpStyles (tokens s)
  return shownTokens d.pictographs (tokens s)

end NamedConstants.Markup
