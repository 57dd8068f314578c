import NamedConstants.Markup.Tag

/-!
# Escaping markup

`escape` writes a text so that rendering it as markup opens and closes nothing: the
backslashes in front of a tag are doubled and one more is put in front of it.  A single
backslash at the end is doubled too, so that it does not escape a tag that follows.
-/

namespace NamedConstants.Markup

/-- The escaped form of one token. -/
def Token.escaped : Token → List Char
  | .plain c => [c]
  | .tag slashes body => (Token.tag (2 * slashes + 1) body).source

/-- Whether a text ends in a backslash that stands alone. -/
def endsInLoneSlash (s : List Char) : Bool :=
  match s.reverse with
  | '\\' :: '\\' :: _ => false
  | '\\' :: _ => true
  | _ => false

/-- Doubles a backslash that stands alone at the end. -/
def closeSlash (s : List Char) : List Char :=
  if endsInLoneSlash s then s ++ ['\\'] else s

/-- A text with its tags escaped. -/
def escape (s : List Char) : List Char :=
  closeSlash ((tokens s).flatMap Token.escaped)

end NamedConstants.Markup
