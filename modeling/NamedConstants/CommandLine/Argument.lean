import NamedConstants.CommandLine.Grammar
import NamedConstants.Text.Digit

/-!
# Arguments

Every argument is an operand, an option or the separator `--`, behind which all arguments
are operands.  `classify` decides which, for the options of a grammar.

An argument is an operand if it is empty, a lone hyphen or does not start with a hyphen.
Otherwise it is the option that it spells, possibly cut short or followed by an equals
sign and a value.  What is left is an operand if it looks like a negative number or holds
a space, and an unknown option if not.
-/

namespace NamedConstants.CommandLine

/-- An argument that spells an option. -/
structure Spelled where
  flag : Flag
  /-- The spelling that is meant. -/
  spelling : List Char
  /-- The value written into the argument, if there is one. -/
  value : Option (List Char)
  deriving DecidableEq, Repr

/-- What an argument is. -/
inductive Mark where
  | operand
  | separator
  | option (spelled : Spelled)
  | unknownOption
  deriving DecidableEq, Repr

/-- Whether an argument stands where options are read. -/
def Mark.isOption : Mark → Bool
  | .option _ => true
  | .unknownOption => true
  | _ => false

/-- An argument with what it is. -/
structure Argument where
  text : String
  mark : Mark
  deriving DecidableEq, Repr

/-- A text up to its first equals sign, and what stands behind that if there is one. -/
def splitValue : List Char → List Char × Option (List Char)
  | [] => ([], none)
  | c :: rest =>
      if c = '=' then ([], some rest) else (c :: (splitValue rest).1, (splitValue rest).2)

/-- The options that an argument may spell if it is cut short, or with its value right
    behind a spelling of one letter. -/
def readings (g : Grammar) (s : List Char) : List Spelled :=
  match s with
  | '-' :: '-' :: _ =>
      let (start, value) := splitValue s
      g.spellings.filterMap fun (spelling, flag) =>
        if start.isPrefixOf spelling.toList then some ⟨flag, spelling.toList, value⟩ else none
  | _ =>
      g.spellings.filterMap fun (spelling, flag) =>
        if spelling.toList = s.take 2 then some ⟨flag, spelling.toList, some (s.drop 2)⟩
        else if s.isPrefixOf spelling.toList then some ⟨flag, spelling.toList, none⟩
        else none

/-- Whether a text is an optional run of digits, a point and a run of digits, or just a run
    of digits; a line feed may follow. -/
def isDecimal (s : List Char) : Bool :=
  let (whole, _, rest) := Text.readDigits 0 s
  let atEnd (rest : List Char) := rest == [] || rest == ['\n']
  (0 < whole && atEnd rest) ||
    match rest with
    | '.' :: rest =>
        let (places, _, rest) := Text.readDigits 0 rest
        0 < places && atEnd rest
    | _ => false

/-- Whether a text looks like a negative number. -/
def isNegativeNumber : List Char → Bool
  | '-' :: rest => isDecimal rest
  | _ => false

/-- Why the arguments of a program are refused. -/
inductive UsageFault where
  /-- A shortened option may mean several. -/
  | ambiguous (argument : String) (meanings : List (List Char))
  /-- An option is given a value that it does not take. -/
  | ignoredValue (flag : Flag) (value : List Char)
  /-- There is no such command. -/
  | noCommand (operand : String) (argument : String)
  /-- Operands are missing. -/
  | missing (operands : List String)
  /-- Arguments are left over. -/
  | unrecognized (arguments : List String)
  deriving DecidableEq, Repr

/-- What an argument in front of any separator is. -/
def markOf (g : Grammar) (argument : String) : Except UsageFault Mark :=
  let s := argument.toList
  match s with
  | [] => .ok .operand
  | c :: rest =>
      if c ≠ '-' then .ok .operand
      else
        match g.flag? argument with
        | some flag => .ok (.option ⟨flag, s, none⟩)
        | none =>
            if rest = [] then .ok .operand
            else
              let (start, value) := splitValue s
              match g.flag? (String.ofList start), value with
              | some flag, some value => .ok (.option ⟨flag, start, some value⟩)
              | _, _ =>
                  match readings g s with
                  | [spelled] => .ok (.option spelled)
                  | [] =>
                      if isNegativeNumber s || s.contains ' ' then .ok .operand
                      else .ok .unknownOption
                  | several => .error (.ambiguous argument (several.map (·.spelling)))

/-- The arguments of a program with what each of them is. -/
def classify (g : Grammar) : List String → Except UsageFault (List Argument)
  | [] => .ok []
  | a :: rest =>
      if a = "--" then .ok (⟨a, .separator⟩ :: rest.map fun b => ⟨b, .operand⟩)
      else do
        let mark ← markOf g a
        let others ← classify g rest
        return ⟨a, mark⟩ :: others

end NamedConstants.CommandLine
