import NamedConstants.CommandLine.Parser
import NamedConstants.Value.Display

/-!
# Commands

The commands of the program.  A command line is read in two steps: the grammar in front of
the command first, then that of the command itself.  What neither of them takes is refused
last.
-/

namespace NamedConstants.CommandLine

/-- What the program is asked to do. -/
inductive Command where
  /-- Show how the program is used. -/
  | overview
  /-- List all constants or those of a group, as a table or as JSON. -/
  | list (group : Option String) (asJson : Bool)
  /-- Write the value of a constant. -/
  | get (group name : String)
  /-- Write the value of a constant in whose place there is a separator, so that it has no name. -/
  | getUnnamed (group : String)
  /-- Run the diagnostics. -/
  | doctor
  deriving DecidableEq, Repr

/-- The names of the commands with their grammars. -/
def commandGrammars : List (String × Grammar) :=
  [("list", listGrammar), ("get", getGrammar), ("doctor", doctorGrammar)]

/-- The quoted form of a text. -/
def quotedArgument (s : String) : String :=
  (Value.text s).quoted

/-- The text of a refusal. -/
def UsageFault.message : UsageFault → String
  | .ambiguous argument meanings =>
      "ambiguous option: " ++ argument ++ " could match " ++
        String.intercalate ", " (meanings.map String.ofList)
  | .ignoredValue flag value =>
      "argument " ++ flag.label ++ ": ignored explicit argument " ++
        quotedArgument (String.ofList value)
  | .noCommand operand argument =>
      "argument " ++ operand ++ ": invalid choice: " ++ quotedArgument argument ++
        " (choose from " ++
        String.intercalate ", " (commandGrammars.map fun c => quotedArgument c.1) ++ ")"
  | .missing operands =>
      "the following arguments are required: " ++ String.intercalate ", " operands
  | .unrecognized arguments =>
      "unrecognized arguments: " ++ String.intercalate " " arguments

/-- The command that the values and options behind its name make up. -/
def commandOf (name : String) (p : Progress) : Command :=
  match name, p.filled with
  | "get", [[group], [constant]] => .get group constant
  | "get", [[group], []] => .getUnnamed group
  | "list", operands => .list operands.flatten.head? (p.actions.contains .json)
  | _, _ => .doctor

/-- Refuses the arguments that are left over. -/
def refuseExtras (extras : List String) (command : Command) : Except Stop Command :=
  if extras.isEmpty then .ok command else .error (.refused topGrammar (.unrecognized extras))

/-- Reads the arguments of the program. -/
def readCommand (arguments : List String) : Except Stop Command :=
  match topGrammar.parse arguments with
  | .error stop => .error stop
  | .ok top =>
      match top.filled with
      | (name :: rest) :: _ =>
          match commandGrammars.find? fun c => c.1 == name with
          | none => .error (.refused topGrammar (.noCommand "COMMAND" name))
          | some (_, g) =>
              match g.parse rest with
              | .error stop => .error stop
              | .ok p => refuseExtras (top.extras ++ p.extras) (commandOf name p)
      | _ => refuseExtras top.extras .overview

end NamedConstants.CommandLine
