/-!
# Grammars of command lines

A grammar names a program, its options and its operands.  Options are flags, which take no
value; operands are filled from left to right.  Help texts are kept with their grammar.
-/

namespace NamedConstants.CommandLine

/-- What an option does. -/
inductive Action where
  /-- Shows the help text and leaves. -/
  | help
  /-- Shows the version and leaves. -/
  | version
  /-- Asks for JSON. -/
  | json
  deriving DecidableEq, Repr

/-- An option with its spellings. -/
structure Flag where
  spellings : List String
  action : Action
  deriving DecidableEq, Repr

/-- The name of an option in messages. -/
def Flag.label (f : Flag) : String :=
  String.intercalate "/" f.spellings

/-- An operand. -/
inductive Operand where
  /-- Takes exactly one argument. -/
  | required (name : String)
  /-- Takes one argument if there is one. -/
  | optional (name : String)
  /-- Takes a command and all that follows it. -/
  | command (name : String)
  deriving DecidableEq, Repr

/-- The options and operands of a program. -/
structure Grammar where
  program : String
  usage : String
  /-- What the help text says below the usage. -/
  help : String
  flags : List Flag
  operands : List Operand
  deriving DecidableEq, Repr

/-- All spellings of options with the options, in order. -/
def Grammar.spellings (g : Grammar) : List (String × Flag) :=
  g.flags.flatMap fun f => f.spellings.map fun s => (s, f)

/-- The option of a spelling. -/
def Grammar.flag? (g : Grammar) (spelling : String) : Option Flag :=
  (g.spellings.find? fun e => e.1 == spelling).map (·.2)

/-- The whole help text. -/
def Grammar.helpText (g : Grammar) : String :=
  g.usage ++ "\n\n" ++ g.help

def helpFlag : Flag := ⟨["-h", "--help"], .help⟩

def versionFlag : Flag := ⟨["-V", "--version"], .version⟩

def jsonFlag : Flag := ⟨["--json"], .json⟩

/-- The grammar in front of the command. -/
def topGrammar : Grammar where
  program := "qir-constants"
  usage := "usage: qir-constants [-h] [-V] COMMAND ..."
  help :=
    "Inspect the named, read-only QIR constant groups.\n\n" ++
    "positional arguments:\n" ++
    "  COMMAND\n" ++
    "    list         List constants, optionally for one group.\n" ++
    "    get          Print the value of one constant.\n" ++
    "    doctor       Run environment and registry diagnostics.\n\n" ++
    "options:\n" ++
    "  -h, --help     show this help message and exit\n" ++
    "  -V, --version  show program's version number and exit\n"
  flags := [helpFlag, versionFlag]
  operands := [.command "COMMAND"]

/-- The grammar behind the command that lists constants. -/
def listGrammar : Grammar where
  program := "qir-constants list"
  usage := "usage: qir-constants list [-h] [--json] [group]"
  help :=
    "positional arguments:\n" ++
    "  group       Group to list.\n\n" ++
    "options:\n" ++
    "  -h, --help  show this help message and exit\n" ++
    "  --json      Write a JSON object to stdout instead of a table.\n"
  flags := [helpFlag, jsonFlag]
  operands := [.optional "group"]

/-- The grammar behind the command that gets a constant. -/
def getGrammar : Grammar where
  program := "qir-constants get"
  usage := "usage: qir-constants get [-h] group name"
  help :=
    "positional arguments:\n" ++
    "  group       Group name, e.g. FileExtension.\n" ++
    "  name        Constant name, e.g. CppExtension.\n\n" ++
    "options:\n" ++
    "  -h, --help  show this help message and exit\n"
  flags := [helpFlag]
  operands := [.required "group", .required "name"]

/-- The grammar behind the command that runs the diagnostics. -/
def doctorGrammar : Grammar where
  program := "qir-constants doctor"
  usage := "usage: qir-constants doctor [-h]"
  help :=
    "options:\n" ++
    "  -h, --help  show this help message and exit\n"
  flags := [helpFlag]
  operands := []

end NamedConstants.CommandLine
