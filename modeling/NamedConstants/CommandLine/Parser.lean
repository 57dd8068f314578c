import NamedConstants.CommandLine.Argument

/-!
# Reading a command line

`Grammar.parse` goes through the arguments of a program from left to right.  Options act
where they stand; the arguments between them are handed to the operands, as many of these
as can be filled at once.  Arguments that nothing takes are collected, so that they can be
reported after everything else.

A separator goes to the operand that it stands beside and is dropped again, which is the
first `--` among the arguments of the operand.  If that is the only one, then the operand is
filled with nothing.
-/

namespace NamedConstants.CommandLine

/-- Why reading a command line ends early. -/
inductive Stop where
  /-- The help text is asked for. -/
  | help (g : Grammar)
  /-- The version is asked for. -/
  | version
  /-- The arguments are refused. -/
  | refused (g : Grammar) (fault : UsageFault)

/-- What has been read of a command line. -/
structure Progress where
  /-- The operands that are still to be filled. -/
  pending : List Operand
  /-- The arguments that the filled operands got, in order. -/
  filled : List (List String)
  /-- The options that have been read and leave a trace. -/
  actions : List Action
  /-- The arguments that nothing takes. -/
  extras : List String

/-- Splits off the separators at the front. -/
def spanSeparators (args : List Argument) : List Argument × List Argument :=
  args.span fun a => a.mark == .separator

/-- What an operand takes from the front of the arguments, and what is left; nothing if it
    cannot be filled. -/
def Operand.take? (o : Operand) (args : List Argument) :
    Option (List Argument × List Argument) :=
  let (before, rest) := spanSeparators args
  match rest with
  | a :: rest =>
      if a.mark = .operand then
        match o with
        | .command _ => some (args, [])
        | _ =>
            let (after, rest) := spanSeparators rest
            some (before ++ a :: after, rest)
      else match o with
        | .optional _ => some (before, a :: rest)
        | _ => none
  | [] =>
      match o with
      | .optional _ => some (before, [])
      | _ => none

/-- The values in what an operand has taken. -/
def Operand.values (o : Operand) (taken : List String) : List String :=
  match o with
  | .command _ => taken
  | _ => taken.erase "--"

/-- Fills operands from the front of the arguments, as many as can be filled: the values,
    the operands that are left and the arguments that are left. -/
def fillOperands : List Operand → List Argument →
    List (List String) × List Operand × List Argument
  | [], args => ([], [], args)
  | o :: rest, args =>
      match o.take? args with
      | none => ([], o :: rest, args)
      | some (taken, left) =>
          let (filled, pending, left) := fillOperands rest left
          (o.values (taken.map (·.text)) :: filled, pending, left)

/-- Fills the pending operands. -/
def Progress.fill (p : Progress) (args : List Argument) : Progress × List Argument :=
  let (filled, pending, left) := fillOperands p.pending args
  ({ p with pending := pending, filled := p.filled ++ filled }, left)

/-- The options that an argument spells.  Behind one letter further letters may follow,
    each an option of its own. -/
def chain (g : Grammar) (flag : Flag) (spelling : List Char) :
    Option (List Char) → Except UsageFault (List Action)
  | none => .ok [flag.action]
  | some [] => .error (.ignoredValue flag [])
  | some (c :: rest) =>
      match g.flag? (String.ofList ['-', c]), spelling with
      | _, '-' :: '-' :: _ => .error (.ignoredValue flag (c :: rest))
      | none, _ => .error (.ignoredValue flag (c :: rest))
      | some next, _ =>
          match rest with
          | [] => .ok [flag.action, next.action]
          | d :: rest => (chain g next ['-', c] (some (d :: rest))).map (flag.action :: ·)

/-- Runs the options of one argument in order. -/
def Progress.run (g : Grammar) (p : Progress) : List Action → Except Stop Progress
  | [] => .ok p
  | .help :: _ => .error (.help g)
  | .version :: _ => .error .version
  | action :: rest => Progress.run g { p with actions := p.actions ++ [action] } rest

/-- Takes an argument that stands where options are read. -/
def Progress.takeOption (g : Grammar) (p : Progress) (a : Argument) : Except Stop Progress :=
  match a.mark with
  | .option spelled =>
      match chain g spelled.flag spelled.spelling spelled.value with
      | .error fault => .error (.refused g fault)
      | .ok actions => p.run g actions
  | _ => .ok { p with extras := p.extras ++ [a.text] }

/-- What stands behind the first option is shorter than the whole. -/
theorem length_lt_of_dropWhile {args rest : List Argument} {a : Argument} {p : Argument → Bool}
    (h : args.dropWhile p = a :: rest) : rest.length < args.length := by
  have hs := (List.dropWhile_suffix p (l := args)).length_le
  rw [h, List.length_cons] at hs
  omega

set_option linter.unusedVariables false in
/-- Reads arguments to the end.  The arguments in front of the next option go to the
    operands, which may take more than these; if they take none, they are left over. -/
def Progress.read (g : Grammar) (p : Progress) (args : List Argument) : Except Stop Progress :=
  let before : List Argument := args.takeWhile fun a => !a.mark.isOption
  match h : args.dropWhile fun a => !a.mark.isOption with
  | [] =>
      let filled := p.fill args
      .ok { filled.1 with extras := filled.1.extras ++ filled.2.map (·.text) }
  | a :: rest =>
      if before.isEmpty then
        match p.takeOption g a with
        | .error stop => .error stop
        | .ok p => p.read g rest
      else
        let filled := p.fill args
        if filled.2.length < args.length then filled.1.read g filled.2
        else
          let p : Progress := { filled.1 with extras := filled.1.extras ++ before.map (·.text) }
          match p.takeOption g a with
          | .error stop => .error stop
          | .ok p => p.read g rest
termination_by args.length
decreasing_by
  · exact length_lt_of_dropWhile h
  · assumption
  · exact length_lt_of_dropWhile h

/-- The names of the operands that must be filled. -/
def requiredNames (operands : List Operand) : List String :=
  operands.filterMap fun o => match o with
    | .required name => some name
    | _ => none

/-- Reads the arguments of a program. -/
def Grammar.parse (g : Grammar) (arguments : List String) : Except Stop Progress :=
  match classify g arguments with
  | .error fault => .error (.refused g fault)
  | .ok args =>
      match Progress.read g ⟨g.operands, [], [], []⟩ args with
      | .error stop => .error stop
      | .ok p =>
          match requiredNames p.pending with
          | [] => .ok p
          | names => .error (.refused g (.missing names))

end NamedConstants.CommandLine
