import NamedConstants.Failure

/-!
# Runs

What a command does: the texts that it writes to the standard output and to the standard
error, and how it ends.  Runs are put in sequence by `Run.bind`: a later run adds its texts
behind those of an earlier one, and happens only if the earlier one comes to its end.
-/

namespace NamedConstants

/-- How a run ends. -/
inductive Ending (α : Type) where
  /-- It comes to its end with a result. -/
  | done (result : α)
  /-- It fails. -/
  | failed (failure : Failure)
  /-- It leaves the program with an exit code. -/
  | exited (code : Value)
  /-- The user interrupts it. -/
  | interrupted

/-- What a command writes and how it ends. -/
structure Run (α : Type) where
  stdout : String
  stderr : String
  ending : Ending α

namespace Run

/-- The run that writes nothing. -/
def pure {α : Type} (result : α) : Run α := ⟨"", "", .done result⟩

/-- Two runs in sequence. -/
def bind {α β : Type} (r : Run α) (next : α → Run β) : Run β :=
  match r.ending with
  | .done result =>
      let s := next result
      ⟨r.stdout ++ s.stdout, r.stderr ++ s.stderr, s.ending⟩
  | .failed failure => ⟨r.stdout, r.stderr, .failed failure⟩
  | .exited code => ⟨r.stdout, r.stderr, .exited code⟩
  | .interrupted => ⟨r.stdout, r.stderr, .interrupted⟩

instance : Monad Run where
  pure := Run.pure
  bind := Run.bind

/-- Fails without writing anything. -/
def fail {α : Type} (failure : Failure) : Run α := ⟨"", "", .failed failure⟩

/-- Leaves the program without writing anything. -/
def exit {α : Type} (code : Int) : Run α := ⟨"", "", .exited (.int code)⟩

/-- Takes over the result of a computation that writes nothing. -/
def ofExcept {α : Type} : Except Failure α → Run α
  | .ok result => pure result
  | .error failure => fail failure

/-- Writes a text to the standard output. -/
def out (s : String) : Run Unit := ⟨s, "", .done ()⟩

/-- Writes a text to the standard error. -/
def err (s : String) : Run Unit := ⟨"", s, .done ()⟩

/-- Writes a line to the standard output. -/
def outLine (s : String) : Run Unit := out (s ++ "\n")

/-- Writes a line to the standard error. -/
def errLine (s : String) : Run Unit := err (s ++ "\n")

/-- Runs an action for each item in order. -/
def each {α : Type} (action : α → Run Unit) : List α → Run Unit
  | [] => pure ()
  | a :: rest => bind (action a) fun _ => each action rest

end Run

end NamedConstants
