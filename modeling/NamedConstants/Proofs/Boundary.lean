import NamedConstants.CommandLine.Program
import NamedConstants.Proofs.Console
import NamedConstants.Proofs.Printers

/-!
# The outermost layer

Every ending of the program is an exit.  The runs that carry a command out either fail or
return one of the codes 0 and 1 (`returns_perform`), and the message about a failure is always
written: the name of its kind takes no part in markup (`Category.isGap_name`), and its text
is escaped.
-/

namespace NamedConstants

/-- The name of a kind of failure takes part neither in markup nor in codes. -/
theorem Category.isGap_name (c : Category) : Markup.IsGap c.name.toList := by
  cases c with
  | other name =>
      have hchar : ∀ c ∈ name.text.toList, isNameChar c = true := List.all_eq_true.mp name.valid
      refine Markup.isGap_of_inert (fun c hc => ?_) fun hc => ?_
      · constructor <;> rintro rfl <;> exact absurd (hchar _ hc) (by decide)
      · exact absurd (hchar _ hc) (by decide)
  | _ => exact Markup.isGap_of_inert (by decide) (by decide)

/-- What stands between the words about a failure of another kind and its text. -/
theorem Category.isGap_report (c : Category) :
    Markup.IsGap (" Please report this issue.\n  ".toList ++ (c.name.toList ++ ": ".toList)) :=
  (Markup.isGap_of_inert (by decide) (by decide)).append
    (c.isGap_name.append Markup.isGap_colonSpace)

/-- A listing returns the code of success if it does not fail. -/
theorem Listing.returns_list (host : Host) (r : Registry) (selection : Option Value)
    (asJson : Bool) : Run.Returns (fun code => code = 0) (Listing.list host r selection asJson) := by
  cases asJson with
  | true =>
      unfold list
      refine Run.returns_bind (Run.returns_ofExcept fun _ => trivial) fun groups _ => ?_
      refine Run.returns_bind (Run.returns_ofExcept fun _ => trivial) fun document _ => ?_
      exact Run.returns_bind (Run.returns_out _) fun _ _ => Run.returns_pure rfl
  | false =>
      cases hsel : r.select selection with
      | error failure =>
          rw [list, hsel]
          exact Run.returns_fail failure
      | ok groups => exact (prints_list host hsel).returns

theorem Listing.returns_get (r : Registry) (group name : Value) :
    Run.Returns (fun code => code = 0) (Listing.get r group name) := by
  unfold Listing.get
  refine Run.returns_bind (Run.returns_ofExcept fun _ => trivial) fun value _ => ?_
  exact Run.returns_bind (Run.returns_out _) fun _ _ => Run.returns_pure rfl

namespace CommandLine

/-- Carrying a command out either fails or returns one of the codes 0 and 1. -/
theorem returns_perform (host : Host) (command : Command) :
    Run.Returns (fun code => code = 0 ∨ code = 1) (perform host command) := by
  cases command with
  | overview => exact Or.inl rfl
  | list group asJson => exact (Listing.returns_list host _ _ _).imp fun _ => Or.inl
  | get group name => exact (Listing.returns_get _ _ _).imp fun _ => Or.inl
  | getUnnamed group => exact (Listing.returns_get _ _ _).imp fun _ => Or.inl
  | doctor => exact (Diagnostics.prints_run host _).returns

theorem isStyle_boldRed : Markup.IsStyle "bold red".toList := by
  decide +kernel

theorem isStyle_yellow : Markup.IsStyle "yellow".toList := by
  decide +kernel

/-- A failure of this library's own is told with its text, escaped and rendered. -/
theorem say_errorMessage {host : Host} (h : host.renderer = true) (text : String) :
    Console.say host (errorMessage host text) =
      Run.err (String.ofList (Console.displayText (Console.sanitize
        ("Error: ".toList ++ Markup.shown host.dialect.pictographs text.toList)) ++ ['\n'])) := by
  have hfront : "[bold red]Error:[/bold red] ".toList =
      [] ++ Markup.styled "bold red".toList "Error:".toList ++ [' '] := rfl
  exact Console.say_styled_escape h hfront (by decide) isStyle_boldRed (by decide)
    Markup.isGap_space text

theorem say_hintMessage {host : Host} (h : host.renderer = true) (hint : String) :
    Console.say host (hintMessage host hint) =
      Run.err (String.ofList (Console.displayText (Console.sanitize
        ("Hint: ".toList ++ Markup.shown host.dialect.pictographs hint.toList)) ++ ['\n'])) := by
  have hfront : "[yellow]Hint:[/yellow] ".toList =
      [] ++ Markup.styled "yellow".toList "Hint:".toList ++ [' '] := rfl
  exact Console.say_styled_escape h hfront (by decide) isStyle_yellow (by decide)
    Markup.isGap_space hint

/-- Any other failure is told with the name of its kind and its text, escaped and rendered. -/
theorem say_unexpectedMessage {host : Host} (h : host.renderer = true) (category : Category)
    (text : String) :
    Console.say host (unexpectedMessage host category.name text) =
      Run.err (String.ofList (Console.displayText
        (Console.sanitize ("Unexpected error.".toList ++
          (" Please report this issue.\n  ".toList ++ (category.name.toList ++ ": ".toList)) ++
            Markup.shown host.dialect.pictographs text.toList)) ++ ['\n'])) := by
  have hliteral : "[bold red]Unexpected error.[/bold red] Please report this issue.\n  ".toList =
      [] ++ Markup.styled "bold red".toList "Unexpected error.".toList ++
        " Please report this issue.\n  ".toList := rfl
  have hfront : ("[bold red]Unexpected error.[/bold red] Please report this issue.\n  " ++
      category.name ++ ": ").toList =
      [] ++ Markup.styled "bold red".toList "Unexpected error.".toList ++
        (" Please report this issue.\n  ".toList ++ (category.name.toList ++ ": ".toList)) := by
    rw [String.toList_append, String.toList_append, hliteral, List.append_assoc, List.append_assoc]
  exact Console.say_styled_escape h hfront (by decide) isStyle_boldRed (by decide)
    category.isGap_report text

/-- The interruption is told in a line of its own. -/
theorem say_interruption {host : Host} (h : host.renderer = true) :
    Console.say host "\n[yellow]Aborted by user.[/yellow]" = Run.err "\nAborted by user.\n" := by
  have hfront : "\n[yellow]Aborted by user.[/yellow]".toList =
      ['\n'] ++ Markup.styled "yellow".toList "Aborted by user.".toList ++ [] := rfl
  have hnone : Markup.IsGap [] := Markup.isGap_of_inert (by decide) (by decide)
  have hsay := Console.say_styled_escape h hfront (by decide) isStyle_yellow (by decide) hnone ""
  rw [Console.escape_empty, String.append_empty, String.toList_empty, Markup.shown_nil] at hsay
  rw [hsay]
  exact congrArg Run.err (by decide +kernel)

/-- The message about a failure is always written. -/
theorem ending_say_errorMessage (host : Host) (text : String) :
    (Console.say host (errorMessage host text)).ending = .done () := by
  cases h : host.renderer with
  | true => rw [say_errorMessage h]; rfl
  | false => rw [Console.say_of_not_renderer h]; rfl

theorem ending_say_hintMessage (host : Host) (hint : String) :
    (Console.say host (hintMessage host hint)).ending = .done () := by
  cases h : host.renderer with
  | true => rw [say_hintMessage h]; rfl
  | false => rw [Console.say_of_not_renderer h]; rfl

theorem ending_say_unexpectedMessage (host : Host) (category : Category) (text : String) :
    (Console.say host (unexpectedMessage host category.name text)).ending = .done () := by
  cases h : host.renderer with
  | true => rw [say_unexpectedMessage h]; rfl
  | false => rw [Console.say_of_not_renderer h]; rfl

/-- A reported failure leaves the program with the code of its kind. -/
theorem ending_reportFailure (host : Host) (failure : Failure) :
    (reportFailure host failure).ending =
      .exited (.int (if failure.category.isOwn then generalError else unexpectedError)) := by
  unfold reportFailure
  split
  · rw [Run.bind_eq, Run.ending_bind (ending_say_errorMessage host failure.message)]
    split
    · rfl
    · next hint _ =>
      split
      · rfl
      · rw [Run.bind_eq, Run.ending_bind (ending_say_hintMessage host hint)]
        rfl
  · rw [Run.bind_eq, Run.ending_bind (ending_say_unexpectedMessage host _ _)]
    rfl

theorem ending_reportInterruption (host : Host) :
    (reportInterruption host).ending = .exited (.int interruption) := by
  have hsay : (Console.say host "\n[yellow]Aborted by user.[/yellow]").ending = .done () := by
    cases h : host.renderer with
    | true => rw [say_interruption h]; rfl
    | false => rw [Console.say_of_not_renderer h]; rfl
  rw [reportInterruption, Run.bind_eq, Run.ending_bind hsay]
  rfl

/-- Doing what the arguments ask for ends with a code or a failure: the code is returned by a
    command, or the program is left with it because of the arguments. -/
theorem ending_run (host : Host) (arguments : List String) :
    (∃ code, (run host arguments).ending = .done code ∧ (code = 0 ∨ code = 1)) ∨
      (∃ failure, (run host arguments).ending = .failed failure) ∨
      ∃ code, (run host arguments).ending = .exited (.int code) ∧ (code = 0 ∨ code = 2) := by
  unfold run
  cases readCommand arguments with
  | error s =>
      cases s with
      | help g => exact Or.inr (Or.inr ⟨0, rfl, Or.inl rfl⟩)
      | version => exact Or.inr (Or.inr ⟨0, rfl, Or.inl rfl⟩)
      | refused g fault => exact Or.inr (Or.inr ⟨2, rfl, Or.inr rfl⟩)
  | ok command =>
      rcases Run.ending_of_returns (returns_perform host command) with ⟨code, he, hc⟩ | hf
      · exact Or.inl ⟨code, he, hc⟩
      · exact Or.inr (Or.inl hf)

/-- The outermost layer turns every ending of a run into an exit. -/
theorem ending_atBoundary (host : Host) (r : Run Int) :
    (atBoundary host r).ending = match r.ending with
      | .done code => .exited (.int code)
      | .failed failure =>
          .exited (.int (if failure.category.isOwn then generalError else unexpectedError))
      | .exited code => .exited code
      | .interrupted => .exited (.int interruption) := by
  unfold atBoundary
  cases r.ending with
  | done code => rfl
  | failed failure => exact ending_reportFailure host failure
  | exited code => rfl
  | interrupted => exact ending_reportInterruption host

/-- The outermost layer lets nothing through.  Whatever its arguments, the program is left with
    one of the codes 0, 1 and 2; whatever failure a run ends with, the program is left with the
    code of the failure's kind; an interruption alone leaves it with the code 130.  No text of a
    message or hint keeps it from being written. -/
theorem exits_at_boundary (host : Host) :
    (∀ arguments : List String, ∃ code : Int,
      (program host arguments).ending = .exited (.int code) ∧
        (code = 0 ∨ code = 1 ∨ code = 2)) ∧
    (∀ (stdout stderr : String) (failure : Failure),
      (atBoundary host ⟨stdout, stderr, .failed failure⟩).ending =
        .exited (.int (if failure.category.isOwn then 1 else 2))) ∧
    (∀ stdout stderr : String,
      (atBoundary host ⟨stdout, stderr, .interrupted⟩).ending = .exited (.int 130)) ∧
    (∀ text : String,
      (Console.say host (errorMessage host text)).ending = .done () ∧
        (Console.say host (hintMessage host text)).ending = .done () ∧
        ∀ category : Category,
          (Console.say host (unexpectedMessage host category.name text)).ending = .done ()) := by
  refine ⟨?_, ?_, ?_, ?_⟩
  · intro arguments
    have hend := ending_atBoundary host (run host arguments)
    rcases ending_run host arguments with ⟨code, he, hc⟩ | ⟨failure, he⟩ | ⟨code, he, hc⟩
    · rw [he] at hend
      exact ⟨code, hend, by omega⟩
    · rw [he] at hend
      refine ⟨_, hend, ?_⟩
      split
      · exact Or.inr (Or.inl rfl)
      · exact Or.inr (Or.inr rfl)
    · rw [he] at hend
      exact ⟨code, hend, by omega⟩
  · intro stdout stderr failure
    exact ending_atBoundary host ⟨stdout, stderr, .failed failure⟩
  · intro stdout stderr
    exact ending_atBoundary host ⟨stdout, stderr, .interrupted⟩
  · intro text
    exact ⟨ending_say_errorMessage host text, ending_say_hintMessage host text,
      fun category => ending_say_unexpectedMessage host category text⟩

end CommandLine

end NamedConstants
