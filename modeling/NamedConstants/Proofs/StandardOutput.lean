import NamedConstants.Proofs.Boundary
import NamedConstants.Proofs.CommandLine.Reading
import NamedConstants.Proofs.TableListing

/-!
# The standard output

Tables, messages and diagnoses leave the standard output alone (`Run.Prints`).  What the program
writes there is an answer to its arguments, and if it does not succeed, it is nothing at all
(`standard_output`).
-/

namespace NamedConstants

namespace Run

variable {α β : Type}

/-- A run writes nothing to the standard output. -/
def Silent (r : Run α) : Prop :=
  r.stdout = ""

theorem silent_fail (failure : Failure) : Silent (fail failure : Run α) := rfl

theorem silent_exit (code : Int) : Silent (exit code : Run α) := rfl

theorem silent_bind {r : Run α} {next : α → Run β} (hr : Silent r) (hn : ∀ a, Silent (next a)) :
    Silent (r.bind next) := by
  unfold Silent at hr
  unfold bind
  split
  · rename_i result _
    exact (congrArg (r.stdout ++ ·) (hn result)).trans (by simp [hr])
  · exact hr
  · exact hr
  · exact hr

end Run

open Run (Silent)

namespace CommandLine

theorem silent_reportFailure (host : Host) (failure : Failure) :
    Silent (reportFailure host failure) := by
  unfold reportFailure
  split
  · refine Run.silent_bind (Console.prints_print host _).silent fun _ => ?_
    split
    · rfl
    · split
      · rfl
      · exact Run.silent_bind (Console.prints_print host _).silent fun _ => Run.silent_exit _
  · exact Run.silent_bind (Console.prints_print host _).silent fun _ => Run.silent_exit _

theorem silent_reportInterruption (host : Host) : Silent (reportInterruption host) :=
  Run.silent_bind (Console.prints_print host _).silent fun _ => Run.silent_exit _

/-- The outermost layer adds nothing to the standard output. -/
theorem stdout_atBoundary (host : Host) (r : Run Int) : (atBoundary host r).stdout = r.stdout := by
  have hadd : ∀ {next : Run Unit}, Silent next → r.stdout ++ next.stdout = r.stdout := by
    intro next hnext
    rw [hnext, String.append_empty]
  unfold atBoundary
  split
  · exact hadd (Run.silent_exit _)
  · exact hadd (silent_reportFailure host _)
  · rfl
  · exact hadd (silent_reportInterruption host)

/-- What the program answers on the standard output when it succeeds. -/
inductive Answers (arguments : List String) : String → Prop where
  /-- The help text of the program or of one of its commands, which is asked for. -/
  | help (g : Grammar) (asked : readCommand arguments = .error (.help g))
      (known : g = topGrammar ∨ ∃ c ∈ commandGrammars, c.2 = g) : Answers arguments g.helpText
  /-- The help text of the program, if there is no command. -/
  | overview (asked : readCommand arguments = .ok .overview) :
      Answers arguments topGrammar.helpText
  | version (asked : readCommand arguments = .error .version) :
      Answers arguments (versionLine ++ "\n")
  /-- The value of the constant whose names are given behind the command, and a line end. -/
  | value (group name s : String) (asked : readCommand arguments = .ok (.get group name))
      (given : ["get", group, name].Sublist arguments)
      (found : Registry.shipped.get (.text group) (.text name) = .ok (.text s)) :
      Answers arguments (s ++ "\n")
  /-- The whole JSON document of the selected groups, and a line end. -/
  | document (group : Option String) (groups : List Group) (text : String)
      (asked : readCommand arguments = .ok (.list group true))
      (given : ∀ name, group = some name → ["list", name].Sublist arguments)
      (selected : Registry.shipped.select (group.map Value.text) = .ok groups)
      (complete : Json.document (Listing.payload groups) = .ok text ∧
        Json.read? text.toList = some (Listing.payload groups)) :
      Answers arguments (text ++ "\n")
  /-- Nothing, since a table goes to the standard error. -/
  | table (group : Option String) (asked : readCommand arguments = .ok (.list group false))
      (given : ∀ name, group = some name → ["list", name].Sublist arguments) :
      Answers arguments ""
  /-- Nothing, since a diagnosis goes to the standard error. -/
  | diagnosis (asked : readCommand arguments = .ok .doctor) : Answers arguments ""

/-- A run gives an answer with the code of success, and nothing with any other ending. -/
def AnswersOrSilent (arguments : List String) (r : Run Int) : Prop :=
  (Answers arguments r.stdout ∧ (r.ending = .done 0 ∨ r.ending = .exited (.int 0))) ∨
    (Silent r ∧ ((∃ code, code ≠ 0 ∧ (r.ending = .done code ∨ r.ending = .exited (.int code))) ∨
      ∃ failure, r.ending = .failed failure))

theorem holdsTexts_shipped : ∀ g ∈ Registry.shipped.groups, g.HoldsTexts := by
  intro g hg
  obtain ⟨c, hc, rfl⟩ := List.mem_map.mp hg
  have hbase : ∀ c ∈ GroupClass.shippedGroups, c.base.isText = true := by decide
  exact Group.holdsTexts_ofClass (hbase c hc)

theorem answers_fail (arguments : List String) (failure : Failure) :
    AnswersOrSilent arguments (Run.fail failure) :=
  Or.inr ⟨Run.silent_fail failure, Or.inr ⟨failure, rfl⟩⟩

theorem answers_get {arguments : List String} {group name : String}
    (h : readCommand arguments = .ok (.get group name)) (host : Host) :
    AnswersOrSilent arguments (perform host (.get group name)) := by
  rw [perform]
  cases hget : Registry.shipped.get (.text group) (.text name) with
  | error failure =>
      rw [Listing.get_of_error hget]
      exact answers_fail arguments failure
  | ok value =>
      obtain ⟨g, hg, key, hkey⟩ := Registry.exists_mem_of_get hget
      obtain ⟨s, hs⟩ := holdsTexts_shipped g hg _ hkey
      obtain rfl : value = .text s := hs
      rw [Listing.get_of_ok hget]
      exact Or.inl ⟨.value group name s h (sublist_of_readCommand_get h) hget, Or.inl rfl⟩

/-- A constant without a name is never found. -/
theorem answers_getUnnamed (arguments : List String) (group : String) (host : Host) :
    AnswersOrSilent arguments (perform host (.getUnnamed group)) := by
  have hname : (Value.list []).isText = false := rfl
  obtain ⟨failure, hfails⟩ := Registry.exists_get_error_of_not_isText
    Registry.ofClasses_shippedGroups (.text group) hname
  rw [perform, Listing.get_of_error hfails]
  exact answers_fail arguments failure

theorem answers_list {arguments : List String} {group : Option String} {asJson : Bool}
    (h : readCommand arguments = .ok (.list group asJson)) (host : Host) :
    AnswersOrSilent arguments (perform host (.list group asJson)) := by
  have hgiven : ∀ name, group = some name → ["list", name].Sublist arguments := by
    rintro name rfl
    exact sublist_of_readCommand_list h
  rw [perform]
  cases hsel : Registry.shipped.select (group.map Value.text) with
  | error failure =>
      rw [Listing.list_of_error hsel]
      exact answers_fail arguments failure
  | ok groups =>
      cases asJson with
      | true =>
          have hsub := Registry.mem_of_select hsel
          have hback := Listing.readsBack_payload Registry.ofClasses_shippedGroups hsub
            (Registry.pairwise_of_select hsel) (fun g hg => holdsTexts_shipped g (hsub g hg))
            .indented
          obtain ⟨text, hdoc, -, hreads⟩ := Json.document_of_readsBack hback
          have hread : Json.read? (String.ofList text).toList = some (Listing.payload groups) := by
            have hnogap : ([] : List Char).all Json.isGap = true := rfl
            have hend := hreads.read? hnogap
            rwa [List.append_nil, ← String.toList_ofList (l := text)] at hend
          rw [Listing.list_document hsel hdoc]
          exact Or.inl ⟨.document group groups _ h hgiven hsel ⟨hdoc, hread⟩, Or.inl rfl⟩
      | false =>
          have hprints := Listing.prints_list host hsel
          have hsilent : Silent (Listing.list host Registry.shipped (group.map Value.text) false) :=
            hprints.silent
          rcases Run.ending_of_returns hprints.returns with ⟨code, hend, rfl⟩ | hfailed
          · refine Or.inl ⟨?_, Or.inl hend⟩
            rw [hsilent]
            exact .table group h hgiven
          · exact Or.inr ⟨hsilent, Or.inr hfailed⟩

theorem answers_doctor {arguments : List String} (h : readCommand arguments = .ok .doctor)
    (host : Host) : AnswersOrSilent arguments (perform host .doctor) := by
  rw [perform]
  have hprints := Diagnostics.prints_run host Registry.shipped
  have hsilent : Silent (Diagnostics.run host Registry.shipped) := hprints.silent
  rcases Run.ending_of_returns hprints.returns with
    ⟨code, hend, rfl | rfl⟩ | hfailed
  · refine Or.inl ⟨?_, Or.inl hend⟩
    rw [hsilent]
    exact .diagnosis h
  · exact Or.inr ⟨hsilent, Or.inl ⟨1, by decide, Or.inl hend⟩⟩
  · exact Or.inr ⟨hsilent, Or.inr hfailed⟩

/-- Doing what the arguments ask for gives an answer or nothing. -/
theorem answers_run (host : Host) (arguments : List String) :
    AnswersOrSilent arguments (run host arguments) := by
  unfold run
  cases h : readCommand arguments with
  | error stop =>
      cases stop with
      | help g =>
          have hknown := grammar_of_readCommand_help h
          have hstdout : (CommandLine.stop (.help g)).stdout = g.helpText := String.append_empty
          refine Or.inl ⟨?_, Or.inr rfl⟩
          rw [hstdout]
          exact .help g h hknown
      | version =>
          have hstdout : (CommandLine.stop .version).stdout = versionLine ++ "\n" :=
            String.append_empty
          refine Or.inl ⟨?_, Or.inr rfl⟩
          rw [hstdout]
          exact .version h
      | refused g fault => exact Or.inr ⟨rfl, Or.inl ⟨2, by decide, Or.inr rfl⟩⟩
  | ok command =>
      cases command with
      | overview =>
          have hstdout : (perform host .overview).stdout = topGrammar.helpText :=
            String.append_empty
          refine Or.inl ⟨?_, Or.inl rfl⟩
          rw [hstdout]
          exact .overview h
      | list group asJson => exact answers_list h host
      | get group name => exact answers_get h host
      | getUnnamed group => exact answers_getUnnamed arguments group host
      | doctor => exact answers_doctor h host

/-- The standard output is clean.  The program is left with a code; if it is the code of success,
    then an answer to the arguments stands on the standard output, otherwise nothing. -/
theorem standard_output (host : Host) (arguments : List String) :
    ∃ code : Int, (program host arguments).ending = .exited (.int code) ∧
      (code = 0 → Answers arguments (program host arguments).stdout) ∧
      (code ≠ 0 → (program host arguments).stdout = "") := by
  have hend := ending_atBoundary host (run host arguments)
  rw [program, stdout_atBoundary]
  rcases answers_run host arguments with
    ⟨hanswer, he | he⟩ | ⟨hsilent, ⟨code, hcode, he | he⟩ | ⟨failure, he⟩⟩
  · rw [he] at hend
    exact ⟨0, hend, fun _ => hanswer, fun h => absurd rfl h⟩
  · rw [he] at hend
    exact ⟨0, hend, fun _ => hanswer, fun h => absurd rfl h⟩
  · rw [he] at hend
    exact ⟨code, hend, fun h => absurd h hcode, fun _ => hsilent⟩
  · rw [he] at hend
    exact ⟨code, hend, fun h => absurd h hcode, fun _ => hsilent⟩
  · rw [he] at hend
    refine ⟨_, hend, fun h => ?_, fun _ => hsilent⟩
    split at h
    · cases h
    · cases h

end CommandLine

end NamedConstants
