import NamedConstants.Proofs.CommandLine.Options
import NamedConstants.Proofs.Listing
import NamedConstants.Proofs.UnknownNames

/-!
# What the arguments amount to

A listing depends on the operands behind its command and on whether JSON is asked for, but not on
where and how often (`list_arguments_exact`).  Behind a separator a look-up takes any two names as
they are, unless the name of the constant is a separator itself: then it gets no name
(`separated_names_looked_up`).
-/

namespace NamedConstants.CommandLine

/-! ## Listings -/

theorem run_of_command {arguments : List String} {command : Command}
    (h : readCommand arguments = .ok command) (host : Host) :
    run host arguments = perform host command := by
  rw [run, h]

theorem run_of_stop {arguments : List String} {reason : Stop}
    (h : readCommand arguments = .error reason) (host : Host) :
    run host arguments = stop reason := by
  rw [run, h]

/-- Refused arguments leave nothing on the standard output. -/
theorem stop_refused (g : Grammar) (fault : UsageFault) :
    stop (.refused g fault) =
      ⟨"", g.usage ++ "\n" ++ (g.program ++ ": error: " ++ fault.message ++ "\n"),
        .exited (.int unexpectedError)⟩ := by
  simp [stop, Run.errLine, Run.exit]

/-- If all arguments behind the command that lists constants are operands or spellings of the
    option that asks for JSON, then at most one operand gives the listing of that group, or of all
    groups without one, as a document exactly if the option occurs at all.  With several operands
    the program leaves without output. -/
theorem list_arguments_exact (host : Host) {args : List String}
    (h : ∀ a ∈ args, IsOperand a ∨ a ∈ jsonSpellings) :
    ((operandsOf args).length ≤ 1 →
      run host ("list" :: args) =
        Listing.list host Registry.shipped ((operandsOf args).head?.map Value.text)
          (decide (0 < args.countP fun a => a ∈ jsonSpellings))) ∧
    (2 ≤ (operandsOf args).length →
      (run host ("list" :: args)).stdout = "" ∧
        (run host ("list" :: args)).ending = .exited (.int 2)) := by
  have hread := readCommand_list h
  have hjson : (args.any fun a => a ∈ jsonSpellings) =
      decide (0 < args.countP fun a => a ∈ jsonSpellings) := by
    rw [Bool.eq_iff_iff, decide_eq_true_eq, List.countP_pos_iff, List.any_eq_true]
  constructor
  · intro hone
    have hnone : (operandsOf args).drop 1 = [] := List.drop_eq_nil_of_le hone
    rw [hnone, hjson] at hread
    exact run_of_command hread host
  · intro htwo
    have hsome : ((operandsOf args).drop 1).isEmpty = false := by
      rw [List.isEmpty_eq_false_iff, ← List.length_pos_iff, List.length_drop]
      omega
    rw [refuseExtras, hsome] at hread
    rw [run_of_stop hread host, stop_refused]
    exact ⟨rfl, rfl⟩

/-- An empty name between shortened spellings of the option, no operand at all, and two operands
    around an option. -/
theorem list_arguments_exact_mixed :
    run .standard ["list", "--js", "", "--json", "--j"] =
        Listing.list .standard Registry.shipped (some (.text "")) true ∧
      run .standard ["list"] = Listing.list .standard Registry.shipped none false ∧
      (run .standard ["list", "ErrorCode", "--json", "x"]).stdout = "" ∧
      (run .standard ["list", "ErrorCode", "--json", "x"]).ending = .exited (.int 2) := by
  have hname : ∀ a ∈ ["--js", "", "--json", "--j"], IsOperand a ∨ a ∈ jsonSpellings := by decide
  have hnone : ∀ a ∈ ([] : List String), IsOperand a ∨ a ∈ jsonSpellings := by decide
  have htwo : ∀ a ∈ ["ErrorCode", "--json", "x"], IsOperand a ∨ a ∈ jsonSpellings := by decide
  exact ⟨(list_arguments_exact .standard hname).1 (by decide),
    (list_arguments_exact .standard hnone).1 (by decide),
    (list_arguments_exact .standard htwo).2 (by decide)⟩

/-! ## Look-ups -/

/-- No shipped constant has a separator for its name, nor an empty list. -/
theorem get_separator {group : String} {g : Group}
    (h : Registry.shipped.find? (.text group) = some g) :
    Registry.shipped.get (.text group) (.text "--") =
        .error (.unknownConstant (.text "--") (.text group) g.names) ∧
      Registry.shipped.get (.text group) (.list []) =
        .error (.unknownConstant (.list []) (.text group) g.names) := by
  have hseparator : ∀ c ∈ GroupClass.shippedGroups,
      (Group.ofClass c).get? (.text "--") = none := by
    simp only [GroupClass.shippedGroups, List.forall_mem_cons, List.not_mem_nil, false_imp_iff,
      implies_true, and_true]
    exact ⟨rfl, rfl, rfl⟩
  obtain ⟨c, hc, rfl, -⟩ := exists_shipped_of_find? h
  have hnothing : (Group.ofClass c).get? (.list []) = none := by
    rw [Option.eq_none_iff_forall_ne_some]
    intro value hvalue
    exact absurd (Group.isText_of_get? hvalue) (by decide)
  rw [Registry.get_of_find? h, Registry.get_of_find? h, hseparator c hc, hnothing]
  exact ⟨rfl, rfl⟩

/-- A message about an unknown constant shows whether a separator was asked for or nothing. -/
theorem message_unnamed_ne (group : Value) (names : List Value) :
    (Failure.unknownConstant (.list []) group names).message ≠
      (Failure.unknownConstant (.text "--") group names).message := by
  have hmessage : ∀ asked : Value, (Failure.unknownConstant asked group names).message =
      "Unknown constant " ++ asked.quoted ++ " in group " ++ group.quoted ++ "." := fun _ => rfl
  intro h
  have hlength := congrArg String.length h
  have hnothing : (Value.list []).quoted.length = 2 := rfl
  have hseparator : (Value.text "--").quoted.length = 4 := by decide +kernel
  simp only [hmessage, String.length_append, Nat.add_right_cancel_iff, hnothing,
    hseparator] at hlength
  omega

/-- Behind a separator any two names are looked up as they are, whatever they look like, except
    that a separator in the place of the constant's name is taken for no name at all.  This can
    be told from the message exactly if there is the group. -/
theorem separated_names_looked_up (host : Host) (group name : String) :
    (run host ["get", "--", group, name] =
        Listing.get Registry.shipped (.text group) (.text name) ↔
      name ≠ "--" ∨ Registry.shipped.find? (.text group) = none) ∧
    ∀ g, Registry.shipped.find? (.text group) = some g →
      ∃ failure expected : Failure,
        run host ["get", "--", group, "--"] = Run.fail failure ∧
          Listing.get Registry.shipped (.text group) (.text "--") = Run.fail expected ∧
          failure.message = "Unknown constant [] in group " ++ (Value.text group).quoted ++ "." ∧
          expected.message = "Unknown constant '--' in group " ++ (Value.text group).quoted ++ "." ∧
          failure.message ≠ expected.message := by
  have hrun : ∀ name : String, run host ["get", "--", group, name] =
      Listing.get Registry.shipped (.text group) (if name = "--" then .list [] else .text name) := by
    intro name
    rw [run_of_command (readCommand_separated group name)]
    split <;> rfl
  have hfails : ∀ g, Registry.shipped.find? (.text group) = some g →
      run host ["get", "--", group, "--"] =
          Run.fail (.unknownConstant (.list []) (.text group) g.names) ∧
        Listing.get Registry.shipped (.text group) (.text "--") =
          Run.fail (.unknownConstant (.text "--") (.text group) g.names) := by
    intro g hg
    obtain ⟨hseparator, hnothing⟩ := get_separator hg
    rw [hrun, if_pos rfl]
    exact ⟨Listing.get_of_error hnothing, Listing.get_of_error hseparator⟩
  constructor
  · constructor
    · intro hsame
      by_contra hboth
      obtain ⟨rfl, hfound⟩ : name = "--" ∧ Registry.shipped.find? (.text group) ≠ none := by
        simpa using hboth
      obtain ⟨g, hg⟩ := Option.ne_none_iff_exists'.mp hfound
      obtain ⟨hfailure, hexpected⟩ := hfails g hg
      rw [hfailure, hexpected] at hsame
      have hmessages := congrArg Failure.message (Ending.failed.inj (congrArg Run.ending hsame))
      exact message_unnamed_ne _ _ hmessages
    · rintro (hname | hgroup)
      · rw [hrun, if_neg hname]
      · rw [hrun, Listing.get_of_error (Registry.get_of_not_find? hgroup _),
          Listing.get_of_error (Registry.get_of_not_find? hgroup _)]
  · intro g hg
    obtain ⟨hfailure, hexpected⟩ := hfails g hg
    exact ⟨_, _, hfailure, hexpected, rfl, rfl, message_unnamed_ne _ _⟩

/-- Names that look like options, and a separator for each of the names. -/
theorem separated_names_looked_up_odd :
    run .standard ["get", "--", "--help", "--json"] =
        Listing.get Registry.shipped (.text "--help") (.text "--json") ∧
      run .standard ["get", "--", "--", "--"] =
        Listing.get Registry.shipped (.text "--") (.text "--") ∧
      Registry.shipped.find? (.text "ErrorCode") = some (Group.ofClass .errorCode) ∧
      run .standard ["get", "--", "ErrorCode", "--"] ≠
        Listing.get Registry.shipped (.text "ErrorCode") (.text "--") := by
  have hfound : Registry.shipped.find? (.text "ErrorCode") = some (Group.ofClass .errorCode) := rfl
  obtain ⟨f, f', hfailure, hexpected, -, -, hne⟩ :=
    (separated_names_looked_up .standard "ErrorCode" "--").2 _ hfound
  refine ⟨?_, ?_, hfound, ?_⟩
  · exact (separated_names_looked_up .standard "--help" "--json").1.mpr (Or.inl (by decide))
  · exact (separated_names_looked_up .standard "--" "--").1.mpr (Or.inr (by decide))
  · rw [hfailure, hexpected]
    intro hsame
    exact hne (congrArg Failure.message (Ending.failed.inj (congrArg Run.ending hsame)))

/-- A look-up of a constant that has a separator for its name is told about as one of an empty
    list. -/
theorem separator_not_looked_up :
    ∃ failure expected : Failure,
      run .standard ["get", "--", "ErrorCode", "--"] = Run.fail failure ∧
        Listing.get Registry.shipped (.text "ErrorCode") (.text "--") = Run.fail expected ∧
        failure.message = "Unknown constant [] in group 'ErrorCode'." ∧
        expected.message = "Unknown constant '--' in group 'ErrorCode'." ∧
        failure.message ≠ expected.message := by
  have hfound : Registry.shipped.find? (.text "ErrorCode") = some (Group.ofClass .errorCode) := rfl
  obtain ⟨hseparator, hnothing⟩ := get_separator hfound
  refine ⟨_, _, ?_, Listing.get_of_error hseparator, rfl, rfl, message_unnamed_ne _ _⟩
  rw [run_of_command (readCommand_separated "ErrorCode" "--"), if_pos rfl]
  exact Listing.get_of_error hnothing

end NamedConstants.CommandLine
