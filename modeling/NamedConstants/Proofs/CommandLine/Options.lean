import NamedConstants.Proofs.CommandLine.Operands

/-!
# Asking for JSON

The option that asks for JSON may stand anywhere behind the command that lists constants, as often
as one likes and cut short.  Each step of reading keeps the operands and the options apart: the
first operand goes to the group, an option is recorded, and what follows the first operand is left
over (`read_listArguments`).  So the command depends on the operands in their order and on whether
there is an option (`readCommand_list`).
-/

namespace NamedConstants.CommandLine

/-- The spellings of the option that asks for JSON, in full and cut short. -/
def jsonSpellings : List String :=
  ["--j", "--js", "--jso", "--json"]

/-- The option that asks for JSON, as it is read from any of its spellings. -/
def jsonOption : Spelled :=
  ⟨jsonFlag, "--json".toList, none⟩

theorem not_isOperand_of_mem_jsonSpellings {a : String} (h : a ∈ jsonSpellings) :
    ¬IsOperand a := by
  have hall : ∀ b ∈ jsonSpellings, ¬IsOperand b := by decide
  exact hall a h

theorem ne_separator_of_mem_jsonSpellings {a : String} (h : a ∈ jsonSpellings) : a ≠ "--" := by
  rintro rfl
  exact absurd h (by decide)

/-- In front of the command no option asks for JSON. -/
theorem markOf_topGrammar {a : String} (h : a ∈ jsonSpellings) :
    markOf topGrammar a = .ok .unknownOption := by
  have hall : ∀ b ∈ jsonSpellings, markOf topGrammar b = .ok .unknownOption := by
    simp only [jsonSpellings, List.forall_mem_cons, List.not_mem_nil, false_imp_iff, implies_true]
    exact ⟨rfl, rfl, rfl, rfl, trivial⟩
  exact hall a h

theorem markOf_listGrammar {a : String} (h : a ∈ jsonSpellings) :
    markOf listGrammar a = .ok (.option jsonOption) := by
  have hall : ∀ b ∈ jsonSpellings, markOf listGrammar b = .ok (.option jsonOption) := by
    simp only [jsonSpellings, List.forall_mem_cons, List.not_mem_nil, false_imp_iff, implies_true]
    exact ⟨rfl, rfl, rfl, rfl, trivial⟩
  exact hall a h

/-- The arguments of a listing are operands and spellings of the option that asks for JSON. -/
def AreListArguments (args : List String) : Prop :=
  ∀ a ∈ args, IsOperand a ∨ a ∈ jsonSpellings

/-- What an argument of a listing is, given what the option that asks for JSON is. -/
def listMark (option : Mark) (a : String) : Mark :=
  if IsOperand a then .operand else option

/-- An argument of a listing as the command that lists constants reads it. -/
def listArgument (a : String) : Argument :=
  ⟨a, listMark (.option jsonOption) a⟩

theorem listArgument_of_isOperand {a : String} (h : IsOperand a) : listArgument a = operandOf a := by
  rw [listArgument, listMark, if_pos h]
  rfl

theorem listArgument_of_not_isOperand {a : String} (h : ¬IsOperand a) :
    listArgument a = ⟨a, .option jsonOption⟩ := by
  rw [listArgument, listMark, if_neg h]

/-- The arguments of a listing are marked alike wherever they stand. -/
theorem classify_listArguments {g : Grammar} {option : Mark}
    (hoption : ∀ a ∈ jsonSpellings, markOf g a = .ok option) {args : List String}
    (h : AreListArguments args) :
    classify g args = .ok (args.map fun a => ⟨a, listMark option a⟩) := by
  apply classify_of_markOf
  intro a ha
  obtain hop | hjson := h a ha
  · rw [listMark, if_pos hop]
    exact ⟨hop.ne_separator, markOf_of_isOperand g hop⟩
  · rw [listMark, if_neg (not_isOperand_of_mem_jsonSpellings hjson)]
    exact ⟨ne_separator_of_mem_jsonSpellings hjson, hoption a hjson⟩

theorem spanSeparators_listArguments (args : List String) :
    spanSeparators (args.map listArgument) = ([], args.map listArgument) := by
  apply spanSeparators_of_forall_ne
  rw [List.forall_mem_map]
  intro a _
  by_cases ha : IsOperand a
  · simp [listArgument_of_isOperand ha, operandOf]
  · simp [listArgument_of_not_isOperand ha]

/-! ## Steps -/

section Steps

variable {p : Progress} {a : String} (rest : List String)

theorem takeOption_json (p : Progress) (a : String) :
    p.takeOption listGrammar ⟨a, .option jsonOption⟩ =
      .ok { p with actions := p.actions ++ [.json] } := by
  simp [Progress.takeOption, jsonOption, jsonFlag, chain, Progress.run]

/-- An option is recorded, wherever it stands. -/
theorem read_option (ha : ¬IsOperand a) :
    p.read listGrammar ((a :: rest).map listArgument) =
      Progress.read listGrammar { p with actions := p.actions ++ [.json] }
        (rest.map listArgument) := by
  rw [List.map_cons, listArgument_of_not_isOperand ha, read_of_isOption _ rfl, takeOption_json]
  rfl

/-- The first operand goes to the group. -/
theorem read_group (hp : p.pending = [.optional "group"]) (ha : IsOperand a) :
    p.read listGrammar ((a :: rest).map listArgument) =
      Progress.read listGrammar { p with pending := [], filled := p.filled ++ [[a]] }
        (rest.map listArgument) := by
  have htake : (Operand.optional "group").take? (operandOf a :: rest.map listArgument) =
      some ([operandOf a], rest.map listArgument) := by
    have hfront : spanSeparators (operandOf a :: rest.map listArgument) =
        ([], operandOf a :: rest.map listArgument) := rfl
    have hmark : (operandOf a).mark = .operand := rfl
    rw [Operand.take?, hfront]
    dsimp only
    rw [if_pos hmark, spanSeparators_listArguments]
    rfl
  have hvalues : (Operand.optional "group").values [a] = [a] :=
    List.erase_of_not_mem (by simpa using ha.ne_separator.symm)
  have hfill : p.fill (operandOf a :: rest.map listArgument) =
      ({ p with pending := [], filled := p.filled ++ [[a]] }, rest.map listArgument) := by
    rw [Progress.fill, hp, fillOperands, htake]
    dsimp only [fillOperands]
    rw [List.map_cons, List.map_nil, operandOf, hvalues]
  rw [List.map_cons, listArgument_of_isOperand ha]
  exact read_of_fill _ rfl hfill (List.suffix_refl _) rfl

/-- Further operands are left over. -/
theorem read_extra (hp : p.pending = []) (ha : IsOperand a) :
    p.read listGrammar ((a :: rest).map listArgument) =
      Progress.read listGrammar { p with extras := p.extras ++ [a] } (rest.map listArgument) := by
  rw [List.map_cons, listArgument_of_isOperand ha, read_of_pending_eq_nil _ hp rfl]
  rfl

end Steps

/-! ## Whole lists of arguments -/

/-- The operands among the arguments of a listing, in their order. -/
def operandsOf (args : List String) : List String :=
  args.filter fun a => IsOperand a

/-- One action for each option among the arguments of a listing. -/
def jsonActions (args : List String) : List Action :=
  (args.filter fun a => ¬IsOperand a).map fun _ => .json

/-- Once the group is filled, options are recorded and operands are left over. -/
theorem read_filled {p : Progress} (hp : p.pending = []) (args : List String) :
    p.read listGrammar (args.map listArgument) =
      .ok { p with
        actions := p.actions ++ jsonActions args
        extras := p.extras ++ operandsOf args } := by
  induction args generalizing p with
  | nil =>
      rw [List.map_nil, read_of_forall_not_isOption _ (List.forall_mem_nil _),
        fill_of_pending_eq_nil hp]
      simp [jsonActions, operandsOf]
  | cons a args ih =>
      by_cases ha : IsOperand a
      · rw [read_extra args hp ha, ih (by exact hp)]
        simp [jsonActions, operandsOf, ha]
      · rw [read_option args ha, ih (by exact hp)]
        simp [jsonActions, operandsOf, ha]

/-- The group is filled with the first operand, or with nothing at the end, however many options
    stand in front of it. -/
theorem read_listArguments {p : Progress} (hp : p.pending = [.optional "group"])
    (args : List String) :
    p.read listGrammar (args.map listArgument) =
      .ok {
        pending := []
        filled := p.filled ++ [(operandsOf args).take 1]
        actions := p.actions ++ jsonActions args
        extras := p.extras ++ (operandsOf args).drop 1 } := by
  induction args generalizing p with
  | nil =>
      have hfill : p.fill [] = ({ p with pending := [], filled := p.filled ++ [[]] }, []) := by
        rw [Progress.fill, hp]
        rfl
      rw [List.map_nil, read_of_forall_not_isOption _ (List.forall_mem_nil _), hfill]
      simp [jsonActions, operandsOf]
  | cons a args ih =>
      by_cases ha : IsOperand a
      · rw [read_group args hp ha, read_filled rfl]
        simp [jsonActions, operandsOf, ha]
      · rw [read_option args ha, ih (by exact hp)]
        simp [jsonActions, operandsOf, ha]

/-- The command that the arguments of a listing ask for: the first operand is its group, and any
    further operand makes the arguments be refused. -/
theorem readCommand_list {args : List String} (h : AreListArguments args) :
    readCommand ("list" :: args) =
      refuseExtras ((operandsOf args).drop 1)
        (.list (operandsOf args).head? (args.any fun a => a ∈ jsonSpellings)) := by
  have hlist : listGrammar.parse args = .ok {
      pending := []
      filled := [(operandsOf args).take 1]
      actions := jsonActions args
      extras := (operandsOf args).drop 1 } :=
    parse_of_read (classify_listArguments (fun _ => markOf_listGrammar) h)
      (read_listArguments rfl args) rfl
  have hgroup : [(operandsOf args).take 1].flatten.head? = (operandsOf args).head? := by
    cases operandsOf args <;> rfl
  have hjson : (jsonActions args).contains .json = args.any fun a => a ∈ jsonSpellings := by
    have hkind : ∀ a ∈ args, ¬IsOperand a ↔ a ∈ jsonSpellings := fun a ha =>
      ⟨(h a ha).resolve_left, not_isOperand_of_mem_jsonSpellings⟩
    rw [Bool.eq_iff_iff]
    simp only [jsonActions, List.contains_iff_mem, List.mem_map, List.mem_filter, List.any_eq_true,
      decide_eq_true_eq, and_true]
    exact exists_congr fun a => and_congr_right (hkind a)
  rw [readCommand_of_parse (by decide) (classify_listArguments (fun _ => markOf_topGrammar) h) rfl
    hlist, commandOf, hgroup, hjson]

end NamedConstants.CommandLine
