import Mathlib.Data.List.TakeWhile
import NamedConstants.Proofs.CommandLine.Reading

/-!
# Operands on the command line

All that stands behind the name of a command is left to the grammar of the command
(`readCommand_of_parse`).  There, arguments that do not start with a hyphen go to the operands in
their order, so the names behind a command are read as they are given (`readCommand_get`).  Behind
a separator this holds of all names but the separator itself (`readCommand_separated`).
-/

namespace NamedConstants.CommandLine

/-- An argument does not start with a hyphen. -/
def IsOperand (a : String) : Prop :=
  a.toList.head? ≠ some '-'

instance (a : String) : Decidable (IsOperand a) :=
  inferInstanceAs (Decidable (a.toList.head? ≠ some '-'))

theorem IsOperand.ne_separator {a : String} (h : IsOperand a) : a ≠ "--" := by
  rintro rfl
  exact h rfl

theorem markOf_of_isOperand (g : Grammar) {a : String} (h : IsOperand a) :
    markOf g a = .ok .operand := by
  unfold markOf
  unfold IsOperand at h
  cases hs : a.toList with
  | nil => rfl
  | cons c rest =>
      have hc : c ≠ '-' := by simpa [hs] using h
      dsimp only
      rw [if_pos hc]

/-- An argument that is an operand. -/
def operandOf (a : String) : Argument := ⟨a, .operand⟩

/-- Without a separator every argument is marked for itself. -/
theorem classify_of_markOf (g : Grammar) (mark : String → Mark) {args : List String}
    (h : ∀ a ∈ args, a ≠ "--" ∧ markOf g a = .ok (mark a)) :
    classify g args = .ok (args.map fun a => ⟨a, mark a⟩) := by
  induction args with
  | nil => rfl
  | cons a args ih =>
      obtain ⟨hne, hmark⟩ := h a (List.mem_cons_self ..)
      rw [classify, if_neg hne, hmark, ih fun b hb => h b (List.mem_cons_of_mem _ hb)]
      rfl

theorem classify_of_isOperand (g : Grammar) {args : List String} (h : ∀ a ∈ args, IsOperand a) :
    classify g args = .ok (args.map operandOf) :=
  classify_of_markOf g (fun _ => .operand) fun a ha =>
    ⟨(h a ha).ne_separator, markOf_of_isOperand g (h a ha)⟩

/-- Operands alone are handed to the operands of the grammar; what these leave is left over. -/
theorem read_of_operands (g : Grammar) (p : Progress) (args : List String) :
    Progress.read g p (args.map operandOf) =
      .ok { (p.fill (args.map operandOf)).1 with
        extras := (p.fill (args.map operandOf)).1.extras ++
          (p.fill (args.map operandOf)).2.map (·.text) } :=
  read_of_forall_not_isOption g (List.forall_mem_map.mpr fun _ _ => rfl)

theorem spanSeparators_of_forall_ne {args : List Argument} (h : ∀ a ∈ args, a.mark ≠ .separator) :
    spanSeparators args = ([], args) := by
  cases args with
  | nil => rfl
  | cons a args =>
      have ha := h a (List.mem_cons_self ..)
      simp [spanSeparators, List.span_eq_takeWhile_dropWhile, ha]

theorem spanSeparators_operands (args : List String) :
    spanSeparators (args.map operandOf) = ([], args.map operandOf) :=
  spanSeparators_of_forall_ne (List.forall_mem_map.mpr fun _ _ => by simp [operandOf])

/-- An operand that needs an argument takes the first of several. -/
theorem take?_required (name a : String) (args : List String) :
    (Operand.required name).take? ((a :: args).map operandOf) =
      some ([operandOf a], args.map operandOf) := by
  have hmark : (operandOf a).mark = .operand := rfl
  rw [Operand.take?, spanSeparators_operands, List.map_cons]
  dsimp only
  rw [if_pos hmark, spanSeparators_operands]
  rfl

/-- Operands that need an argument each are filled with operands one by one. -/
theorem fillOperands_required (names : List String) {args : List String}
    (h : ∀ a ∈ args, IsOperand a) (hlen : args.length = names.length) :
    fillOperands (names.map Operand.required) (args.map operandOf) =
      (args.map fun a => [a], [], []) := by
  induction names generalizing args with
  | nil =>
      obtain rfl := List.length_eq_zero_iff.mp hlen
      rfl
  | cons name names ih =>
      cases args with
      | nil => cases hlen
      | cons a args =>
          have ha := (h a (List.mem_cons_self ..)).ne_separator
          have hvalues : (Operand.required name).values [a] = [a] := by
            simp [Operand.values, List.erase_of_not_mem, Ne.symm ha]
          have hrest := ih (fun b hb => h b (List.mem_cons_of_mem _ hb)) (Nat.succ.inj hlen)
          rw [List.map_cons, fillOperands, take?_required]
          dsimp only
          rw [List.map_cons, List.map_nil, operandOf, hvalues, hrest]
          rfl

/-! ## Behind the name of a command -/

/-- A command takes everything from its name on. -/
theorem take?_command (o : String) {a : Argument} (ha : a.mark = .operand)
    (args : List Argument) : (Operand.command o).take? (a :: args) = some (a :: args, []) := by
  have hspan : spanSeparators (a :: args) = ([], a :: args) := by
    simp [spanSeparators, List.span_eq_takeWhile_dropWhile, ha]
  rw [Operand.take?, hspan]
  dsimp only
  rw [if_pos ha]

/-- Where a command may stand, it is filled with everything from its name on, options
    included. -/
theorem read_command (g : Grammar) (o : String) {a : Argument} (ha : a.mark = .operand)
    (args : List Argument) :
    Progress.read g ⟨[.command o], [], [], []⟩ (a :: args) =
      .ok ⟨[], [(a :: args).map (·.text)], [], []⟩ := by
  have hfill : Progress.fill ⟨[.command o], [], [], []⟩ (a :: args) =
      (⟨[], [(a :: args).map (·.text)], [], []⟩, []) := by
    simp [Progress.fill, fillOperands, take?_command o ha, Operand.values]
  have hoperand : a.mark.isOption = false := by
    rw [ha]
    rfl
  rw [read_of_fill g hoperand hfill (List.nil_suffix ..) rfl]
  exact read_of_forall_not_isOption g (List.forall_mem_nil _)

/-- A command line is read whole if its arguments are and no operand that must be filled is
    pending. -/
theorem parse_of_read {g : Grammar} {args : List String} {marked : List Argument} {p : Progress}
    (hclassify : classify g args = .ok marked)
    (hread : Progress.read g ⟨g.operands, [], [], []⟩ marked = .ok p)
    (hpending : requiredNames p.pending = []) : g.parse args = .ok p := by
  rw [Grammar.parse, hclassify]
  dsimp only
  rw [hread]
  dsimp only
  rw [hpending]

/-- What stands behind the name of a command is read with the grammar of the command. -/
theorem readCommand_of_parse {name : String} {rest : List String} {marked : List Argument}
    {g : Grammar} {p : Progress} (hname : IsOperand name)
    (hclassify : classify topGrammar rest = .ok marked)
    (hfind : commandGrammars.find? (fun c => c.1 == name) = some (name, g))
    (hp : g.parse rest = .ok p) :
    readCommand (name :: rest) = refuseExtras p.extras (commandOf name p) := by
  have hmarked : classify topGrammar (name :: rest) = .ok (operandOf name :: marked) := by
    rw [classify, if_neg hname.ne_separator, markOf_of_isOperand _ hname, hclassify]
    rfl
  have htop : topGrammar.parse (name :: rest) = .ok ⟨[], [name :: rest], [], []⟩ := by
    have hread := read_command topGrammar "COMMAND" (a := operandOf name) rfl marked
    rw [map_text_of_classify hmarked] at hread
    exact parse_of_read hmarked hread rfl
  rw [readCommand, htop]
  dsimp only
  rw [hfind]
  dsimp only
  rw [hp]
  rfl

/-- The names behind the command that gets a constant are read as they are given. -/
theorem readCommand_get {group name : String} (hg : IsOperand group) (hn : IsOperand name) :
    readCommand ["get", group, name] = .ok (.get group name) := by
  have hnames : ∀ a ∈ [group, name], IsOperand a := by
    intro a ha
    rcases List.mem_cons.mp ha with rfl | ha
    · exact hg
    · rw [List.mem_singleton.mp ha]
      exact hn
  have hget : getGrammar.parse [group, name] = .ok ⟨[], [[group], [name]], [], []⟩ := by
    have hfill : fillOperands getGrammar.operands ([group, name].map operandOf) =
        ([[group], [name]], [], []) :=
      fillOperands_required ["group", "name"] hnames rfl
    refine parse_of_read (classify_of_isOperand _ hnames) ?_ rfl
    rw [read_of_operands, Progress.fill, hfill]
    rfl
  exact readCommand_of_parse (by decide) (classify_of_isOperand _ hnames) rfl hget

/-! ## Behind a separator -/

/-- Behind a separator every argument is an operand, whatever it looks like. -/
theorem classify_separated (g : Grammar) (args : List String) :
    classify g ("--" :: args) = .ok (⟨"--", .separator⟩ :: args.map operandOf) := by
  rw [classify, if_pos rfl]
  rfl

/-- The first operand takes the separator along, which is dropped again.  A separator in the place
    of the second operand is dropped just the same. -/
theorem fillOperands_separated (group name : String) :
    fillOperands getGrammar.operands (⟨"--", .separator⟩ :: [group, name].map operandOf) =
      ([[group], [name].erase "--"], [], []) := by
  have hgroup : (Operand.required "group").values ["--", group] = [group] :=
    List.erase_cons_head "--" [group]
  have hname : (Operand.required "name").values [name] = [name].erase "--" := rfl
  have htake : (Operand.required "group").take?
      (⟨"--", .separator⟩ :: [group, name].map operandOf) =
        some ([⟨"--", .separator⟩, operandOf group], [operandOf name]) := rfl
  change fillOperands [.required "group", .required "name"] _ = _
  rw [fillOperands, htake]
  dsimp only
  rw [List.map_cons, List.map_cons, List.map_nil]
  dsimp only [operandOf]
  rw [hgroup, ← hname]
  rfl

/-- The names behind a separator are read as they are given, but a constant that has the
    separator for its name is left without one. -/
theorem readCommand_separated (group name : String) :
    readCommand ["get", "--", group, name] =
      .ok (if name = "--" then .getUnnamed group else .get group name) := by
  have hget : getGrammar.parse ["--", group, name] =
      .ok ⟨[], [[group], [name].erase "--"], [], []⟩ := by
    have hmarks : ∀ a ∈ ⟨"--", .separator⟩ :: [group, name].map operandOf,
        a.mark.isOption = false :=
      List.forall_mem_cons.mpr ⟨rfl, List.forall_mem_map.mpr fun _ _ => rfl⟩
    refine parse_of_read (classify_separated _ _) ?_ rfl
    rw [read_of_forall_not_isOption getGrammar hmarks, Progress.fill, fillOperands_separated]
    rfl
  rw [readCommand_of_parse (by decide) (classify_separated _ _) rfl hget]
  by_cases hn : name = "--"
  · subst hn
    rfl
  · rw [List.erase_of_not_mem (by simpa using Ne.symm hn), if_neg hn]
    rfl

end NamedConstants.CommandLine
