import Mathlib.Data.List.TakeDrop
import Mathlib.Data.List.TakeWhile
import NamedConstants.CommandLine.Command
import NamedConstants.Proofs.Run

/-!
# What reading a command line preserves

Operands are filled with arguments of the program, in their order (`sublist_of_parse`).  If the
help text is asked for, it is that of the grammar that reads (`isOf_parse`).  So the names that a
command holds are arguments behind its own name (`sublist_of_readCommand_get`).
-/

namespace NamedConstants.CommandLine

theorem map_text_of_classify {g : Grammar} {arguments : List String} {args : List Argument}
    (h : classify g arguments = .ok args) : args.map (·.text) = arguments := by
  induction arguments generalizing args with
  | nil =>
      obtain rfl := Except.ok.inj h
      rfl
  | cons a arguments ih =>
      rw [classify] at h
      by_cases ha : a = "--"
      · rw [if_pos ha] at h
        obtain rfl := Except.ok.inj h
        rw [List.map_cons, List.map_map]
        exact congrArg (a :: ·) (List.map_id arguments)
      · rw [if_neg ha] at h
        obtain ⟨mark, -, h⟩ := exists_of_bind_ok h
        obtain ⟨others, hothers, h⟩ := exists_of_bind_ok h
        obtain rfl := Except.ok.inj h
        rw [List.map_cons, ih hothers]

/-! ## Operands -/

theorem spanSeparators_append (args : List Argument) :
    (spanSeparators args).1 ++ (spanSeparators args).2 = args := by
  rw [spanSeparators, List.span_eq_takeWhile_dropWhile]
  exact List.takeWhile_append_dropWhile

/-- What an operand takes stands in front of what it leaves. -/
theorem take?_append {o : Operand} {args taken left : List Argument}
    (h : o.take? args = some (taken, left)) : taken ++ left = args := by
  have hspan := spanSeparators_append args
  unfold Operand.take? at h
  dsimp only at h
  cases hrest : (spanSeparators args).2 with
  | nil =>
      rw [hrest] at h hspan
      cases o with
      | optional name =>
          obtain ⟨rfl, rfl⟩ := Prod.mk.inj (Option.some.inj h)
          exact hspan
      | _ => cases h
  | cons a rest =>
      rw [hrest] at h hspan
      dsimp only at h
      by_cases ha : a.mark = .operand
      · rw [if_pos ha] at h
        cases o with
        | command name =>
            obtain ⟨rfl, rfl⟩ := Prod.mk.inj (Option.some.inj h)
            exact List.append_nil args
        | _ =>
            obtain ⟨rfl, rfl⟩ := Prod.mk.inj (Option.some.inj h)
            rw [List.append_assoc, List.cons_append, spanSeparators_append, hspan]
      · rw [if_neg ha] at h
        cases o with
        | optional name =>
            obtain ⟨rfl, rfl⟩ := Prod.mk.inj (Option.some.inj h)
            exact hspan
        | _ => cases h

theorem values_sublist (o : Operand) (taken : List String) : (o.values taken).Sublist taken := by
  cases o with
  | command name => exact List.Sublist.refl _
  | optional name => exact List.erase_sublist
  | required name => exact List.erase_sublist

/-- Operands are filled from the front of the arguments, each behind the one before it. -/
theorem sublist_of_fillOperands {operands pending : List Operand} {args left : List Argument}
    {filled : List (List String)} (h : fillOperands operands args = (filled, pending, left)) :
    ∃ front, args = front ++ left ∧ filled.flatten.Sublist (front.map (·.text)) := by
  induction operands generalizing args filled pending with
  | nil =>
      obtain ⟨rfl, -, rfl⟩ : [] = filled ∧ [] = pending ∧ args = left := by
        simpa [fillOperands] using h
      exact ⟨[], rfl, List.Sublist.refl _⟩
  | cons o operands ih =>
      rw [fillOperands] at h
      cases htake : o.take? args with
      | none =>
          rw [htake] at h
          obtain ⟨rfl, -, rfl⟩ : [] = filled ∧ o :: operands = pending ∧ args = left := by
            simpa using h
          exact ⟨[], rfl, List.Sublist.refl _⟩
      | some both =>
          obtain ⟨taken, others⟩ := both
          rw [htake] at h
          rcases hrest : fillOperands operands others with ⟨filled', pending', left'⟩
          simp only [hrest] at h
          obtain ⟨rfl, -, rfl⟩ : o.values (taken.map (·.text)) :: filled' = filled ∧
              pending' = pending ∧ left' = left := by
            simpa using h
          obtain ⟨front, rfl, hfront⟩ := ih hrest
          refine ⟨taken ++ front, ?_, ?_⟩
          · rw [List.append_assoc, take?_append htake]
          · rw [List.flatten_cons, List.map_append]
            exact (values_sublist o _).append hfront

/-! ## Steps of reading -/

section Steps

variable {p : Progress} {a : Argument} {args : List Argument}

/-- With all operands filled, further arguments fill nothing. -/
theorem fill_of_pending_eq_nil (hp : p.pending = []) (args : List Argument) :
    p.fill args = (p, args) := by
  obtain ⟨pending, filled, actions, extras⟩ := p
  obtain rfl : pending = [] := hp
  simp [Progress.fill, fillOperands]

variable (g : Grammar)

/-- Where no options are left, the operands are filled for the last time. -/
theorem read_of_forall_not_isOption (h : ∀ b ∈ args, b.mark.isOption = false) :
    p.read g args = .ok { (p.fill args).1 with
      extras := (p.fill args).1.extras ++ (p.fill args).2.map (·.text) } := by
  have hnone : args.dropWhile (fun b => !b.mark.isOption) = [] := by
    rw [List.dropWhile_eq_nil_iff]
    intro b hb
    rw [h b hb]
    rfl
  rw [Progress.read]
  split
  · rfl
  · rename_i hsome
    rw [hnone] at hsome
    cases hsome

/-- An option in front acts at once. -/
theorem read_of_isOption (ha : a.mark.isOption = true) (args : List Argument) :
    p.read g (a :: args) = (p.takeOption g a).bind fun q => q.read g args := by
  have hdrop : (a :: args).dropWhile (fun b => !b.mark.isOption) = a :: args :=
    List.dropWhile_cons_of_neg (by simp [ha])
  have hbefore : ((a :: args).takeWhile fun b => !b.mark.isOption).isEmpty = true := by simp [ha]
  rw [Progress.read]
  split
  · rename_i hnone
    rw [hdrop] at hnone
    cases hnone
  · rename_i hsome
    obtain ⟨rfl, rfl⟩ := List.cons.inj (hdrop.symm.trans hsome)
    rw [if_pos hbefore]
    cases p.takeOption g a <;> rfl

/-- If an operand in front fills all that is pending, reading goes on behind what was taken. -/
theorem read_of_fill {q : Progress} {left : List Argument} (ha : a.mark.isOption = false)
    (hfill : p.fill (a :: args) = (q, left)) (hleft : left <:+ args) (hq : q.pending = []) :
    p.read g (a :: args) = q.read g left := by
  have hbefore : ((a :: args).takeWhile fun b => !b.mark.isOption).isEmpty = false := by simp [ha]
  have hless : left.length < (a :: args).length := Nat.lt_succ_of_le hleft.length_le
  rw [Progress.read]
  split
  · rename_i hnone
    have hmarks : ∀ b ∈ left, b.mark.isOption = false := by
      intro b hb
      simpa using List.dropWhile_eq_nil_iff.mp hnone b (List.mem_cons_of_mem a (hleft.mem hb))
    rw [read_of_forall_not_isOption g hmarks, fill_of_pending_eq_nil hq, hfill]
  · rw [hfill]
    simp only [hbefore, Bool.false_eq_true, if_false, hless, if_true]

/-- With all operands filled, the arguments in front of an option are left over. -/
theorem read_append_of_pending_eq_nil (hp : p.pending = []) {before : List Argument}
    (hbefore : ∀ b ∈ before, b.mark.isOption = false) (ha : a.mark.isOption = true)
    (args : List Argument) :
    p.read g (before ++ a :: args) =
      (Progress.takeOption g { p with extras := p.extras ++ before.map (·.text) } a).bind
        fun q => q.read g args := by
  have hmarks : ∀ b ∈ before, (!b.mark.isOption) = true := by
    intro b hb
    rw [hbefore b hb]
    rfl
  have hdrop : (before ++ a :: args).dropWhile (fun b => !b.mark.isOption) = a :: args := by
    simp [List.dropWhile_append_of_pos hmarks, ha]
  have htake : (before ++ a :: args).takeWhile (fun b => !b.mark.isOption) = before := by
    simp [List.takeWhile_append_of_pos hmarks, ha]
  cases before with
  | nil =>
      rw [List.nil_append, read_of_isOption g ha, List.map_nil, List.append_nil]
  | cons b before =>
      rw [Progress.read]
      split
      · rename_i hnone
        rw [hdrop] at hnone
        cases hnone
      · rename_i hsome
        obtain ⟨rfl, rfl⟩ := List.cons.inj (hdrop.symm.trans hsome)
        simp only [htake, fill_of_pending_eq_nil hp, List.isEmpty_cons, Bool.false_eq_true, if_false,
          Nat.lt_irrefl]
        cases Progress.takeOption g { p with extras := p.extras ++ (b :: before).map (·.text) } a <;>
          rfl

/-- With all operands filled, an operand in front is left over. -/
theorem read_of_pending_eq_nil (hp : p.pending = []) (ha : a.mark.isOption = false)
    (args : List Argument) :
    p.read g (a :: args) = Progress.read g { p with extras := p.extras ++ [a.text] } args := by
  have hq : Progress.pending { p with extras := p.extras ++ [a.text] } = [] := hp
  have hsplit := List.takeWhile_append_dropWhile (p := fun b : Argument => !b.mark.isOption)
    (l := args)
  have hbefore : ∀ b ∈ args.takeWhile (fun b => !b.mark.isOption), b.mark.isOption = false := by
    intro b hb
    simpa using List.mem_takeWhile_imp hb
  -- The arguments up to the next option are left over with it or without it.
  cases hdrop : args.dropWhile (fun b => !b.mark.isOption) with
  | nil =>
      rw [hdrop, List.append_nil] at hsplit
      rw [hsplit] at hbefore
      rw [read_of_forall_not_isOption g (List.forall_mem_cons.mpr ⟨ha, hbefore⟩),
        read_of_forall_not_isOption g hbefore, fill_of_pending_eq_nil hp, fill_of_pending_eq_nil hq]
      simp
  | cons o rest =>
      have ho : o.mark.isOption = true := by
        have hne : args.dropWhile (fun b => !b.mark.isOption) ≠ [] := by simp [hdrop]
        simpa [hdrop] using List.head_dropWhile_not _ hne
      rw [hdrop] at hsplit
      rw [← hsplit, ← List.cons_append,
        read_append_of_pending_eq_nil g hp (List.forall_mem_cons.mpr ⟨ha, hbefore⟩) ho,
        read_append_of_pending_eq_nil g hq hbefore ho]
      simp

end Steps

/-! ## Reading to the end -/

theorem filled_run {g : Grammar} {p p' : Progress} {actions : List Action}
    (h : p.run g actions = .ok p') : p'.filled = p.filled := by
  induction actions generalizing p with
  | nil =>
      obtain rfl := Except.ok.inj h
      rfl
  | cons action actions ih =>
      cases action with
      | help => cases h
      | version => cases h
      | json => exact ih (p := { p with actions := p.actions ++ [.json] }) h

theorem filled_takeOption {g : Grammar} {p p' : Progress} {a : Argument}
    (h : p.takeOption g a = .ok p') : p'.filled = p.filled := by
  unfold Progress.takeOption at h
  split at h
  · split at h
    · cases h
    · exact filled_run h
  · obtain rfl := Except.ok.inj h
    rfl

theorem filled_fill (p : Progress) (args : List Argument) :
    ∃ front filled, args = front ++ (p.fill args).2 ∧
      (p.fill args).1.filled = p.filled ++ filled ∧
        filled.flatten.Sublist (front.map (·.text)) := by
  obtain ⟨front, hargs, hfront⟩ := sublist_of_fillOperands (rfl :
    fillOperands p.pending args = (_, _, _))
  exact ⟨front, _, hargs, rfl, hfront⟩

theorem sublist_of_dropWhile {args rest : List Argument} {a : Argument} {p : Argument → Bool}
    (h : args.dropWhile p = a :: rest) : rest.Sublist args := by
  have hs := List.dropWhile_sublist p (l := args)
  rw [h] at hs
  exact (List.sublist_cons_self a rest).trans hs

/-- What reading adds to the filled operands are arguments in their order. -/
theorem filled_read {g : Grammar} {p p' : Progress} {args : List Argument}
    (h : p.read g args = .ok p') :
    ∃ filled, p'.filled = p.filled ++ filled ∧ filled.flatten.Sublist (args.map (·.text)) := by
  -- The cases are the branches of `read`; those where it stops have no result.
  fun_induction Progress.read g p args with
  | case1 p args _ q =>
      obtain rfl := Except.ok.inj h
      obtain ⟨front, filled, hargs, hq, hfront⟩ := filled_fill p args
      refine ⟨filled, hq, ?_⟩
      rw [hargs, List.map_append]
      exact hfront.trans (List.sublist_append_left ..)
  | case2 => cases h
  | case3 p args before a rest hdrop _ q htake ih =>
      obtain ⟨filled, hp', hsub⟩ := ih h
      rw [filled_takeOption htake] at hp'
      exact ⟨filled, hp', hsub.trans ((sublist_of_dropWhile hdrop).map _)⟩
  | case4 p args before a rest _ _ q _ ih =>
      obtain ⟨front, filled, hargs, hq, hfront⟩ := filled_fill p args
      obtain ⟨filled', hp', hsub⟩ := ih h
      refine ⟨filled ++ filled', by rw [hp', hq, List.append_assoc], ?_⟩
      rw [hargs, List.flatten_append, List.map_append]
      exact hfront.append hsub
  | case5 => cases h
  | case6 p args before a rest hdrop _ q hnone _ q' htake ih =>
      obtain ⟨front, filled, hargs, hq, hfront⟩ := filled_fill p args
      obtain ⟨filled', hp', hsub⟩ := ih h
      have hempty : front = [] := by
        have hnone : ¬(p.fill args).2.length < args.length := hnone
        have hlength := congrArg List.length hargs
        rw [List.length_append] at hlength
        exact List.length_eq_zero_iff.mp (by omega)
      have hflat : filled.flatten = [] := by
        rw [hempty] at hfront
        exact List.eq_nil_of_sublist_nil hfront
      rw [filled_takeOption htake] at hp'
      refine ⟨filled ++ filled', ?_, ?_⟩
      · rw [hp', ← List.append_assoc]
        exact congrArg (· ++ filled') hq
      · rw [List.flatten_append, hflat]
        exact hsub.trans ((sublist_of_dropWhile hdrop).map _)

/-- Operands are filled with arguments of the program in their order. -/
theorem sublist_of_parse {g : Grammar} {arguments : List String} {p : Progress}
    (h : g.parse arguments = .ok p) : p.filled.flatten.Sublist arguments := by
  unfold Grammar.parse at h
  cases hargs : classify g arguments with
  | error fault => rw [hargs] at h; cases h
  | ok args =>
      rw [hargs] at h
      dsimp only at h
      cases hread : Progress.read g ⟨g.operands, [], [], []⟩ args with
      | error stop => rw [hread] at h; cases h
      | ok q =>
          rw [hread] at h
          dsimp only at h
          obtain ⟨filled, hq, hsub⟩ := filled_read hread
          rw [map_text_of_classify hargs] at hsub
          split at h
          · obtain rfl := Except.ok.inj h
            rw [hq]
            exact hsub
          · cases h

/-! ## Stopping -/

/-- The reasons to stop that reading with a grammar gives: its own help text, the version and a
    refusal in its own name. -/
inductive Stop.Arises (g : Grammar) : Stop → Prop where
  | help : Arises g (.help g)
  | version : Arises g .version
  | refused (fault : UsageFault) : Arises g (.refused g fault)

/-- A reason to stop is not a help text of another grammar. -/
def Stop.IsOf (g : Grammar) : Stop → Prop
  | .help g' => g' = g
  | _ => True

theorem Stop.Arises.isOf {g : Grammar} {stop : Stop} (h : stop.Arises g) : stop.IsOf g := by
  cases h with
  | help => rfl
  | version => trivial
  | refused fault => trivial

section Arises

variable {g : Grammar} {p : Progress} {args : List Argument} {stop : Stop}

theorem arises_run {actions : List Action} (h : p.run g actions = .error stop) :
    stop.Arises g := by
  induction actions generalizing p with
  | nil => cases h
  | cons action actions ih =>
      cases action with
      | help =>
          obtain rfl := Except.error.inj h
          exact .help
      | version =>
          obtain rfl := Except.error.inj h
          exact .version
      | json => exact ih (p := { p with actions := p.actions ++ [.json] }) h

theorem arises_takeOption {a : Argument} (h : p.takeOption g a = .error stop) :
    stop.Arises g := by
  unfold Progress.takeOption at h
  split at h
  · split at h
    · obtain rfl := Except.error.inj h
      exact .refused _
    · exact arises_run h
  · cases h

theorem arises_read (h : p.read g args = .error stop) : stop.Arises g := by
  fun_induction Progress.read g p args with
  | case1 => cases h
  | case2 p args before a rest _ _ stop' htake =>
      obtain rfl := Except.error.inj h
      exact arises_takeOption htake
  | case3 p args before a rest _ _ q _ ih => exact ih h
  | case4 p args before a rest _ _ q _ ih => exact ih h
  | case5 p args before a rest _ _ q _ _ stop' htake =>
      obtain rfl := Except.error.inj h
      exact arises_takeOption htake
  | case6 p args before a rest _ _ q _ _ q' _ ih => exact ih h

/-- Reading stops for a reason of its own grammar. -/
theorem arises_parse {arguments : List String} (h : g.parse arguments = .error stop) :
    stop.Arises g := by
  unfold Grammar.parse at h
  split at h
  · obtain rfl := Except.error.inj h
    exact .refused _
  · split at h
    · obtain rfl := Except.error.inj h
      exact arises_read ‹_›
    · split at h
      · cases h
      · obtain rfl := Except.error.inj h
        exact .refused _

/-- Reading stops for no help text but that of its own grammar. -/
theorem isOf_parse {arguments : List String} (h : g.parse arguments = .error stop) :
    stop.IsOf g :=
  (arises_parse h).isOf

end Arises

/-! ## Commands -/

theorem eq_of_refuseExtras {extras : List String} {command command' : Command}
    (h : refuseExtras extras command = .ok command') : command = command' := by
  unfold refuseExtras at h
  split at h
  · exact Except.ok.inj h
  · cases h

/-- A command is read from the arguments behind its name with its own grammar. -/
theorem cases_of_readCommand {arguments : List String} {command : Command}
    (h : readCommand arguments = .ok command) :
    command = .overview ∨
      ∃ name rest g p, (name :: rest).Sublist arguments ∧ (name, g) ∈ commandGrammars ∧
        g.parse rest = .ok p ∧ command = commandOf name p := by
  unfold readCommand at h
  cases htop : topGrammar.parse arguments with
  | error stop => rw [htop] at h; cases h
  | ok top =>
      rw [htop] at h
      dsimp only at h
      split at h
      · rename_i name rest filled hfilled
        split at h
        · cases h
        · rename_i name' g hfind
          have hsame := List.find?_some hfind
          have hname : name' = name := beq_iff_eq.mp hsame
          have hmem := List.mem_of_find?_eq_some hfind
          split at h
          · cases h
          · rename_i p hp
            have hsub := sublist_of_parse htop
            rw [hfilled, List.flatten_cons] at hsub
            rw [hname] at hmem
            refine Or.inr ⟨name, rest, g, p, ?_, hmem, hp, (eq_of_refuseExtras h).symm⟩
            exact (List.sublist_append_left ..).trans hsub
      · exact Or.inl (eq_of_refuseExtras h).symm

/-- The names of the constant to get are arguments behind the name of the command. -/
theorem sublist_of_readCommand_get {arguments : List String} {group name : String}
    (h : readCommand arguments = .ok (.get group name)) :
    ["get", group, name].Sublist arguments := by
  rcases cases_of_readCommand h with hc | ⟨command, rest, g, p, hsub, -, hp, hc⟩
  · cases hc
  · unfold commandOf at hc
    split at hc
    · rename_i hfilled
      obtain ⟨rfl, rfl⟩ := Command.get.inj hc
      have hrest := sublist_of_parse hp
      rw [hfilled] at hrest
      exact (hrest.cons_cons "get").trans hsub
    · cases hc
    · cases hc
    · cases hc

/-- The group to list is an argument behind the name of the command. -/
theorem sublist_of_readCommand_list {arguments : List String} {group : String} {asJson : Bool}
    (h : readCommand arguments = .ok (.list (some group) asJson)) :
    ["list", group].Sublist arguments := by
  rcases cases_of_readCommand h with hc | ⟨command, rest, g, p, hsub, -, hp, hc⟩
  · cases hc
  · unfold commandOf at hc
    split at hc
    · cases hc
    · cases hc
    · obtain ⟨hgroup, -⟩ := Command.list.inj hc
      obtain ⟨others, hflat⟩ := List.head?_eq_some_iff.mp hgroup.symm
      have hrest := sublist_of_parse hp
      rw [hflat] at hrest
      have hone : [group].Sublist rest := (List.singleton_sublist.mpr (by simp)).trans hrest
      exact (hone.cons_cons "list").trans hsub
    · cases hc

/-- The help text that is asked for is that of the program or of one of its commands. -/
theorem grammar_of_readCommand_help {arguments : List String} {g : Grammar}
    (h : readCommand arguments = .error (.help g)) :
    g = topGrammar ∨ ∃ c ∈ commandGrammars, c.2 = g := by
  unfold readCommand at h
  split at h
  · rename_i stop hstop
    obtain rfl := Except.error.inj h
    exact Or.inl (isOf_parse hstop)
  · split at h
    · split at h
      · cases h
      · rename_i name g' hfind
        split at h
        · rename_i stop hstop
          obtain rfl := Except.error.inj h
          exact Or.inr ⟨_, List.mem_of_find?_eq_some hfind, (isOf_parse hstop).symm⟩
        · unfold refuseExtras at h
          split at h
          · cases h
          · cases h
    · unfold refuseExtras at h
      split at h
      · cases h
      · cases h

end NamedConstants.CommandLine
