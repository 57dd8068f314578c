import NamedConstants.Run

/-!
# Laws of runs

How a sequence of runs ends.  `Run.Returns` says of a run that it leaves the program neither
by an exit nor by an interruption, and that its result, if it has one, is of a given kind; it
passes from the parts of a sequence to the whole (`Run.returns_bind`).  `Run.Prints` says besides
that the run writes to the standard error only and fails in ways that are not this library's own.
-/

namespace NamedConstants

/-- What a computation in two parts results in comes from the result of its first part. -/
theorem exists_of_bind_ok {ε α β : Type} {first : Except ε α} {next : α → Except ε β} {b : β}
    (h : (first >>= next) = .ok b) : ∃ a, first = .ok a ∧ next a = .ok b := by
  cases first with
  | error e => cases h
  | ok a => exact ⟨a, rfl, h⟩

/-- A computation in two parts fails in its first part, or in what follows the result of that. -/
theorem cases_of_bind_error {ε α β : Type} {first : Except ε α} {next : α → Except ε β} {e : ε}
    (h : (first >>= next) = .error e) :
    first = .error e ∨ ∃ a, first = .ok a ∧ next a = .error e := by
  cases first with
  | error e' => exact Or.inl (congrArg Except.error (Except.error.inj h))
  | ok a => exact Or.inr ⟨a, rfl, h⟩

/-- A list that is computed item by item fails for its first item or for the others. -/
theorem cases_of_items_error {ε α : Type} {first : Except ε α} {others : Except ε (List α)} {e : ε}
    (h : (do let a ← first
             let rest ← others
             return a :: rest) = .error e) : first = .error e ∨ others = .error e := by
  obtain hfirst | ⟨a, -, h⟩ := cases_of_bind_error h
  · exact Or.inl hfirst
  · obtain hothers | ⟨rest, -, h⟩ := cases_of_bind_error h
    · exact Or.inr hothers
    · cases h

/-- A failure is of a kind that is not this library's own. -/
def Failure.IsForeign (failure : Failure) : Prop :=
  failure.category.isOwn = false

namespace Run

variable {α β : Type}

@[simp] theorem bind_eq (r : Run α) (next : α → Run β) : r >>= next = r.bind next := rfl

@[simp] theorem pure_eq (a : α) : (Pure.pure a : Run α) = Run.pure a := rfl

@[simp] theorem pure_bind (a : α) (next : α → Run β) : (Run.pure a).bind next = next a := by
  simp [bind, Run.pure]

@[simp] theorem pure_stdout (a : α) : (Run.pure a).stdout = "" := rfl

@[simp] theorem pure_stderr (a : α) : (Run.pure a).stderr = "" := rfl

@[simp] theorem pure_ending (a : α) : (Run.pure a).ending = .done a := rfl

@[simp] theorem err_bind (s : String) (next : Unit → Run β) :
    (err s).bind next = ⟨(next ()).stdout, s ++ (next ()).stderr, (next ()).ending⟩ := by
  simp [bind, err]

@[simp] theorem out_bind (s : String) (next : Unit → Run β) :
    (out s).bind next = ⟨s ++ (next ()).stdout, (next ()).stderr, (next ()).ending⟩ := by
  simp [bind, out]

@[simp] theorem fail_bind (failure : Failure) (next : α → Run β) :
    (fail failure : Run α).bind next = fail failure := rfl

@[simp] theorem ofExcept_ok (a : α) : ofExcept (.ok a) = Run.pure a := rfl

@[simp] theorem ofExcept_error (failure : Failure) :
    (ofExcept (.error failure) : Run α) = fail failure := rfl

theorem bind_assoc {γ : Type} (r : Run α) (next : α → Run β) (last : β → Run γ) :
    (r.bind next).bind last = r.bind fun a => (next a).bind last := by
  obtain ⟨stdout, stderr, ending⟩ := r
  cases ending with
  | done a =>
      cases hnext : (next a).ending <;> simp [bind, hnext, String.append_assoc]
  | failed failure => rfl
  | exited code => rfl
  | interrupted => rfl

/-- Texts that are written one after the other are written as one text. -/
theorem err_bind_err (s t : String) : ((err s).bind fun _ => err t) = err (s ++ t) := by
  rw [err_bind]
  rfl

theorem errLine_ofList (s : List Char) :
    errLine (String.ofList s) = err (String.ofList (s ++ ['\n'])) := by
  rw [errLine, String.ofList_append]

theorem each_err {action : α → Run Unit} {text : α → List Char} {items : List α}
    (h : ∀ a ∈ items, action a = err (String.ofList (text a))) :
    each action items = err (String.ofList (items.flatMap text)) := by
  induction items with
  | nil => rfl
  | cons a items ih =>
      rw [each, h a (List.mem_cons_self ..), ih fun b hb => h b (List.mem_cons_of_mem a hb),
        err_bind_err, ← String.ofList_append, List.flatMap_cons]

/-- A sequence whose first part has a result ends as what follows it. -/
theorem ending_bind {r : Run α} {a : α} (h : r.ending = .done a) (next : α → Run β) :
    (r.bind next).ending = (next a).ending := by
  simp [bind, h]

/-- A run goes on if it has a result of the given kind or fails; it does not end the program
    by itself. -/
def Returns (P : α → Prop) (r : Run α) : Prop :=
  match r.ending with
  | .done a => P a
  | .failed _ => True
  | .exited _ => False
  | .interrupted => False

/-- A run that goes on has a result or fails. -/
theorem ending_of_returns {P : α → Prop} {r : Run α} (hr : Returns P r) :
    (∃ a, r.ending = .done a ∧ P a) ∨ ∃ failure, r.ending = .failed failure := by
  unfold Returns at hr
  cases he : r.ending with
  | done a =>
      rw [he] at hr
      exact Or.inl ⟨a, rfl, hr⟩
  | failed failure => exact Or.inr ⟨failure, rfl⟩
  | exited code => rw [he] at hr; exact hr.elim
  | interrupted => rw [he] at hr; exact hr.elim

theorem Returns.imp {P Q : α → Prop} {r : Run α} (hr : Returns P r) (h : ∀ a, P a → Q a) :
    Returns Q r := by
  unfold Returns at hr ⊢
  cases he : r.ending with
  | done a =>
      rw [he] at hr
      exact h a hr
  | failed failure => trivial
  | exited code => rw [he] at hr; exact hr
  | interrupted => rw [he] at hr; exact hr

theorem returns_pure {P : α → Prop} {a : α} (h : P a) : Returns P (Run.pure a) := h

theorem returns_fail {P : α → Prop} (failure : Failure) : Returns P (fail failure) := trivial

theorem returns_ofExcept {P : α → Prop} {e : Except Failure α} (h : ∀ a, P a) :
    Returns P (ofExcept e) := by
  cases e with
  | error failure => exact returns_fail failure
  | ok a => exact returns_pure (h a)

theorem returns_out (s : String) : Returns (fun _ => True) (out s) := trivial

/-- A sequence goes on if its parts do, whatever the first one results in. -/
theorem returns_bind {P : α → Prop} {Q : β → Prop} {r : Run α} {next : α → Run β}
    (hr : Returns P r) (hn : ∀ a, P a → Returns Q (next a)) : Returns Q (r.bind next) := by
  unfold Returns at hr
  unfold bind
  cases he : r.ending with
  | done a =>
      rw [he] at hr
      exact hn a hr
  | failed failure => trivial
  | exited code => rw [he] at hr; exact hr.elim
  | interrupted => rw [he] at hr; exact hr.elim

/-! ## Printing -/

/-- A run writes nothing to the standard output, and it goes on or fails in a foreign way. -/
structure Prints (P : α → Prop) (r : Run α) : Prop where
  silent : r.stdout = ""
  returns : Returns P r
  foreign : ∀ failure, r.ending = .failed failure → failure.IsForeign

theorem prints_pure {P : α → Prop} {a : α} (h : P a) : Prints P (Run.pure a) :=
  ⟨rfl, h, nofun⟩

theorem prints_err (s : String) : Prints (fun _ => True) (err s) :=
  ⟨rfl, trivial, nofun⟩

theorem prints_fail {P : α → Prop} {failure : Failure} (h : failure.IsForeign) :
    Prints P (fail failure) := by
  refine ⟨rfl, trivial, ?_⟩
  intro failure' hfailed
  obtain rfl : failure = failure' := Ending.failed.inj hfailed
  exact h

theorem prints_ofExcept {e : Except Failure α} (h : ∀ f, e = .error f → f.IsForeign) :
    Prints (fun _ => True) (ofExcept e) := by
  cases e with
  | ok a => exact prints_pure trivial
  | error f => exact prints_fail (h f rfl)

/-- A sequence prints if its parts do, whatever the first one results in. -/
theorem prints_bind {P : α → Prop} {Q : β → Prop} {r : Run α} {next : α → Run β}
    (hr : Prints P r) (hn : ∀ a, P a → Prints Q (next a)) : Prints Q (r.bind next) := by
  obtain ⟨stdout, stderr, ending⟩ := r
  obtain rfl : stdout = "" := hr.silent
  cases ending with
  | done a =>
      have hnext := hn a hr.returns
      exact ⟨by simp [bind, hnext.silent], hnext.returns, hnext.foreign⟩
  | failed failure =>
      refine ⟨rfl, trivial, ?_⟩
      intro failure' hfailed
      obtain rfl : failure = failure' := Ending.failed.inj hfailed
      exact hr.foreign failure rfl
  | exited code => exact hr.returns.elim
  | interrupted => exact hr.returns.elim

theorem prints_each {action : α → Run Unit} (h : ∀ a, Prints (fun _ => True) (action a))
    (items : List α) : Prints (fun _ => True) (each action items) := by
  induction items with
  | nil => exact prints_pure trivial
  | cons a rest ih => exact prints_bind (h a) fun _ _ => ih

end Run

end NamedConstants
