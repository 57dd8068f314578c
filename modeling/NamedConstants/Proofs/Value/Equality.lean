import NamedConstants.Value.Equality

/-!
# Laws of equality

A text equals exactly the values that are that text, members included (`same_text`).  Entries
with different keys are the table that they build (`tableOf_of_pairwise`).
-/

namespace NamedConstants.Value

/-- A text equals a value that is the same text, and no other. -/
theorem same_text (s : String) (v : Value) : (Value.text s).same v = (v.asText? == some s) := by
  have hatom : (Value.text s).same v = sameAtom (.text s) v := by
    unfold same
    cases v <;> rfl
  have htext : (Value.text s).asText? = some s := rfl
  rw [hatom]
  unfold sameAtom
  rw [htext]
  cases v.asText? with
  | none => rfl
  | some t =>
      change (s == t) = (some t == some s)
      rw [Option.some_beq_some, Bool.beq_comm]

theorem same_text_text (s t : String) : (Value.text s).same (.text t) = (s == t) := by
  rw [same_text]
  change (some t == some s) = (s == t)
  rw [Option.some_beq_some, Bool.beq_comm]

theorem same_text_iff {s : String} {v : Value} :
    (Value.text s).same v = true ↔ v.asText? = some s := by
  rw [same_text, beq_iff_eq]

theorem isText_of_same_text {s : String} {v : Value} (h : (Value.text s).same v = true) :
    v.isText = true := by
  rw [isText, same_text_iff.mp h]
  rfl

/-- Of two different texts at most one equals a given value. -/
theorem same_text_exclusive {s t : String} (h : (Value.text s).same (.text t) = false)
    {v : Value} (hs : (Value.text s).same v = true) : (Value.text t).same v = false := by
  rw [same_text_iff] at hs
  rw [same_text_text] at h
  rw [same_text, hs, Option.some_beq_some]
  exact h

/-- A key that equals none of the keys of a table goes to the end. -/
theorem insert_of_forall {key value : Value} {table : List (Value × Value)}
    (h : ∀ e ∈ table, e.1.same key = false) : insert key value table = table ++ [(key, value)] := by
  induction table with
  | nil => rfl
  | cons e table ih =>
      obtain ⟨k, v⟩ := e
      have hk : k.same key = false := h _ (List.mem_cons_self ..)
      rw [insert, hk, ih fun e he => h e (List.mem_cons_of_mem _ he)]
      rfl

/-- Entries with pairwise different keys are the table that they build. -/
theorem tableOf_of_pairwise {entries : List (Value × Value)}
    (h : entries.Pairwise fun a b => a.1.same b.1 = false) : tableOf entries = entries := by
  have hfold : ∀ done, (done ++ entries).Pairwise (fun a b => a.1.same b.1 = false) →
      entries.foldl (fun table e => insert e.1 e.2 table) done = done ++ entries := by
    clear h
    induction entries with
    | nil =>
        intro done _
        exact (List.append_nil done).symm
    | cons e entries ih =>
        intro done h
        have hdone : ∀ d ∈ done, d.1.same e.1 = false := by
          intro d hd
          exact (List.pairwise_append.mp h).2.2 d hd e (List.mem_cons_self ..)
        rw [List.append_cons] at h
        rw [List.foldl_cons, insert_of_forall hdone, ih (done ++ [e]) h, List.append_assoc]
        rfl
  exact hfold [] h

end NamedConstants.Value
