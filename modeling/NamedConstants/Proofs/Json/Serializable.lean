import NamedConstants.Json.Writer
import NamedConstants.Proofs.Value.Equivalence

/-!
# What JSON can write

A value has a JSON form if and only if it contains nothing that JSON has no form for, at any depth
of lists, tuples and the values of tables; writing any other value fails for the type of something
in it (`writtenExactly`).
-/

namespace NamedConstants

namespace Value

/-- The values that are written inside a value: the items of a list or a tuple, the values of a
    table. -/
def held : Value → List Value
  | .list items => items
  | .tuple items => items
  | .dict entries => entries.map (·.2)
  | _ => []

/-- A value is another one or holds it at some depth. -/
inductive Contains : Value → Value → Prop where
  | self (v : Value) : Contains v v
  | inside {v w u : Value} (h : w ∈ v.held) (hu : Contains w u) : Contains v u

/-- Whether JSON writes a value as a key: a text, a number, a truth value or nothing. -/
def isWritableKey : Value → Bool
  | .null => true
  | .bool _ => true
  | .int _ => true
  | .float _ => true
  | v => v.isText

/-- A value that JSON has no form for, whatever it holds. -/
inductive IsObstacle : Value → Prop where
  | bytes (bs : List UInt8) : IsObstacle (.bytes bs)
  | member {className name : String} {base : Base} {value : Value}
      (h : (Value.member className base name value).isText = false) :
      IsObstacle (.member className base name value)
  | key {entries : List (Value × Value)} {e : Value × Value} (he : e ∈ entries)
      (h : e.1.isWritableKey = false) : IsObstacle (.dict entries)

/-- There is nothing in a value that JSON has no form for. -/
def IsSerializable (v : Value) : Prop :=
  ∀ u, v.Contains u → ¬u.IsObstacle

theorem isSerializable_iff (v : Value) :
    v.IsSerializable ↔ ¬v.IsObstacle ∧ ∀ w ∈ v.held, w.IsSerializable := by
  constructor
  · intro h
    exact ⟨h v (.self v), fun w hw u hu => h u (.inside hw hu)⟩
  · rintro ⟨hself, hheld⟩ u hu
    cases hu with
    | self => exact hself
    | inside hw hu => exact hheld _ hw u hu

theorem isSerializable_dict_iff {entries : List (Value × Value)} :
    (Value.dict entries).IsSerializable ↔
      (∀ e ∈ entries, e.1.isWritableKey = true) ∧ ∀ e ∈ entries, e.2.IsSerializable := by
  rw [isSerializable_iff, held, List.forall_mem_map]
  refine and_congr_left' ?_
  constructor
  · intro hself e he
    cases hkey : e.1.isWritableKey with
    | true => rfl
    | false => exact absurd (.key he hkey) hself
  · intro hkeys hobstacle
    cases hobstacle with
    | key he hkey =>
        rw [hkeys _ he] at hkey
        cases hkey

end Value

namespace Json

open Value (IsSerializable IsObstacle isSerializable_iff)

/-- A value that is a text is written as a string. -/
theorem write_of_asText? (style : Style) (level : Nat) {v : Value} {s : String}
    (h : v.asText? = some s) : write style level v = .ok (string s.toList) := by
  cases v with
  | text t =>
      obtain rfl : t = s := Option.some.inj h
      rfl
  | member className base name value =>
      cases value with
      | text t =>
          cases base with
          | plain => cases h
          | text =>
              obtain rfl : t = s := Option.some.inj h
              rfl
          | literal =>
              obtain rfl : t = s := Option.some.inj h
              rfl
      | _ => cases h
  | _ => cases h

/-- A member that is no text is not written. -/
theorem write_member_of_not_text (style : Style) (level : Nat) {className name : String}
    {base : Base} {value : Value} (h : (Value.member className base name value).asText? = none) :
    write style level (.member className base name value) =
      .error (.notSerializable className) := by
  cases value with
  | text t =>
      cases base with
      | plain => rfl
      | text => cases h
      | literal => cases h
  | _ => cases base <;> rfl

/-- A key is written if and only if it is of a suitable type. -/
theorem keyText_cases (key : Value) :
    (key.isWritableKey = true ∧ ∃ text, keyText key = .ok text) ∨
      key.isWritableKey = false ∧ ∃ f : Failure, keyText key = .error f ∧ f.category = .type := by
  unfold keyText
  cases htext : key.asText? with
  | some s =>
      refine Or.inl ⟨?_, s.toList, rfl⟩
      cases key with
      | text t => rfl
      | member className base name value => simp [Value.isWritableKey, Value.isText, htext]
      | _ => cases htext
  | none =>
      cases key with
      | null => exact Or.inl ⟨rfl, _, rfl⟩
      | bool b => exact Or.inl ⟨rfl, _, rfl⟩
      | int i => exact Or.inl ⟨rfl, _, rfl⟩
      | float x => exact Or.inl ⟨rfl, _, rfl⟩
      | text s => cases htext
      | member className base name value =>
          exact Or.inr ⟨by simp [Value.isWritableKey, Value.isText, htext], _, rfl, rfl⟩
      | _ => exact Or.inr ⟨rfl, _, rfl, rfl⟩

section Write

variable (style : Style) (level : Nat)

/-- Items are written if each of them is; otherwise the failure is that of one of them. -/
theorem writeItems_cases (items : List Value) :
    ((∀ v ∈ items, ∃ text, write style level v = .ok text) ∧
      ∃ parts, writeItems style level items = .ok parts) ∨
    ∃ v ∈ items, ∃ f, write style level v = .error f ∧ writeItems style level items = .error f := by
  induction items with
  | nil => exact Or.inl ⟨by simp, [], rfl⟩
  | cons v rest ih =>
      rw [writeItems]
      cases hv : write style level v with
      | error f => exact Or.inr ⟨v, by simp, f, hv, rfl⟩
      | ok text =>
          rcases ih with ⟨hall, parts, hparts⟩ | ⟨w, hw, f, hf, hrest⟩
          · refine Or.inl ⟨List.forall_mem_cons.mpr ⟨⟨text, hv⟩, hall⟩, text :: parts, ?_⟩
            rw [hparts]
            rfl
          · refine Or.inr ⟨w, List.mem_cons_of_mem _ hw, f, hf, ?_⟩
            rw [hrest]
            rfl

/-- Entries are written if each key and each value is; otherwise the failure is that of a key or
    of a value. -/
theorem writeEntries_cases (entries : List (Value × Value)) :
    ((∀ e ∈ entries, (∃ text, keyText e.1 = .ok text) ∧ ∃ text, write style level e.2 = .ok text) ∧
      ∃ parts, writeEntries style level entries = .ok parts) ∨
    ∃ e ∈ entries, ∃ f, (keyText e.1 = .error f ∨ write style level e.2 = .error f) ∧
      writeEntries style level entries = .error f := by
  induction entries with
  | nil => exact Or.inl ⟨by simp, [], rfl⟩
  | cons e rest ih =>
      obtain ⟨k, v⟩ := e
      rw [writeEntries]
      cases hk : keyText k with
      | error f => exact Or.inr ⟨(k, v), by simp, f, Or.inl hk, rfl⟩
      | ok key =>
          cases hv : write style level v with
          | error f => exact Or.inr ⟨(k, v), by simp, f, Or.inr hv, rfl⟩
          | ok text =>
              rcases ih with ⟨hall, parts, hparts⟩ | ⟨d, hd, f, hf, hrest⟩
              · refine Or.inl ⟨List.forall_mem_cons.mpr ⟨⟨⟨key, hk⟩, text, hv⟩, hall⟩,
                  (string key ++ ':' :: ' ' :: text) :: parts, ?_⟩
                rw [hparts]
                rfl
              · refine Or.inr ⟨d, List.mem_cons_of_mem _ hd, f, hf, ?_⟩
                rw [hrest]
                rfl

end Write

/-- A value is written, and has no obstacles in it, or writing it fails for a type, and it has. -/
def WrittenExactly (style : Style) (level : Nat) (v : Value) : Prop :=
  (v.IsSerializable ∧ ∃ text, write style level v = .ok text) ∨
    ¬v.IsSerializable ∧ ∃ f : Failure, write style level v = .error f ∧ f.category = .type

section WrittenExactly

variable {style : Style} {level : Nat} {v : Value}

theorem WrittenExactly.isSerializable (h : WrittenExactly style level v) {text : List Char}
    (hok : write style level v = .ok text) : v.IsSerializable := by
  rcases h with ⟨hs, -⟩ | ⟨-, f, hf, -⟩
  · exact hs
  · rw [hok] at hf
    cases hf

theorem WrittenExactly.not_isSerializable (h : WrittenExactly style level v) {f : Failure}
    (herror : write style level v = .error f) : ¬v.IsSerializable ∧ f.category = .type := by
  rcases h with ⟨-, text, htext⟩ | ⟨hs, f', hf, htype⟩
  · rw [herror] at htext
    cases htext
  · obtain rfl := Except.error.inj (herror.symm.trans hf)
    exact ⟨hs, htype⟩

/-- A value that holds no others is written unless it is an obstacle. -/
theorem writtenExactly_of_held_eq_nil (hheld : v.held = [])
    (h : (¬v.IsObstacle ∧ ∃ text, write style level v = .ok text) ∨
      v.IsObstacle ∧ ∃ f : Failure, write style level v = .error f ∧ f.category = .type) :
    WrittenExactly style level v := by
  have hiff : v.IsSerializable ↔ ¬v.IsObstacle := by
    rw [isSerializable_iff, hheld]
    simp
  rw [WrittenExactly, hiff, Classical.not_not]
  exact h

/-- A sequence is written exactly if its items are. -/
theorem writtenExactly_of_items {items : List Value} (hheld : v.held = items)
    (hself : ¬v.IsObstacle)
    (hwrite : write style level v =
      (writeItems style (level + 1) items).map (style.enclose level '[' ']'))
    (ih : ∀ w ∈ items, WrittenExactly style (level + 1) w) : WrittenExactly style level v := by
  have hiff : v.IsSerializable ↔ ∀ w ∈ items, w.IsSerializable := by
    rw [isSerializable_iff, hheld]
    exact and_iff_right hself
  rw [WrittenExactly, hiff, hwrite]
  rcases writeItems_cases style (level + 1) items with ⟨hall, parts, hparts⟩ | ⟨w, hw, f, hf, hitems⟩
  · refine Or.inl ⟨?_, _, congrArg _ hparts⟩
    intro w hw
    obtain ⟨text, htext⟩ := hall w hw
    exact (ih w hw).isSerializable htext
  · obtain ⟨hnot, htype⟩ := (ih w hw).not_isSerializable hf
    exact Or.inr ⟨fun hs => hnot (hs w hw), f, by rw [hitems]; rfl, htype⟩

/-- A table is written exactly if its keys are of suitable types and its values are written. -/
theorem writtenExactly_of_entries {entries : List (Value × Value)}
    (ih : ∀ e ∈ entries, WrittenExactly style (level + 1) e.2) :
    WrittenExactly style level (.dict entries) := by
  rw [WrittenExactly, Value.isSerializable_dict_iff, write]
  rcases writeEntries_cases style (level + 1) entries with
    ⟨hall, parts, hparts⟩ | ⟨e, he, f, hf, hentries⟩
  · refine Or.inl ⟨⟨?_, ?_⟩, _, congrArg _ hparts⟩
    · intro e he
      obtain ⟨⟨key, hkey⟩, -⟩ := hall e he
      rcases keyText_cases e.1 with ⟨hwritable, -⟩ | ⟨-, f, hf, -⟩
      · exact hwritable
      · rw [hkey] at hf
        cases hf
    · intro e he
      obtain ⟨-, text, htext⟩ := hall e he
      exact (ih e he).isSerializable htext
  · have herror : (writeEntries style (level + 1) entries).map
        (style.enclose level '\x7b' '\x7d') = .error f := by rw [hentries]; rfl
    -- The failure is that of the first key or value that fails, and either is an obstacle.
    rcases hf with hkey | hvalue
    · rcases keyText_cases e.1 with ⟨-, text, htext⟩ | ⟨hwritable, f', hf', htype⟩
      · rw [hkey] at htext
        cases htext
      · obtain rfl := Except.error.inj (hkey.symm.trans hf')
        refine Or.inr ⟨?_, f, herror, htype⟩
        rintro ⟨hkeys, -⟩
        rw [hkeys e he] at hwritable
        cases hwritable
    · obtain ⟨hnot, htype⟩ := (ih e he).not_isSerializable hvalue
      exact Or.inr ⟨fun hs => hnot (hs.2 e he), f, herror, htype⟩

end WrittenExactly

/-- Every value is written exactly if there are no obstacles in it. -/
theorem writtenExactly (style : Style) (level : Nat) (v : Value) :
    WrittenExactly style level v := by
  induction v using Value.induction_on_parts generalizing level with
  | h v ih =>
      cases v with
      | list items =>
          have hheld : (Value.list items).held = items := rfl
          exact writtenExactly_of_items hheld nofun (by rw [write]) fun w hw => ih w hw _
      | tuple items =>
          have hheld : (Value.tuple items).held = items := rfl
          exact writtenExactly_of_items hheld nofun (by rw [write]) fun w hw => ih w hw _
      | dict entries =>
          exact writtenExactly_of_entries fun e he => ih e.2 (Value.value_mem_parts he) _
      | bytes bs => exact writtenExactly_of_held_eq_nil rfl (Or.inr ⟨.bytes bs, _, rfl, rfl⟩)
      | member className base name value =>
          apply writtenExactly_of_held_eq_nil rfl
          cases htext : (Value.member className base name value).asText? with
          | some s =>
              refine Or.inl ⟨?_, string s.toList, write_of_asText? style level htext⟩
              intro hobstacle
              cases hobstacle with
              | member h => simp [Value.isText, htext] at h
          | none =>
              have hnot : (Value.member className base name value).isText = false := by
                simp [Value.isText, htext]
              exact Or.inr ⟨.member hnot, _, write_member_of_not_text style level htext, rfl⟩
      | null => exact writtenExactly_of_held_eq_nil rfl (Or.inl ⟨nofun, _, rfl⟩)
      | bool b => exact writtenExactly_of_held_eq_nil rfl (Or.inl ⟨nofun, _, rfl⟩)
      | int i => exact writtenExactly_of_held_eq_nil rfl (Or.inl ⟨nofun, _, rfl⟩)
      | float x => exact writtenExactly_of_held_eq_nil rfl (Or.inl ⟨nofun, _, rfl⟩)
      | text s => exact writtenExactly_of_held_eq_nil rfl (Or.inl ⟨nofun, _, rfl⟩)

end Json

end NamedConstants
