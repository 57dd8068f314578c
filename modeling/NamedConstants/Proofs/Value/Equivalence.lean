import NamedConstants.Proofs.Related
import NamedConstants.Value.Equality

/-!
# Equality as an equivalence

Equality of values is transitive (`same_trans`), and a value equals itself unless not-a-number
is somewhere in it (`same_self_iff`).  Atoms, which hold no other values, are compared by a key:
two of them are equal if and only if they have a key in common (`sameAtom_iff`).  All other
values are compared part by part, so that the laws follow by induction on the parts.
-/

namespace NamedConstants.Value

/-! ## Parts -/

/-- The values that stand directly in a value: its items, or the keys and values of its
    entries. -/
def parts : Value → List Value
  | .list items => items
  | .tuple items => items
  | .dict entries => entries.flatMap fun e => [e.1, e.2]
  | _ => []

theorem key_mem_parts {e : Value × Value} {entries : List (Value × Value)} (h : e ∈ entries) :
    e.1 ∈ (dict entries).parts :=
  List.mem_flatMap.mpr ⟨e, h, by simp⟩

theorem value_mem_parts {e : Value × Value} {entries : List (Value × Value)} (h : e ∈ entries) :
    e.2 ∈ (dict entries).parts :=
  List.mem_flatMap.mpr ⟨e, h, by simp⟩

theorem exists_entry_of_mem_parts {entries : List (Value × Value)} {w : Value}
    (h : w ∈ (dict entries).parts) : ∃ e ∈ entries, w = e.1 ∨ w = e.2 := by
  obtain ⟨e, he, hw⟩ := List.mem_flatMap.mp h
  exact ⟨e, he, by simpa using hw⟩

theorem sizeOf_lt_of_mem_parts {v w : Value} (h : w ∈ v.parts) : sizeOf w < sizeOf v := by
  cases v with
  | list items =>
      have hmem : w ∈ items := h
      have hitem := List.sizeOf_lt_of_mem hmem
      simp only [list.sizeOf_spec]
      omega
  | tuple items =>
      have hmem : w ∈ items := h
      have hitem := List.sizeOf_lt_of_mem hmem
      simp only [tuple.sizeOf_spec]
      omega
  | dict entries =>
      obtain ⟨⟨k, x⟩, he, hw⟩ := exists_entry_of_mem_parts h
      have hentry := List.sizeOf_lt_of_mem he
      simp only [Prod.mk.sizeOf_spec] at hentry
      simp only [dict.sizeOf_spec]
      rcases hw with rfl | rfl <;> omega
  | _ => cases h

/-- What holds of a value whenever it holds of all its parts holds of every value. -/
theorem induction_on_parts {P : Value → Prop} (h : ∀ v, (∀ w ∈ v.parts, P w) → P v) (v : Value) :
    P v := by
  induction hn : sizeOf v using Nat.strongRecOn generalizing v with
  | ind n ih =>
      subst hn
      exact h v fun w hw => ih _ (sizeOf_lt_of_mem_parts hw) w rfl

/-! ## Keys of atoms -/

/-- The size of a number: so many units of the least positive number of double precision, or
    infinite. -/
inductive Magnitude where
  | finite (units : Int)
  | infinite (negative : Bool)

/-- What an atom is to equality. -/
inductive Key where
  | text (s : String)
  | null
  | number (m : Magnitude)
  | bytes (bs : List UInt8)
  | member (className name : String)

/-- One, counted in units of the least positive number of double precision. -/
def unitsOfOne : Nat := Nat.pow 2 (-Decimal.Binary64.leastExponent).toNat

theorem unitsOfOne_ne_zero : (unitsOfOne : Int) ≠ 0 := by
  have hpow : ∀ n, ((Nat.pow 2 n : Nat) : Int) ≠ 0 := by
    intro n
    exact Int.ofNat_ne_zero.mpr (Nat.ne_of_gt (Nat.two_pow_pos n))
  unfold unitsOfOne
  apply hpow

/-- The size of an integer. -/
def Magnitude.ofInt (i : Int) : Magnitude := .finite (i * unitsOfOne)

theorem Magnitude.ofInt_inj {i j : Int} : ofInt i = ofInt j ↔ i = j := by
  constructor
  · intro h
    injection h with h
    exact Int.eq_of_mul_eq_mul_right unitsOfOne_ne_zero h
  · exact congrArg ofInt

/-- The size of a double-precision number.  Not-a-number has none. -/
def magnitude? : Decimal.Binary64 → Option Magnitude
  | .nan => none
  | .infinite negative => some (.infinite negative)
  | .finite negative mantissa exponent =>
      (Decimal.Binary64.finite negative mantissa exponent).units?.map .finite

/-- The key of an atom.  Values that hold others have none, and neither has not-a-number. -/
def key? (v : Value) : Option Key :=
  match v.asText? with
  | some s => some (.text s)
  | none =>
      match v with
      | .null => some .null
      | .bool b => some (.number (.ofInt (if b then 1 else 0)))
      | .int i => some (.number (.ofInt i))
      | .float x => (magnitude? x).map .number
      | .bytes bs => some (.bytes bs)
      | .member className _ name _ => some (.member className name)
      | _ => none

/-- Both sides are there and are the same. -/
def Shares {α : Type} (o p : Option α) : Prop := ∃ k, o = some k ∧ p = some k

section Shares

variable {α β : Type}

@[simp] theorem shares_some {k : α} {o : Option α} : Shares (some k) o ↔ o = some k := by
  simp [Shares]

@[simp] theorem shares_some_right {k : α} {o : Option α} : Shares o (some k) ↔ o = some k := by
  simp [Shares]

@[simp] theorem shares_none {o : Option α} : ¬Shares none o := by
  simp [Shares]

@[simp] theorem shares_none_right {o : Option α} : ¬Shares o none := by
  simp [Shares]

theorem shares_map {f : α → β} (hf : ∀ a b, f a = f b ↔ a = b) {o p : Option α} :
    Shares (o.map f) (p.map f) ↔ Shares o p := by
  cases o with
  | none => simp
  | some a =>
      cases p with
      | none => simp
      | some b => simp [hf]

end Shares

theorem float_same_iff (x y : Decimal.Binary64) :
    x.same y = true ↔ Shares (magnitude? x) (magnitude? y) := by
  cases x <;> cases y <;> simp [Decimal.Binary64.same, magnitude?, Decimal.Binary64.units?]

theorem float_sameInt_iff (x : Decimal.Binary64) (i : Int) :
    x.sameInt i = true ↔ magnitude? x = some (.ofInt i) := by
  have hunits : x.sameInt i = x.units?.any fun n => n == i * (unitsOfOne : Int) := by
    unfold Decimal.Binary64.sameInt unitsOfOne
    cases x.units? <;> rfl
  rw [hunits]
  cases x with
  | nan => exact iff_of_false Bool.false_ne_true fun h => by cases h
  | infinite negative => exact iff_of_false Bool.false_ne_true fun h => by cases h
  | finite negative mantissa exponent =>
      rw [magnitude?, Decimal.Binary64.units?, Option.map_some, Magnitude.ofInt, Option.some.injEq,
        Magnitude.finite.injEq]
      exact beq_iff_eq

/-- Two atoms are equal if and only if they have a key in common. -/
theorem sameAtom_iff (a b : Value) : sameAtom a b = true ↔ Shares a.key? b.key? := by
  unfold sameAtom key?
  cases ha : a.asText? with
  | some s =>
      cases hb : b.asText? with
      | some t => simp
      | none => cases b <;> simp
  | none =>
      cases hb : b.asText? with
      | some t => cases a <;> simp
      | none =>
          have hbool : ∀ x y : Bool, x = y ↔ (if x then 1 else 0 : Int) = if y then 1 else 0 := by
            decide
          cases a <;> cases b <;>
            simp [float_same_iff, float_sameInt_iff, shares_map, Magnitude.ofInt_inj, ← hbool]

/-! ## Shapes -/

/-- A value that holds no others. -/
def IsAtom : Value → Prop
  | .list _ => False
  | .tuple _ => False
  | .dict _ => False
  | _ => True

/-- A value either holds no others or is a list, a tuple or a table. -/
theorem shape_cases (v : Value) :
    v.IsAtom ∨ (∃ items, v = .list items) ∨ (∃ items, v = .tuple items) ∨
      ∃ entries, v = .dict entries := by
  cases v <;> simp [IsAtom]

theorem isAtom_of_key? {v : Value} {k : Key} (h : v.key? = some k) : v.IsAtom := by
  rcases v.shape_cases with hatom | ⟨items, rfl⟩ | ⟨items, rfl⟩ | ⟨entries, rfl⟩
  · exact hatom
  · cases h
  · cases h
  · cases h

theorem same_atom_iff {a : Value} (h : a.IsAtom) (b : Value) :
    a.same b = true ↔ Shares a.key? b.key? := by
  rw [← sameAtom_iff]
  cases a with
  | list items => exact h.elim
  | tuple items => exact h.elim
  | dict entries => exact h.elim
  | _ => unfold same; cases b <;> rfl

theorem sameItems_iff {xs ys : List Value} :
    sameItems xs ys = true ↔ List.Forall₂ (fun x y => x.same y = true) xs ys := by
  induction xs generalizing ys with
  | nil => cases ys <;> simp [sameItems]
  | cons x xs ih => cases ys <;> simp [sameItems, ih]

theorem entriesIn_iff {xs ys : List (Value × Value)} :
    entriesIn xs ys = true ↔
      ∀ e ∈ xs, ∃ d ∈ ys, e.1.same d.1 = true ∧ e.2.same d.2 = true := by
  induction xs with
  | nil => simp [entriesIn]
  | cons e xs ih => simp [entriesIn, ih]

/-- A list equals the lists whose items equal its own in order. -/
theorem same_list_iff {xs : List Value} {b : Value} :
    (Value.list xs).same b = true ↔
      ∃ ys, b = .list ys ∧ List.Forall₂ (fun x y => x.same y = true) xs ys := by
  simp only [← sameItems_iff]
  unfold same
  cases b <;> simp [sameAtom_iff, key?, asText?]

theorem same_tuple_iff {xs : List Value} {b : Value} :
    (Value.tuple xs).same b = true ↔
      ∃ ys, b = .tuple ys ∧ List.Forall₂ (fun x y => x.same y = true) xs ys := by
  simp only [← sameItems_iff]
  unfold same
  cases b <;> simp [sameAtom_iff, key?, asText?]

/-- A table equals the tables of the same size that have an equal entry for each of its own. -/
theorem same_dict_iff {xs : List (Value × Value)} {b : Value} :
    (Value.dict xs).same b = true ↔
      ∃ ys, b = .dict ys ∧ xs.length = ys.length ∧
        ∀ e ∈ xs, ∃ d ∈ ys, e.1.same d.1 = true ∧ e.2.same d.2 = true := by
  simp only [← entriesIn_iff]
  unfold same
  cases b <;> simp [sameAtom_iff, key?, asText?]

/-! ## Laws -/

theorem forall₂_same_trans {xs ys zs : List Value}
    (h : ∀ x ∈ xs, ∀ y z, x.same y = true → y.same z = true → x.same z = true)
    (hxy : List.Forall₂ (fun x y => x.same y = true) xs ys)
    (hyz : List.Forall₂ (fun y z => y.same z = true) ys zs) :
    List.Forall₂ (fun x z => x.same z = true) xs zs := by
  induction hxy generalizing zs with
  | nil => exact hyz
  | cons hab _ ih =>
      cases hyz with
      | cons hbc hrest =>
          refine .cons (h _ (List.mem_cons_self ..) _ _ hab hbc) (ih ?_ hrest)
          intro x hx
          exact h x (List.mem_cons_of_mem _ hx)

/-- Equality of values is transitive. -/
theorem same_trans {a b c : Value} (hab : a.same b = true) (hbc : b.same c = true) :
    a.same c = true := by
  induction a using induction_on_parts generalizing b c with
  | h a ih =>
      rcases a.shape_cases with hatom | ⟨xs, rfl⟩ | ⟨xs, rfl⟩ | ⟨xs, rfl⟩
      · obtain ⟨k, ha, hb⟩ := (same_atom_iff hatom b).mp hab
        obtain ⟨l, hl, hc⟩ := (same_atom_iff (isAtom_of_key? hb) c).mp hbc
        obtain rfl : k = l := Option.some.inj (hb.symm.trans hl)
        exact (same_atom_iff hatom c).mpr ⟨k, ha, hc⟩
      · obtain ⟨ys, rfl, hxy⟩ := same_list_iff.mp hab
        obtain ⟨zs, rfl, hyz⟩ := same_list_iff.mp hbc
        exact same_list_iff.mpr ⟨zs, rfl, forall₂_same_trans (fun x hx _ _ => ih x hx) hxy hyz⟩
      · obtain ⟨ys, rfl, hxy⟩ := same_tuple_iff.mp hab
        obtain ⟨zs, rfl, hyz⟩ := same_tuple_iff.mp hbc
        exact same_tuple_iff.mpr ⟨zs, rfl, forall₂_same_trans (fun x hx _ _ => ih x hx) hxy hyz⟩
      · obtain ⟨ys, rfl, hlxy, hxy⟩ := same_dict_iff.mp hab
        obtain ⟨zs, rfl, hlyz, hyz⟩ := same_dict_iff.mp hbc
        refine same_dict_iff.mpr ⟨zs, rfl, hlxy.trans hlyz, ?_⟩
        intro e he
        obtain ⟨d, hd, hkey, hvalue⟩ := hxy e he
        obtain ⟨f, hf, hkey', hvalue'⟩ := hyz d hd
        exact ⟨f, hf, ih e.1 (key_mem_parts he) hkey hkey',
          ih e.2 (value_mem_parts he) hvalue hvalue'⟩

/-- A value that is not-a-number or holds it somewhere. -/
inductive HoldsNan : Value → Prop where
  | nan : HoldsNan (.float .nan)
  | part {v w : Value} : w ∈ v.parts → HoldsNan w → HoldsNan v

/-- If a value equals another one, each of its parts equals something. -/
theorem exists_same_of_mem_parts {v b w : Value} (h : v.same b = true) (hw : w ∈ v.parts) :
    ∃ d, w.same d = true := by
  rcases v.shape_cases with hatom | ⟨xs, rfl⟩ | ⟨xs, rfl⟩ | ⟨xs, rfl⟩
  · cases v with
    | list items => exact hatom.elim
    | tuple items => exact hatom.elim
    | dict entries => exact hatom.elim
    | _ => cases hw
  · obtain ⟨ys, -, hxy⟩ := same_list_iff.mp h
    obtain ⟨d, -, hd⟩ := exists_mem_of_forall₂ hxy hw
    exact ⟨d, hd⟩
  · obtain ⟨ys, -, hxy⟩ := same_tuple_iff.mp h
    obtain ⟨d, -, hd⟩ := exists_mem_of_forall₂ hxy hw
    exact ⟨d, hd⟩
  · obtain ⟨ys, -, -, hxy⟩ := same_dict_iff.mp h
    obtain ⟨e, he, hwe⟩ := exists_entry_of_mem_parts hw
    obtain ⟨d, -, hkey, hvalue⟩ := hxy e he
    rcases hwe with rfl | rfl
    · exact ⟨d.1, hkey⟩
    · exact ⟨d.2, hvalue⟩

theorem not_holdsNan_of_same {a b : Value} (h : a.same b = true) : ¬a.HoldsNan := by
  intro hnan
  induction hnan generalizing b with
  | nan =>
      obtain ⟨k, hk, -⟩ := (same_atom_iff (a := .float .nan) trivial b).mp h
      cases hk
  | part hw _ ih =>
      obtain ⟨d, hd⟩ := exists_same_of_mem_parts h hw
      exact ih hd

theorem exists_key_of_isAtom {v : Value} (h : v.IsAtom) (hnan : ¬v.HoldsNan) :
    ∃ k, v.key? = some k := by
  unfold key?
  cases htext : v.asText? with
  | some s => exact ⟨_, rfl⟩
  | none =>
      cases v with
      | list items => exact h.elim
      | tuple items => exact h.elim
      | dict entries => exact h.elim
      | float x =>
          cases x with
          | nan => exact absurd .nan hnan
          | _ => exact ⟨_, rfl⟩
      | text s => cases htext
      | _ => exact ⟨_, rfl⟩

/-- A value equals itself if and only if not-a-number is nowhere in it. -/
theorem same_self_iff (v : Value) : v.same v = true ↔ ¬v.HoldsNan := by
  refine ⟨not_holdsNan_of_same, ?_⟩
  intro hnan
  induction v using induction_on_parts with
  | h v ih =>
      have hparts : ∀ w ∈ v.parts, w.same w = true := by
        intro w hw
        exact ih w hw fun hn => hnan (.part hw hn)
      rcases v.shape_cases with hatom | ⟨xs, rfl⟩ | ⟨xs, rfl⟩ | ⟨xs, rfl⟩
      · obtain ⟨k, hk⟩ := exists_key_of_isAtom hatom hnan
        exact (same_atom_iff hatom v).mpr ⟨k, hk, hk⟩
      · exact same_list_iff.mpr ⟨xs, rfl, List.forall₂_same.mpr hparts⟩
      · exact same_tuple_iff.mpr ⟨xs, rfl, List.forall₂_same.mpr hparts⟩
      · refine same_dict_iff.mpr ⟨xs, rfl, rfl, ?_⟩
        intro e he
        exact ⟨e, he, hparts _ (key_mem_parts he), hparts _ (value_mem_parts he)⟩

end NamedConstants.Value
