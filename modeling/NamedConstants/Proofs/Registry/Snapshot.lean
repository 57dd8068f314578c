import NamedConstants.Proofs.Registry.Lookup
import NamedConstants.Proofs.Value.Equivalence

/-!
# Snapshots of group classes

A registry keeps every name that a class declares, in order, with the value of the first declared
member that is equal to the name's own (`snapshot_keeps_declared`).  A class resolves its aliases
by the members that it knows already; since equality is transitive, these find for every value
the same one as all values declared so far (`StandsFor`).
-/

namespace NamedConstants

namespace GroupClass

/-- The first of several values that equals a given one; the given one if none does. -/
def firstEqual (earlier : List Value) (v : Value) : Value :=
  (earlier.find? fun w => w.same v).getD v

/-- The known members stand for the values declared so far: the first of either that equals a
    value is the same. -/
def StandsFor (known : List Member) (seen : List Value) : Prop :=
  ∀ v : Value, (known.map Member.value).find? (fun w => w.same v) = seen.find? fun w => w.same v

section StandsFor

variable {known : List Member} {seen : List Value}

theorem standsFor_nil : StandsFor [] [] := fun _ => rfl

/-- An alias adds a value that is not first for anything. -/
theorem StandsFor.alias (h : StandsFor known seen) {m : Member} {value : Value} (hm : m ∈ known)
    (hs : m.value.same value = true) : StandsFor known (seen ++ [value]) := by
  intro v
  rw [List.find?_append, ← h v]
  cases hv : (known.map Member.value).find? fun w => w.same v with
  | some w => rfl
  | none =>
      have hnot : ¬value.same v = true := by
        intro hsame
        have hfirst := List.find?_eq_none.mp hv m.value (List.mem_map_of_mem hm)
        exact hfirst (Value.same_trans hs hsame)
      simp [hnot]

/-- A new member adds its value on both sides. -/
theorem StandsFor.new (h : StandsFor known seen) (name : String) (value : Value) :
    StandsFor (known ++ [⟨name, value⟩]) (seen ++ [value]) := by
  intro v
  rw [List.map_append, List.find?_append, List.find?_append, h v]
  rfl

/-- A name that is resolved stands for a member with the first value that equals its own. -/
theorem StandsFor.exists_mem_resolve (h : StandsFor known seen)
    (before after : List (String × Value)) (name : String) (value : Value) :
    ∃ m, (name, m) ∈ resolve known (before ++ (name, value) :: after) ∧
      m.value = firstEqual (seen ++ before.map Prod.snd) value := by
  induction before generalizing known seen with
  | nil =>
      have hfind : (known.find? fun m => m.value.same value).map Member.value =
          seen.find? fun w => w.same value := List.find?_map.symm.trans (h value)
      rw [List.nil_append, resolve, List.map_nil, List.append_nil, firstEqual, ← hfind]
      cases known.find? fun m => m.value.same value with
      | some m => exact ⟨m, List.mem_cons_self .., rfl⟩
      | none => exact ⟨⟨name, value⟩, List.mem_cons_self .., rfl⟩
  | cons e before ih =>
      obtain ⟨other, earlier⟩ := e
      rw [List.cons_append, resolve, List.map_cons, List.append_cons seen]
      cases hk : known.find? fun m => m.value.same earlier with
      | some k =>
          have hsame := List.find?_some hk
          obtain ⟨m, hmem, hvalue⟩ := ih (h.alias (List.mem_of_find?_eq_some hk) hsame)
          exact ⟨m, List.mem_cons_of_mem _ hmem, hvalue⟩
      | none =>
          obtain ⟨m, hmem, hvalue⟩ := ih (h.new other earlier)
          exact ⟨m, List.mem_cons_of_mem _ hmem, hvalue⟩

end StandsFor

variable {c : GroupClass}

/-- A declared name stands for a member with the first declared value that equals its own. -/
theorem exists_member_of_declared {before after : List (String × Value)} {name : String}
    {value : Value} (h : c.declared = before ++ (name, value) :: after) :
    ∃ m, (name, m) ∈ c.members ∧
      m.value = firstEqual (before.map fun e => c.keep e.2) (c.keep value) := by
  have hkept := standsFor_nil.exists_mem_resolve (before.map fun e => (e.1, c.keep e.2))
    (after.map fun e => (e.1, c.keep e.2)) name (c.keep value)
  rw [List.nil_append, List.map_map] at hkept
  rw [members, h, List.map_append, List.map_cons]
  exact hkept

/-- A member is found under its name. -/
theorem member?_of_mem {name : String} {m : Member} (h : (name, m) ∈ c.members) :
    c.member? name = some m := by
  have hexclusive : c.members.Pairwise fun a b => (a.1 == name) = true → (b.1 == name) = false := by
    refine (List.pairwise_map.mp c.nodup_members).imp ?_
    intro a b hab ha
    rw [beq_iff_eq] at ha
    exact beq_eq_false_iff_ne.mpr fun hb => hab (ha.trans hb.symm)
  rw [member?, find?_eq_some_of_mem hexclusive h (beq_self_eq_true name)]
  rfl

/-- The first equal value equals the given one if that one equals itself. -/
theorem same_firstEqual (earlier : List Value) {v : Value} (h : v.same v = true) :
    (firstEqual earlier v).same v = true := by
  unfold firstEqual
  cases hfind : earlier.find? fun w => w.same v with
  | none => exact h
  | some w =>
      have hsame := List.find?_some hfind
      exact hsame

end GroupClass

namespace Registry

open GroupClass (firstEqual)

variable {classes : List GroupClass} {r : Registry} {c : GroupClass}

/-- What a registry keeps of a class for a name that is declared with a value behind others. -/
structure Keeps (r : Registry) (c : GroupClass) (before : List (String × Value)) (name : String)
    (value kept : Value) : Prop where
  found : r.get (.text c.name) (.text name) = .ok kept
  /-- It is the value of the member that the name stands for. -/
  member : ∃ m, (name, m) ∈ c.members ∧ c.byName name = .ok (c.valueOf m) ∧ m.value = kept
  /-- Up to the name, the class converts all values that it declares. -/
  built : ∀ e ∈ before ++ [(name, value)], c.base.build c.codec e.2 = .ok (c.keep e.2)
  /-- It is the first declared value that equals the name's own, in the form in which the class
      keeps them. -/
  first : kept = firstEqual (before.map fun e => c.keep e.2) (c.keep value)
  /-- A class that is built on text keeps the text of every value itself. -/
  of_isText : c.base.isText = true →
    ∃ s, textOfDeclared c.codec value = .ok s ∧ kept = .text s
  /-- It equals the name's own value, unless not-a-number is in that. -/
  same : ¬(c.keep value).HoldsNan → kept.same (c.keep value) = true

theorem keeps_of_declared (h : ofClasses classes = .ok r) (hc : c ∈ classes)
    {before after : List (String × Value)} {name : String} {value : Value}
    (hd : c.declared = before ++ (name, value) :: after) :
    ∃ kept, Keeps r c before name value kept := by
  obtain ⟨m, hm, hvalue⟩ := GroupClass.exists_member_of_declared hd
  have hconstant : (.text name, m.value) ∈ (Group.ofClass c).constants :=
    List.mem_map.mpr ⟨(name, m), hm, rfl⟩
  have hdeclared : (name, value) ∈ c.declared := by simp [hd]
  refine ⟨m.value, ?_, ⟨m, hm, ?_, rfl⟩, ?_, hvalue, ?_, ?_⟩
  · rw [get_of_find? (find?_class h hc), Group.get?_of_mem hconstant]
  · rw [GroupClass.byName, GroupClass.member?_of_mem hm]
  · intro e he
    apply c.build_of_mem
    rw [hd, List.append_cons]
    exact List.mem_append_left _ he
  · intro htext
    obtain ⟨s, hs, hown⟩ := GroupClass.exists_textOfDeclared htext hdeclared
    have hkept : (.text name, c.keep value) ∈ (Group.ofClass c).constants := by
      rw [Group.constants_of_isText htext]
      exact List.mem_map.mpr ⟨(name, value), hdeclared, rfl⟩
    have hsame := (Group.get?_of_mem hconstant).symm.trans (Group.get?_of_mem hkept)
    exact ⟨s, hs, (Option.some.inj hsame).trans hown⟩
  · intro hnan
    rw [hvalue]
    exact GroupClass.same_firstEqual _ ((Value.same_self_iff _).mpr hnan)

/-- A registry keeps all names that a class declares, in order and aliases included, each with
    the value of the first declared member that is equal to its own. -/
theorem snapshot_keeps_declared (h : ofClasses classes = .ok r) (hc : c ∈ classes) :
    r.constantNames (.text c.name) = .ok (c.declared.map fun e => .text e.1) ∧
      ∀ (before after : List (String × Value)) (name : String) (value : Value),
        c.declared = before ++ (name, value) :: after →
          ∃ kept, Keeps r c before name value kept := by
  refine ⟨?_, fun before after name value hd => keeps_of_declared h hc hd⟩
  have hnames : (Group.ofClass c).names = (c.members.map Prod.fst).map Value.text := by
    rw [Group.names, Group.ofClass, List.map_map, List.map_map]
    rfl
  rw [constantNames, group_of_find? (find?_class h hc), Except.map, hnames,
    GroupClass.map_fst_members, List.map_map]
  rfl

/-- A class that declares one in three types, and not-a-number twice. -/
def numbers : GroupClass where
  name := "Numbers"
  base := .plain
  doc := none
  declared := [("one", .int 1), ("yes", .bool true), ("unit", .float (.finite false 1 0)),
    ("lost", .float .nan), ("gone", .float .nan)]
  assigned := []
  distinct := by decide

/-- A class that is built on text and declares a text, the same one in a tuple, and nothing. -/
def letters : GroupClass where
  name := "Letters"
  base := .text
  doc := none
  declared := [("first", .text "a"), ("packed", .tuple [.text "a"]), ("nothing", .tuple [])]
  assigned := []
  distinct := by decide

/-- An alias is kept with the value of the first member, which may be of another type.  A tuple is
    kept as the text that is made of what it holds. -/
theorem snapshot_keeps_declared_numbers :
    ∃ r, ofClasses [numbers, letters] = .ok r ∧
      r.constantNames (.text "Numbers") =
        .ok [.text "one", .text "yes", .text "unit", .text "lost", .text "gone"] ∧
      (∃ kept, Keeps r numbers [("one", .int 1), ("yes", .bool true)] "unit"
        (.float (.finite false 1 0)) kept) ∧
      r.get (.text "Numbers") (.text "unit") = .ok (.int 1) ∧
      r.get (.text "Numbers") (.text "gone") = .ok (.float .nan) ∧
      (Value.int 1).typeName ≠ (Value.float (.finite false 1 0)).typeName ∧
      r.get (.text "Letters") (.text "packed") = .ok (.text "a") ∧
      r.get (.text "Letters") (.text "nothing") = .ok (.text "") := by
  obtain ⟨r, hr⟩ : ∃ r, ofClasses [numbers, letters] = .ok r := by
    rw [ofClasses_ok_iff]
    decide
  have hnumbers : numbers ∈ [numbers, letters] := List.mem_cons_self ..
  have hletters : letters ∈ [numbers, letters] := by simp
  obtain ⟨hnames, hkeeps⟩ := snapshot_keeps_declared hr hnumbers
  obtain ⟨-, htexts⟩ := snapshot_keeps_declared hr hletters
  obtain ⟨one, hone⟩ := hkeeps [("one", .int 1), ("yes", .bool true)]
    [("lost", .float .nan), ("gone", .float .nan)] "unit" (.float (.finite false 1 0)) rfl
  obtain ⟨gone, hgone⟩ := hkeeps [("one", .int 1), ("yes", .bool true),
    ("unit", .float (.finite false 1 0)), ("lost", .float .nan)] [] "gone" (.float .nan) rfl
  obtain ⟨packed, hpacked⟩ := htexts [("first", .text "a")] [("nothing", .tuple [])] "packed"
    (.tuple [.text "a"]) rfl
  obtain ⟨nothing, hnothing⟩ := htexts [("first", .text "a"), ("packed", .tuple [.text "a"])] []
    "nothing" (.tuple []) rfl
  have hsame : (Value.int 1).same (.float (.finite false 1 0)) = true := by decide +kernel
  have hint : one = .int 1 := by
    have hfirst : one = firstEqual [.int 1, .bool true] (.float (.finite false 1 0)) := hone.first
    simp [hfirst, firstEqual, hsame]
  have hnan : gone = .float .nan := hgone.first
  obtain ⟨a, ha, rfl⟩ := hpacked.of_isText rfl
  obtain rfl : "a" = a := Except.ok.inj ha
  obtain ⟨empty, hempty, rfl⟩ := hnothing.of_isText rfl
  obtain rfl : "" = empty := Except.ok.inj hempty
  refine ⟨r, hr, hnames, ⟨one, hone⟩, ?_, ?_, by decide, hpacked.found, hnothing.found⟩
  · rw [← hint]
    exact hone.found
  · rw [← hnan]
    exact hgone.found

end Registry

end NamedConstants
