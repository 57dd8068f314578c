import Mathlib.Algebra.GroupWithZero.Nat
import NamedConstants.Proofs.Registry.Construction
import NamedConstants.Registry.Shipped

/-!
# Look-ups

All answers of a registry of group classes tell one story (`accessors_agree`): a constant is
found exactly if the registry contains the pair of its names, its value is the one that the
group's table and its entries give, and the failure of a look-up says which of the two names
is not there.
-/

namespace NamedConstants

section Exclusive

variable {α : Type} {p : α → Bool} {l : List α}

/-- The only member of a list that passes a test is all that the test leaves of it. -/
theorem filter_eq_singleton_of_find? (hl : l.Pairwise fun a b => p a = true → p b = false) {a : α}
    (h : l.find? p = some a) : l.filter p = [a] := by
  induction l with
  | nil => cases h
  | cons b l ih =>
      obtain ⟨hb, hl⟩ := List.pairwise_cons.mp hl
      cases hp : p b with
      | true =>
          rw [List.find?_cons_of_pos hp] at h
          obtain rfl : b = a := Option.some.inj h
          have hnone : l.filter p = [] := by
            rw [List.filter_eq_nil_iff]
            intro c hc
            simp [hb c hc hp]
          rw [List.filter_cons_of_pos hp, hnone]
      | false =>
          have hn : ¬p b = true := by simp [hp]
          rw [List.find?_cons_of_neg hn] at h
          rw [List.filter_cons_of_neg hn, ih hl h]

/-- The only member of a list that passes a test is found. -/
theorem find?_eq_some_of_mem (hl : l.Pairwise fun a b => p a = true → p b = false) {a : α}
    (ha : a ∈ l) (h : p a = true) : l.find? p = some a := by
  induction l with
  | nil => cases ha
  | cons b l ih =>
      obtain ⟨hb, hl⟩ := List.pairwise_cons.mp hl
      rcases List.mem_cons.mp ha with rfl | ha
      · exact List.find?_cons_of_pos h
      · have hn : ¬p b = true := fun hp => by simp [hb a ha hp] at h
        rw [List.find?_cons_of_neg hn, ih hl ha]

/-- If at most one member passes a test, the order of a list does not matter to the search. -/
theorem find?_eq_of_perm {l' : List α} (hp : l.Perm l')
    (hl : l.Pairwise fun a b => p a = true → p b = false) : l.find? p = l'.find? p := by
  cases h : l.find? p with
  | none =>
      have hnone : ∀ a ∈ l', ¬p a = true := by
        intro a ha
        exact List.find?_eq_none.mp h a (hp.symm.subset ha)
      exact (List.find?_eq_none.mpr hnone).symm
  | some a =>
      have hl' : l'.Pairwise fun a b => p a = true → p b = false := by
        refine hp.pairwise hl ?_
        intro a b hab hb
        cases ha : p a with
        | false => rfl
        | true => simp [hab ha] at hb
      have hpass := List.find?_some h
      exact (find?_eq_some_of_mem hl' (hp.subset (List.mem_of_find?_eq_some h)) hpass).symm

end Exclusive

namespace Group

theorem isIn_names (g : Group) (name : Value) : name.isIn g.names = (g.get? name).isSome := by
  rw [Value.isIn, names, get?, Value.lookup?, Option.isSome_map, List.isSome_find?, List.any_map]
  rfl

/-- No two constants of a snapshot have equal names. -/
theorem pairwise_ofClass (c : GroupClass) :
    (ofClass c).constants.Pairwise fun a b => a.1.same b.1 = false := by
  have hn : c.members.Pairwise fun a b => a.1 ≠ b.1 := List.pairwise_map.mp c.nodup_members
  refine List.pairwise_map.mpr (hn.imp ?_)
  intro a b hab
  rw [Value.same_text_text]
  exact beq_eq_false_iff_ne.mpr hab

/-- At most one constant of a snapshot has a given name. -/
theorem exclusive_ofClass (c : GroupClass) (name : Value) :
    (ofClass c).constants.Pairwise fun a b => a.1.same name = true → b.1.same name = false := by
  refine List.pairwise_map.mpr ((List.pairwise_map.mp (pairwise_ofClass c)).imp ?_)
  intro a b hab
  exact Value.same_text_exclusive hab

/-- A constant of a snapshot is found under texts only. -/
theorem isText_of_get? {c : GroupClass} {name value : Value}
    (h : (ofClass c).get? name = some value) : name.isText = true := by
  obtain ⟨e, he, -⟩ := Option.map_eq_some_iff.mp h
  have hs := List.find?_some he
  obtain ⟨m, -, rfl⟩ := List.mem_map.mp (List.mem_of_find?_eq_some he)
  exact Value.isText_of_same_text hs

/-- A constant of a snapshot is found under its name. -/
theorem get?_of_mem {c : GroupClass} {name value : Value}
    (h : (name, value) ∈ (ofClass c).constants) : (ofClass c).get? name = some value := by
  have hsame : name.same name = true := by
    obtain ⟨m, -, hm⟩ := List.mem_map.mp h
    have hname : .text m.1 = name := congrArg Prod.fst hm
    rw [← hname, Value.same_text_text]
    exact beq_self_eq_true m.1
  have hfind := find?_eq_some_of_mem (exclusive_ofClass c name) h hsame
  rw [get?, Value.lookup?, hfind]
  rfl

/-- The entries of a snapshot with a given name are the one that a look-up finds. -/
theorem filter_entries_of_get? {c : GroupClass} {name value : Value}
    (h : (ofClass c).get? name = some value) :
    ∃ e, (ofClass c).entries.filter (fun e => e.name.same name) = [e] ∧ e.value = value := by
  obtain ⟨e, he, rfl⟩ := Option.map_eq_some_iff.mp h
  refine ⟨⟨(ofClass c).name, e.1, e.2⟩, ?_, rfl⟩
  have hf := filter_eq_singleton_of_find? (exclusive_ofClass c name) he
  rw [entries, List.filter_map]
  exact congrArg (List.map _) hf

end Group

namespace Registry

variable {classes : List GroupClass} {r : Registry}

theorem same_of_find? {name : Value} {g : Group} (h : r.find? name = some g) :
    g.name.same name = true := by
  have hs := List.find?_some h
  exact hs

theorem mem_of_find? {name : Value} {g : Group} (h : r.find? name = some g) : g ∈ r.groups :=
  List.mem_of_find?_eq_some h

theorem group_of_find? {name : Value} {g : Group} (h : r.find? name = some g) :
    r.group name = .ok g := by
  simp [group, h]

theorem group_of_not_find? {name : Value} (h : r.find? name = none) :
    r.group name = .error (.unknownGroup name r.names) := by
  simp [group, h]

theorem find?_of_group {name : Value} {g : Group} (h : r.group name = .ok g) :
    r.find? name = some g := by
  cases hf : r.find? name with
  | none =>
      rw [group_of_not_find? hf] at h
      cases h
  | some found =>
      rw [group_of_find? hf] at h
      exact congrArg some (Except.ok.inj h)

/-- A look-up in a group that is there goes by the group alone. -/
theorem get_of_find? {group : Value} {g : Group} (h : r.find? group = some g) (name : Value) :
    r.get group name = match g.get? name with
      | some value => .ok value
      | none => .error (.unknownConstant name group g.names) := by
  rw [get, group_of_find? h]
  rfl

theorem get_of_not_find? {group : Value} (h : r.find? group = none) (name : Value) :
    r.get group name = .error (.unknownGroup group r.names) := by
  rw [get, group_of_not_find? h]
  rfl

/-- A value that is found is the value of a constant of a group. -/
theorem exists_mem_of_get {group name value : Value} (h : r.get group name = .ok value) :
    ∃ g ∈ r.groups, ∃ key, (key, value) ∈ g.constants := by
  cases hfind : r.find? group with
  | none =>
      rw [get_of_not_find? hfind] at h
      cases h
  | some g =>
      rw [get_of_find? hfind] at h
      cases hget : g.get? name with
      | none => rw [hget] at h; cases h
      | some found =>
          rw [hget] at h
          obtain rfl := Except.ok.inj h
          obtain ⟨e, he, rfl⟩ := Option.map_eq_some_iff.mp hget
          exact ⟨g, mem_of_find? hfind, e.1, List.mem_of_find?_eq_some he⟩

theorem isText_of_find? (h : ofClasses classes = .ok r) {name : Value} {g : Group}
    (hg : r.find? name = some g) : name.isText = true := by
  have hs := same_of_find? hg
  obtain ⟨c, -, rfl⟩ := exists_class_of_mem h (mem_of_find? hg)
  exact Value.isText_of_same_text hs

/-- Nothing but a text is the name of a constant. -/
theorem exists_get_error_of_not_isText (h : ofClasses classes = .ok r) (group : Value)
    {name : Value} (hname : name.isText = false) : ∃ failure, r.get group name = .error failure := by
  cases hfind : r.find? group with
  | none => exact ⟨_, get_of_not_find? hfind name⟩
  | some g =>
      obtain ⟨c, -, rfl⟩ := exists_class_of_mem h (mem_of_find? hfind)
      rw [get_of_find? hfind]
      cases hget : (Group.ofClass c).get? name with
      | none => exact ⟨_, rfl⟩
      | some value =>
          rw [Group.isText_of_get? hget] at hname
          cases hname

/-- A pair is contained if both parts are texts and the group is there and has the constant. -/
theorem contains_pair (r : Registry) (group name : Value) :
    r.contains (.tuple [group, name]) =
      (group.isText && name.isText && (r.find? group).any fun g => (g.get? name).isSome) := by
  have htuple : (Value.tuple [group, name]).isText = false := rfl
  simp only [contains, htuple]
  cases r.find? group <;> cases group.isText <;> cases name.isText <;> rfl

theorem contains_of_find? (h : ofClasses classes = .ok r) {group : Value} {g : Group}
    (hg : r.find? group = some g) (name : Value) :
    r.contains (.tuple [group, name]) = (g.get? name).isSome := by
  obtain ⟨c, -, rfl⟩ := exists_class_of_mem h (mem_of_find? hg)
  rw [contains_pair, hg, isText_of_find? h hg]
  show (name.isText && ((Group.ofClass c).get? name).isSome) = _
  cases hn : (Group.ofClass c).get? name with
  | none => simp
  | some value => simp [Group.isText_of_get? hn]

theorem contains_of_not_find? {group : Value} (h : r.find? group = none) (name : Value) :
    r.contains (.tuple [group, name]) = false := by
  rw [contains_pair, h]
  exact Bool.and_false _

/-- A group of a registry of classes is found under every value that equals its name. -/
theorem find?_of_same (h : ofClasses classes = .ok r) {g : Group} (hg : g ∈ r.groups)
    {name : Value} (hs : g.name.same name = true) : r.find? name = some g := by
  have hl : r.groups.Pairwise fun a b =>
      a.name.same name = true → b.name.same name = false := by
    have hd := r.distinct
    rw [groups_of_ofClasses h] at hd ⊢
    refine List.pairwise_map.mpr ((List.pairwise_map.mp hd).imp ?_)
    intro a b hab
    exact Value.same_text_exclusive hab
  exact find?_eq_some_of_mem hl hg hs

/-- A group of a registry of classes is found under its own name. -/
theorem find?_name (h : ofClasses classes = .ok r) {g : Group} (hg : g ∈ r.groups) :
    r.find? g.name = some g := by
  apply find?_of_same h hg
  obtain ⟨c, -, rfl⟩ := exists_class_of_mem h hg
  exact Value.same_text_iff.mpr rfl

/-- The snapshot of a registered class is found under the class's name. -/
theorem find?_class (h : ofClasses classes = .ok r) {c : GroupClass} (hc : c ∈ classes) :
    r.find? (.text c.name) = some (Group.ofClass c) := by
  have hg : Group.ofClass c ∈ r.groups := by
    rw [groups_of_ofClasses h]
    exact List.mem_map_of_mem hc
  exact find?_name h hg

/-- What the answers of a registry about one constant have to do with each other. -/
structure LookupsAgree (r : Registry) (group name : Value) : Prop where
  /-- A constant is found if and only if the registry contains the pair. -/
  found_iff_contains :
    (∃ value, r.get group name = .ok value) ↔ r.contains (.tuple [group, name]) = true
  /-- It is found if and only if the group is there and the name is one of its names. -/
  found_iff_isIn :
    (∃ value, r.get group name = .ok value) ↔
      ∃ g names, r.group group = .ok g ∧ r.constantNames group = .ok names ∧
        name.isIn names = true
  /-- The value is the one in the group's table, and that of the only entry of the name. -/
  value_of_found : ∀ value, r.get group name = .ok value →
    (∃ table, r.constants group = .ok table ∧ Value.lookup? name table = some value) ∧
      ∃ entries e, r.entries (some group) = .ok entries ∧
        entries.filter (fun e => e.name.same name) = [e] ∧ e.value = value
  /-- A group that is there gives its names, its table and its entries, and a look-up in it
      can only fail for want of the constant. -/
  of_group : ∀ g, r.group group = .ok g →
    r.constantNames group = .ok g.names ∧ r.constants group = .ok g.constants ∧
      r.entries (some group) = .ok g.entries ∧
      ∀ failure, r.get group name = .error failure → failure.category = .unknownConstant
  /-- Without the group everything fails in the same way. -/
  of_no_group : ∀ failure, r.group group = .error failure →
    failure.category = .unknownGroup ∧ r.constantNames group = .error failure ∧
      r.constants group = .error failure ∧ r.entries (some group) = .error failure ∧
      r.get group name = .error failure

theorem lookupsAgree (h : ofClasses classes = .ok r) (group name : Value) :
    r.LookupsAgree group name := by
  cases hf : r.find? group with
  | none =>
      have hg := group_of_not_find? hf
      have hget := get_of_not_find? hf name
      exact {
        found_iff_contains := by simp [hget, contains_of_not_find? hf name]
        found_iff_isIn := by simp [hget, hg]
        value_of_found := by
          intro value hv
          rw [hget] at hv
          cases hv
        of_group := by
          intro g hg'
          rw [hg] at hg'
          cases hg'
        of_no_group := by
          intro failure hfail
          obtain rfl := Except.error.inj (hg.symm.trans hfail)
          refine ⟨rfl, ?_, ?_, ?_, hget⟩
          · rw [constantNames, hg]; rfl
          · rw [constants, hg]; rfl
          · rw [entries, select, hg]; rfl }
  | some g =>
      have hg := group_of_find? hf
      have hget := get_of_find? hf name
      have hnames : r.constantNames group = .ok g.names := by rw [constantNames, hg]; rfl
      have htable : r.constants group = .ok g.constants := by rw [constants, hg]; rfl
      have hentries : r.entries (some group) = .ok g.entries := by
        rw [entries, select, hg]
        exact congrArg Except.ok (List.append_nil g.entries)
      have hfound : (∃ value, r.get group name = .ok value) ↔ (g.get? name).isSome = true := by
        rw [hget]
        cases g.get? name <;> simp
      exact {
        found_iff_contains := by rw [hfound, contains_of_find? h hf name]
        found_iff_isIn := by
          rw [hfound, ← Group.isIn_names]
          constructor
          · intro hin
            exact ⟨g, g.names, hg, hnames, hin⟩
          · rintro ⟨-, names, -, hn, hin⟩
            obtain rfl := Except.ok.inj (hnames.symm.trans hn)
            exact hin
        value_of_found := by
          intro value hv
          rw [hget] at hv
          cases hn : g.get? name with
          | none => rw [hn] at hv; cases hv
          | some found =>
              rw [hn] at hv
              obtain rfl : found = value := Except.ok.inj hv
              obtain ⟨c, -, rfl⟩ := exists_class_of_mem h (mem_of_find? hf)
              obtain ⟨e, he, hev⟩ := Group.filter_entries_of_get? hn
              exact ⟨⟨_, htable, hn⟩, _, e, hentries, he, hev⟩
        of_group := by
          intro g' hg'
          obtain rfl := Except.ok.inj (hg.symm.trans hg')
          refine ⟨hnames, htable, hentries, ?_⟩
          intro failure hfail
          rw [hget] at hfail
          cases hn : g.get? name with
          | none =>
              rw [hn] at hfail
              obtain rfl := Except.error.inj hfail
              rfl
          | some found => rw [hn] at hfail; cases hfail
        of_no_group := by
          intro failure hfail
          rw [hg] at hfail
          cases hfail }

/-- Asking for groups by name, one after the other, gives the answers for the groups. -/
theorem mapM_names {α : Type} {f : Value → Except Failure α} {answer : Group → α}
    {groups : List Group} (h : ∀ g ∈ groups, f g.name = .ok (answer g)) :
    (groups.map (·.name)).mapM f = .ok (groups.map answer) := by
  induction groups with
  | nil => rfl
  | cons g groups ih =>
      rw [List.map_cons, List.mapM_cons, h g (by simp), ih fun g' hg' => h g' (by simp [hg'])]
      rfl

theorem entries_name (h : ofClasses classes = .ok r) {g : Group} (hg : g ∈ r.groups) :
    r.entries (some g.name) = .ok g.entries := by
  rw [entries, select, group_of_find? (find?_name h hg)]
  exact congrArg Except.ok (List.append_nil g.entries)

theorem constants_name (h : ofClasses classes = .ok r) {g : Group} (hg : g ∈ r.groups) :
    r.constants g.name = .ok g.constants := by
  rw [constants, group_of_find? (find?_name h hg)]
  rfl

/-- No two entries of a registry of classes have both names in common. -/
theorem pairwise_entries (h : ofClasses classes = .ok r) :
    (r.groups.flatMap Group.entries).Pairwise fun a b =>
      (Value.tuple [a.group, a.name]).same (.tuple [b.group, b.name]) = false := by
  have hpair : ∀ a b c d : Value, (Value.tuple [a, b]).same (.tuple [c, d]) =
      (a.same c && b.same d) := by
    intro a b c d
    simp [Value.same, Value.sameItems]
  refine List.pairwise_flatMap.mpr ⟨?_, ?_⟩
  · intro g hg
    obtain ⟨c, -, rfl⟩ := exists_class_of_mem h hg
    refine List.pairwise_map.mpr ((Group.pairwise_ofClass c).imp ?_)
    intro a b hab
    rw [hpair, hab, Bool.and_false]
  · refine r.distinct.imp ?_
    intro g g' hne a ha b hb
    obtain ⟨e, -, rfl⟩ := List.mem_map.mp ha
    obtain ⟨e', -, rfl⟩ := List.mem_map.mp hb
    rw [hpair, hne, Bool.false_and]

theorem ofClasses_shippedGroups : ofClasses GroupClass.shippedGroups = .ok shipped := rfl

/-- All answers of a registry of classes tell one story.  Look-ups agree about every group and
    name.  The entries of the whole registry are those of its groups in order, no two of them
    have both names in common, and there are as many as constants in all groups. -/
theorem accessors_agree (h : ofClasses classes = .ok r) :
    (∀ group name : Value, r.LookupsAgree group name) ∧
      ∃ parts, r.names.mapM (fun name => r.entries (some name)) = .ok parts ∧
        r.entries none = .ok parts.flatten ∧
        (parts.flatten.Pairwise fun a b =>
          (Value.tuple [a.group, a.name]).same (.tuple [b.group, b.name]) = false) ∧
        parts.flatten.length = (r.groups.map Group.size).sum := by
  refine ⟨fun group name => lookupsAgree h group name, r.groups.map Group.entries, ?_, ?_, ?_, ?_⟩
  · exact mapM_names fun g hg => entries_name h hg
  · rw [entries, select, ← List.flatMap_def]
    rfl
  · rw [← List.flatMap_def]
    exact pairwise_entries h
  · rw [List.length_flatten, List.map_map]
    congr 1
    refine List.map_congr_left ?_
    intro g _
    exact List.length_map _

/-- The shipped registry answers alike when it is asked by members that are texts. -/
theorem accessors_agree_shipped :
    ofClasses GroupClass.shippedGroups = .ok shipped ∧
      shipped.LookupsAgree (.member "Labels" .text "Group" (.text "ErrorCode"))
        (.member "Labels" .literal "Name" (.text "InternalError")) :=
  ⟨rfl, (accessors_agree ofClasses_shippedGroups).1 _ _⟩

end Registry

end NamedConstants
