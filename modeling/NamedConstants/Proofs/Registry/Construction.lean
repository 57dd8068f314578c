import NamedConstants.Proofs.Value.Equality
import NamedConstants.Registry.Basic

/-!
# Registries of group classes

A registry that is made of group classes holds their snapshots in the given order
(`groups_of_ofClasses`).  So its groups and their constants have texts for names, and no two
members of a class have the same name (`GroupClass.nodup_members`).
-/

namespace NamedConstants

/-- Resolving aliases keeps the names in their order. -/
theorem GroupClass.map_fst_resolve (known : List Member) (declared : List (String × Value)) :
    (resolve known declared).map Prod.fst = declared.map Prod.fst := by
  induction declared generalizing known with
  | nil => rfl
  | cons e rest ih =>
      obtain ⟨name, value⟩ := e
      unfold resolve
      split
      · rw [List.map_cons, List.map_cons, ih]
      · rw [List.map_cons, List.map_cons, ih]

/-- The members of a class stand under the declared names. -/
theorem GroupClass.map_fst_members (c : GroupClass) :
    c.members.map Prod.fst = c.declared.map Prod.fst := by
  rw [members, map_fst_resolve, List.map_map]
  rfl

theorem GroupClass.nodup_members (c : GroupClass) : (c.members.map Prod.fst).Nodup := by
  rw [map_fst_members]
  exact c.distinct

/-- What holds of all declared values holds of the values of all members. -/
theorem GroupClass.forall_value_resolve {P : Value → Prop} {known : List Member}
    {declared : List (String × Value)} (hk : ∀ m ∈ known, P m.value)
    (hd : ∀ e ∈ declared, P e.2) : ∀ e ∈ resolve known declared, P e.2.value := by
  induction declared generalizing known with
  | nil => simp [resolve]
  | cons e rest ih =>
      obtain ⟨name, value⟩ := e
      obtain ⟨hvalue, hrest⟩ := List.forall_mem_cons.mp hd
      rw [resolve]
      cases hfind : known.find? fun m => m.value.same value with
      | some m =>
          have hm := List.mem_of_find?_eq_some hfind
          exact List.forall_mem_cons.mpr ⟨hk m hm, ih hk hrest⟩
      | none =>
          refine List.forall_mem_cons.mpr ⟨hvalue, ih ?_ hrest⟩
          exact List.forall_mem_append.mpr ⟨hk, List.forall_mem_singleton.mpr hvalue⟩

/-- A class converts every value that it declares. -/
theorem GroupClass.build_of_mem (c : GroupClass) {e : String × Value} (h : e ∈ c.declared) :
    c.base.build c.codec e.2 = .ok (c.keep e.2) := by
  have hnone := c.converted
  rw [Base.fault?, List.findSome?_eq_none_iff] at hnone
  rw [keep]
  cases hbuild : c.base.build c.codec e.2 with
  | ok kept => rfl
  | error failure =>
      have hfault := hnone e h
      rw [hbuild] at hfault
      cases hfault

/-- What a class that is built on text makes of a value that it declares is a text. -/
theorem GroupClass.exists_textOfDeclared {c : GroupClass} (h : c.base.isText = true)
    {e : String × Value} (he : e ∈ c.declared) :
    ∃ s, textOfDeclared c.codec e.2 = .ok s ∧ c.keep e.2 = .text s := by
  have hbuild := c.build_of_mem he
  rw [Base.build, if_pos h] at hbuild
  cases htext : textOfDeclared c.codec e.2 with
  | error failure => rw [htext] at hbuild; cases hbuild
  | ok s =>
      rw [htext] at hbuild
      exact ⟨s, rfl, (Except.ok.inj hbuild).symm⟩

/-- A class that is built on text keeps texts. -/
theorem GroupClass.exists_text_of_isText {c : GroupClass} (h : c.base.isText = true) :
    ∀ e ∈ c.members, ∃ s, e.2.value = .text s := by
  apply forall_value_resolve (P := fun v => ∃ s, v = .text s) (by simp)
  rw [List.forall_mem_map]
  intro e he
  obtain ⟨s, -, hs⟩ := exists_textOfDeclared h he
  exact ⟨s, hs⟩

/-- Where all values are texts, each name keeps its own: an alias stands for a member with the
    same text. -/
theorem GroupClass.map_resolve_of_texts {known : List Member} {declared : List (String × Value)}
    (hk : ∀ m ∈ known, ∃ s, m.value = .text s) (hd : ∀ e ∈ declared, ∃ s, e.2 = .text s) :
    ((resolve known declared).map fun e => (e.1, e.2.value)) = declared := by
  induction declared generalizing known with
  | nil => rfl
  | cons e rest ih =>
      obtain ⟨name, value⟩ := e
      obtain ⟨⟨s, hs⟩, hrest⟩ := List.forall_mem_cons.mp hd
      subst hs
      rw [resolve]
      cases hfind : known.find? fun m => m.value.same (.text s) with
      | some m =>
          obtain ⟨t, ht⟩ := hk m (List.mem_of_find?_eq_some hfind)
          have hsame := List.find?_some hfind
          rw [ht, Value.same_text_text, beq_iff_eq] at hsame
          rw [List.map_cons, ih hk hrest, ht, hsame]
      | none =>
          have hnew : ∀ m ∈ known ++ [⟨name, .text s⟩], ∃ s, m.value = .text s :=
            List.forall_mem_append.mpr ⟨hk, List.forall_mem_singleton.mpr ⟨s, rfl⟩⟩
          rw [List.map_cons, ih hnew hrest]

/-- A class that is built on text keeps the text of each declared value under its name. -/
theorem Group.constants_of_isText {c : GroupClass} (h : c.base.isText = true) :
    (ofClass c).constants = c.declared.map fun e => (.text e.1, c.keep e.2) := by
  have hkept : c.members.map (fun e => (e.1, e.2.value)) =
      c.declared.map fun e => (e.1, c.keep e.2) := by
    apply GroupClass.map_resolve_of_texts (by simp)
    rw [List.forall_mem_map]
    intro e he
    obtain ⟨s, -, hs⟩ := GroupClass.exists_textOfDeclared h he
    exact ⟨s, hs⟩
  have htexts := congrArg (List.map fun e => (Value.text e.1, e.2)) hkept
  rw [List.map_map, List.map_map] at htexts
  exact htexts

namespace Registry

theorem find?_add_eq_none_iff {r : Registry} {g : Group} (h : r.find? g.name = none)
    (name : Value) :
    (r.add g h).find? name = none ↔ r.find? name = none ∧ g.name.same name = false := by
  simp [find?, add, List.find?_append]

/-- Classes can be added if and only if their names are new and different. -/
theorem addClasses_ok_iff (r : Registry) (classes : List GroupClass) :
    (∃ r', r.addClasses classes = .ok r') ↔
      (∀ c ∈ classes, r.find? (.text c.name) = none) ∧ (classes.map (·.name)).Nodup := by
  induction classes generalizing r with
  | nil => simp [addClasses]
  | cons c rest ih =>
      rw [addClasses]
      by_cases h : r.find? (Group.ofClass c).name = none
      · have hname : r.find? (.text c.name) = none := h
        rw [dif_pos h, ih]
        have hdiffer : ∀ d : GroupClass,
            (Group.ofClass c).name.same (.text d.name) = false ↔ ¬d.name = c.name := by
          intro d
          rw [Group.ofClass, Value.same_text_text, beq_eq_false_iff_ne]
          exact ne_comm
        simp only [find?_add_eq_none_iff, hdiffer]
        simp [hname, imp_and, forall_and, and_assoc]
      · have hname : r.find? (.text c.name) ≠ none := h
        simp [h, hname]

/-- Classes make a registry if and only if their names are different. -/
theorem ofClasses_ok_iff (classes : List GroupClass) :
    (∃ r, ofClasses classes = .ok r) ↔ (classes.map (·.name)).Nodup := by
  rw [ofClasses, addClasses_ok_iff]
  simp [empty, find?]

/-- Adding classes fails at the first one whose name is taken; those in front of it have been
    added. -/
theorem exists_taken_of_addClasses_error {r : Registry} {classes : List GroupClass} {f : Failure}
    (h : r.addClasses classes = .error f) :
    ∃ before c after r', classes = before ++ c :: after ∧ r.addClasses before = .ok r' ∧
      r'.find? (.text c.name) ≠ none ∧ f = .duplicateGroup c.name := by
  induction classes generalizing r with
  | nil => cases h
  | cons c rest ih =>
      by_cases hfree : r.find? (Group.ofClass c).name = none
      · rw [addClasses, dif_pos hfree] at h
        obtain ⟨before, d, after, r', rfl, hbefore, htaken, hf⟩ := ih h
        refine ⟨c :: before, d, after, r', rfl, ?_, htaken, hf⟩
        rw [addClasses, dif_pos hfree, hbefore]
      · rw [addClasses, dif_neg hfree] at h
        exact ⟨[], c, rest, r, rfl, rfl, hfree, (Except.error.inj h).symm⟩

/-- Adding classes puts their snapshots behind the groups that are there. -/
theorem groups_of_addClasses {classes : List GroupClass} {r r' : Registry}
    (h : r.addClasses classes = .ok r') : r'.groups = r.groups ++ classes.map Group.ofClass := by
  induction classes generalizing r with
  | nil =>
      obtain rfl : r = r' := Except.ok.inj h
      rw [List.map_nil, List.append_nil]
  | cons c rest ih =>
      unfold addClasses at h
      split at h
      · rw [ih h, add, List.append_assoc]
        rfl
      · cases h

/-- A registry of classes holds their snapshots. -/
theorem groups_of_ofClasses {classes : List GroupClass} {r : Registry}
    (h : ofClasses classes = .ok r) : r.groups = classes.map Group.ofClass :=
  groups_of_addClasses h

theorem exists_class_of_mem {classes : List GroupClass} {r : Registry}
    (h : ofClasses classes = .ok r) {g : Group} (hg : g ∈ r.groups) :
    ∃ c ∈ classes, Group.ofClass c = g := by
  rw [groups_of_ofClasses h] at hg
  exact List.mem_map.mp hg

end Registry

end NamedConstants
