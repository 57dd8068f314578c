import Mathlib.Data.List.Perm.Basic
import NamedConstants.Proofs.Registry.Lookup
import NamedConstants.Registry.Validation

/-!
# Rearranged classes

The groups of a registry do not depend on each other, and the order of the constants of a group
does not matter to a look-up.  Aliases could make it matter, for it is the first of several equal
members that they stand for; but a class that is built on text has equal members only where the
texts are the same.  So its members may change places (`GroupClass.IsReordering`), and so may the
classes of a registry (`Registry.Rearranged`).
-/

namespace NamedConstants

/-- A class declares the members of another one of the same name and base, made by the same
    interpreter; if it is built on text, maybe in another order. -/
structure GroupClass.IsReordering (c d : GroupClass) : Prop where
  name_eq : c.name = d.name
  base_eq : c.base = d.base
  codec_eq : c.codec = d.codec
  declared : c.declared = d.declared ∨ c.base.isText = true ∧ c.declared.Perm d.declared

namespace Group

/-- A group holds the constants of another one of the same name, maybe in another order. -/
structure IsReordering (g g' : Group) : Prop where
  name_eq : g.name = g'.name
  constants : g.constants.Perm g'.constants

theorem isReordering_ofClass {c d : GroupClass} (h : c.IsReordering d) :
    (ofClass c).IsReordering (ofClass d) := by
  have hkeep : c.keep = d.keep := by
    funext v
    rw [GroupClass.keep, GroupClass.keep, h.base_eq, h.codec_eq]
  refine ⟨congrArg Value.text h.name_eq, ?_⟩
  rcases h.declared with hdeclared | ⟨htext, hperm⟩
  · have hmembers : c.members = d.members := by
      rw [GroupClass.members, GroupClass.members, hdeclared, hkeep]
    rw [ofClass, ofClass, hmembers]
  · have htext' : d.base.isText = true := by rw [← h.base_eq, htext]
    rw [constants_of_isText htext, constants_of_isText htext', hkeep]
    exact hperm.map _

/-- The order of the members does not matter to a look-up. -/
theorem get?_of_isReordering {c d : GroupClass} (h : c.IsReordering d) (name : Value) :
    (ofClass c).get? name = (ofClass d).get? name := by
  have hfind := find?_eq_of_perm (isReordering_ofClass h).constants (exclusive_ofClass c name)
  rw [get?, get?, Value.lookup?, Value.lookup?, hfind]

section IsReordering

variable {g g' : Group}

theorem IsReordering.entries (h : g.IsReordering g') : g.entries.Perm g'.entries := by
  rw [Group.entries, Group.entries, h.name_eq]
  exact h.constants.map _

theorem IsReordering.problems (h : g.IsReordering g') : g.problems.Perm g'.problems := by
  have hempty : g.isEmpty = g'.isEmpty := h.constants.isEmpty_eq
  rw [Group.problems, Group.problems, hempty, h.name_eq]
  exact (h.entries.filterMap _).append_left _

end IsReordering

end Group

namespace Registry

variable {classes others : List GroupClass} {r r' : Registry}

/-! ## Look-ups -/

/-- Two answers of a look-up are the same value, or both say that the constant is unknown, in the
    same words. -/
inductive AnswersAlike : Except Failure Value → Except Failure Value → Prop where
  | found (value : Value) : AnswersAlike (.ok value) (.ok value)
  | unknown {f f' : Failure} (h : f.category = .unknownConstant)
      (h' : f'.category = .unknownConstant) (hmessage : f.message = f'.message) :
      AnswersAlike (.error f) (.error f')

/-- Look-ups in a group go by its class alone, and not by the order of members that are texts. -/
theorem lookups_of_isReordering (h : ofClasses classes = .ok r) (h' : ofClasses others = .ok r')
    {c d : GroupClass} (hc : c ∈ classes) (hd : d ∈ others) (hcd : c.IsReordering d)
    {group : Value} (hgroup : (Value.text c.name).same group = true) (name : Value) :
    AnswersAlike (r.get group name) (r'.get group name) ∧
      r.contains (.tuple [group, name]) = r'.contains (.tuple [group, name]) := by
  have hfind : r.find? group = some (Group.ofClass c) := by
    refine find?_of_same h ?_ hgroup
    rw [groups_of_ofClasses h]
    exact List.mem_map_of_mem hc
  have hfind' : r'.find? group = some (Group.ofClass d) := by
    rw [hcd.name_eq] at hgroup
    refine find?_of_same h' ?_ hgroup
    rw [groups_of_ofClasses h']
    exact List.mem_map_of_mem hd
  have hget := Group.get?_of_isReordering hcd name
  constructor
  · rw [get_of_find? hfind, get_of_find? hfind', ← hget]
    cases (Group.ofClass c).get? name with
    | some value => exact .found value
    | none => exact .unknown rfl rfl rfl
  · rw [contains_of_find? h hfind, contains_of_find? h' hfind', hget]

/-! ## Rearranged lists of classes -/

/-- A list holds the classes of another one in some order, with members in some order where a
    class is built on text. -/
def Rearranged (classes others : List GroupClass) : Prop :=
  ∃ middle, classes.Perm middle ∧ List.Forall₂ GroupClass.IsReordering middle others

/-- Rearranged classes make a registry if the given ones do. -/
theorem Rearranged.ofClasses_ok_iff (h : Rearranged classes others) :
    (∃ r, ofClasses classes = .ok r) ↔ ∃ r', ofClasses others = .ok r' := by
  obtain ⟨middle, hperm, hrelated⟩ := h
  have hnames : middle.map (·.name) = others.map (·.name) := by
    rw [← List.forall₂_eq_eq_eq, List.forall₂_map_left_iff, List.forall₂_map_right_iff]
    exact hrelated.imp fun _ _ hcd => hcd.name_eq
  rw [Registry.ofClasses_ok_iff, Registry.ofClasses_ok_iff, ← hnames]
  exact (hperm.map _).nodup_iff

/-- The groups of rearranged classes are the given ones in some order, with their constants in
    some order. -/
theorem Rearranged.exists_groups (h : ofClasses classes = .ok r) (h' : ofClasses others = .ok r')
    (hr : Rearranged classes others) :
    ∃ groups, r.groups.Perm groups ∧ List.Forall₂ Group.IsReordering groups r'.groups := by
  obtain ⟨middle, hperm, hrelated⟩ := hr
  refine ⟨middle.map Group.ofClass, ?_, ?_⟩
  · rw [groups_of_ofClasses h]
    exact hperm.map _
  · rw [groups_of_ofClasses h', List.forall₂_map_left_iff, List.forall₂_map_right_iff]
    exact hrelated.imp fun _ _ hcd => Group.isReordering_ofClass hcd

/-- What a registry says group by group is said by rearranged classes in some order. -/
theorem Rearranged.flatMap (h : ofClasses classes = .ok r) (h' : ofClasses others = .ok r')
    (hr : Rearranged classes others) {α : Type} {f : Group → List α}
    (hf : ∀ g g', g.IsReordering g' → (f g).Perm (f g')) :
    (r.groups.flatMap f).Perm (r'.groups.flatMap f) := by
  obtain ⟨groups, hperm, hrelated⟩ := hr.exists_groups h h'
  have hparts : List.Forall₂ List.Perm (groups.map f) (r'.groups.map f) := by
    rw [List.forall₂_map_left_iff, List.forall₂_map_right_iff]
    exact hrelated.imp hf
  have hflat := List.Perm.flatten_congr hparts
  rw [← List.flatMap_def, ← List.flatMap_def] at hflat
  exact (hperm.flatMap_right f).trans hflat

theorem Rearranged.size_eq (h : ofClasses classes = .ok r) (h' : ofClasses others = .ok r')
    (hr : Rearranged classes others) : r.size = r'.size := by
  obtain ⟨groups, hperm, hrelated⟩ := hr.exists_groups h h'
  exact hperm.length_eq.trans hrelated.length_eq

end Registry

end NamedConstants
