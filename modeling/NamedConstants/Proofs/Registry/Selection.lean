import Mathlib.Data.List.Forall2
import NamedConstants.Proofs.Registry.Lookup

/-!
# Selections

A selection means all groups of a registry, or the group of the name that it asks for; it fails if
there is no such group.  The groups that it does not mean count only by their names
(`select_eq_of_agree`).
-/

namespace NamedConstants

/-- A group is selected: it has the name that is asked for, if any is. -/
def Group.IsSelected (selection : Option Value) (g : Group) : Prop :=
  ∀ name, selection = some name → g.name.same name = true

namespace Registry

variable {classes : List GroupClass} {r : Registry} {selection : Option Value}
  {groups : List Group}

theorem select_of_find? {name : Value} {g : Group} (h : r.find? name = some g) :
    r.select (some name) = .ok [g] := by
  rw [select, group_of_find? h]
  rfl

theorem select_of_not_find? {name : Value} (h : r.find? name = none) :
    r.select (some name) = .error (.unknownGroup name r.names) := by
  rw [select, group_of_not_find? h]
  rfl

/-- A selection of one name fails as the look-up of the group. -/
theorem group_of_select_error {name : Value} {f : Failure}
    (h : r.select (some name) = .error f) : r.group name = .error f := by
  cases hfind : r.find? name with
  | none =>
      rw [select_of_not_find? hfind] at h
      rw [group_of_not_find? hfind, Except.error.inj h]
  | some g =>
      rw [select_of_find? hfind] at h
      cases h

/-- A selection means all groups, or the one that is found. -/
theorem select_cases (h : r.select selection = .ok groups) :
    (selection = none ∧ groups = r.groups) ∨
      ∃ name g, selection = some name ∧ r.find? name = some g ∧ groups = [g] := by
  cases selection with
  | none => exact Or.inl ⟨rfl, (Except.ok.inj h).symm⟩
  | some name =>
      cases hfind : r.find? name with
      | none =>
          rw [select_of_not_find? hfind] at h
          cases h
      | some g =>
          rw [select_of_find? hfind] at h
          exact Or.inr ⟨name, g, rfl, hfind, (Except.ok.inj h).symm⟩

theorem mem_of_select (h : r.select selection = .ok groups) : ∀ g ∈ groups, g ∈ r.groups := by
  rcases select_cases h with ⟨-, rfl⟩ | ⟨name, g, -, hfind, rfl⟩
  · exact fun g hg => hg
  · exact List.forall_mem_singleton.mpr (mem_of_find? hfind)

/-- The groups of a selection have different names. -/
theorem pairwise_of_select (h : r.select selection = .ok groups) :
    groups.Pairwise fun a b => a.name.same b.name = false := by
  rcases select_cases h with ⟨-, rfl⟩ | ⟨name, g, -, hfind, rfl⟩
  · exact r.distinct
  · exact List.pairwise_singleton ..

/-- A selection means the selected groups and no others. -/
theorem mem_select_iff (h : ofClasses classes = .ok r) (hsel : r.select selection = .ok groups)
    (g : Group) : g ∈ groups ↔ g ∈ r.groups ∧ g.IsSelected selection := by
  rcases select_cases hsel with ⟨rfl, rfl⟩ | ⟨name, found, rfl, hfind, rfl⟩
  · simp [Group.IsSelected]
  · rw [List.mem_singleton]
    constructor
    · rintro rfl
      refine ⟨mem_of_find? hfind, ?_⟩
      rintro _ ⟨⟩
      exact same_of_find? hfind
    · rintro ⟨hg, hselected⟩
      have hfound := find?_of_same h hg (hselected name rfl)
      exact Option.some.inj (hfound.symm.trans hfind)

/-- All groups can be selected, and each by its name. -/
theorem exists_select (h : ofClasses classes = .ok r)
    (hregistered : ∀ name, selection = some name → ∃ g ∈ r.groups, g.name.same name = true) :
    ∃ groups, r.select selection = .ok groups := by
  cases selection with
  | none => exact ⟨r.groups, rfl⟩
  | some name =>
      obtain ⟨g, hg, hname⟩ := hregistered name rfl
      exact ⟨[g], select_of_find? (find?_of_same h hg hname)⟩

/-- What holds of the entries of the selected groups holds of the entries of a selection. -/
theorem forall_entries_of_select {P : Entry → Prop} (h : ofClasses classes = .ok r)
    (hentries : ∀ g ∈ r.groups, g.IsSelected selection → ∀ e ∈ g.entries, P e)
    (hsel : r.select selection = .ok groups) : ∀ e ∈ groups.flatMap Group.entries, P e := by
  intro e he
  obtain ⟨g, hg, he⟩ := List.mem_flatMap.mp he
  obtain ⟨hmem, hselected⟩ := (mem_select_iff h hsel g).mp hg
  exact hentries g hmem hselected e he

theorem entries_of_select (hsel : r.select selection = .ok groups) :
    r.entries selection = .ok (groups.flatMap Group.entries) := by
  rw [entries, hsel]
  rfl

/-- A selection fails if and only if it asks for a name that no group has. -/
theorem select_error_iff (r : Registry) (selection : Option Value) (f : Failure) :
    r.select selection = .error f ↔
      ∃ name, selection = some name ∧ (∀ g ∈ r.groups, g.name.same name = false) ∧
        f = .unknownGroup name r.names := by
  cases selection with
  | none => simp [select]
  | some name =>
      cases hfind : r.find? name with
      | none =>
          rw [select_of_not_find? hfind]
          constructor
          · intro herror
            exact ⟨name, rfl, not_same_of_find?_eq_none hfind, (Except.error.inj herror).symm⟩
          · rintro ⟨_, ⟨⟩, -, rfl⟩
            rfl
      | some found =>
          rw [select_of_find? hfind]
          constructor
          · intro herror
            cases herror
          · rintro ⟨_, ⟨⟩, hnone, -⟩
            have hsame := same_of_find? hfind
            rw [hnone found (mem_of_find? hfind)] at hsame
            cases hsame

/-- Groups that are not selected do not matter to a selection, apart from their names. -/
theorem select_eq_of_agree {r r' : Registry}
    (h : List.Forall₂ (fun g g' => g.name = g'.name ∧ (g.IsSelected selection → g = g'))
      r.groups r'.groups) : r.select selection = r'.select selection := by
  cases selection with
  | none =>
      have heq : List.Forall₂ Eq r.groups r'.groups :=
        h.imp fun g g' hg => hg.2 nofun
      rw [List.forall₂_eq_eq_eq] at heq
      rw [select, select, heq]
  | some name =>
      have hnames : r.names = r'.names := by
        have hmap : List.Forall₂ Eq (r.groups.map (·.name)) (r'.groups.map (·.name)) := by
          rw [List.forall₂_map_left_iff, List.forall₂_map_right_iff]
          exact h.imp fun g g' hg => hg.1
        rwa [List.forall₂_eq_eq_eq] at hmap
      have hfind : r.find? name = r'.find? name := by
        unfold find?
        generalize r.groups = groups at h
        generalize r'.groups = groups' at h
        induction h with
        | nil => rfl
        | @cons g g' groups groups' hg hrest ih =>
            rw [List.find?_cons, List.find?_cons, ih, ← hg.1]
            cases hsame : g.name.same name with
            | false => rfl
            | true =>
                have hselected : g.IsSelected (some name) := by
                  rintro _ ⟨⟩
                  exact hsame
                rw [hg.2 hselected]
      rw [select, select, group, group, hfind, hnames]

end Registry

end NamedConstants
