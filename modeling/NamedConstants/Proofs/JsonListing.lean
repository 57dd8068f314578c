import NamedConstants.Proofs.Json.Documents
import NamedConstants.Proofs.Listing
import NamedConstants.Proofs.Registry.Selection

/-!
# When JSON listings fail

The JSON listing of a selection fails for the group if none has the name that is asked for, and
for a type if a selected group holds a value that JSON has no form for, at whatever depth.  Then
nothing is written; otherwise the whole document is (`list_json_exact`).
-/

namespace NamedConstants

/-- A run fails in the given way. -/
def Run.FailsWith {α : Type} (category : Category) (run : Run α) : Prop :=
  ∃ f : Failure, run.ending = .failed f ∧ f.category = category

theorem Run.failsWith_fail_iff {α : Type} {category : Category} {f : Failure} :
    (Run.fail f : Run α).FailsWith category ↔ f.category = category := by
  simp [FailsWith, fail]

/-- A constant of a group has a value that contains something that JSON has no form for. -/
def Group.HasObstacle (g : Group) : Prop :=
  ∃ e ∈ g.constants, ∃ u, e.2.Contains u ∧ u.IsObstacle

theorem Group.not_hasObstacle_iff (g : Group) :
    ¬g.HasObstacle ↔ ∀ e ∈ g.constants, e.2.IsSerializable := by
  simp [HasObstacle, Value.IsSerializable]

namespace Listing

open Json (Image)

variable {classes : List GroupClass} {r : Registry} {selection : Option Value}

/-- The data of groups whose names are texts has a JSON form if no group has an obstacle. -/
theorem isSerializable_payload (h : Registry.ofClasses classes = .ok r) {groups : List Group}
    (hsub : ∀ g ∈ groups, g ∈ r.groups) :
    (payload groups).IsSerializable ↔ ∀ g ∈ groups, ¬g.HasObstacle := by
  have hgroup : ∀ g ∈ groups, g.name.isWritableKey = true ∧
      ((Value.dict g.constants).IsSerializable ↔ ¬g.HasObstacle) := by
    intro g hg
    obtain ⟨c, -, rfl⟩ := Registry.exists_class_of_mem h (hsub g hg)
    refine ⟨rfl, ?_⟩
    rw [Group.not_hasObstacle_iff, Value.isSerializable_dict_iff]
    refine and_iff_right ?_
    intro e he
    obtain ⟨m, -, rfl⟩ := List.mem_map.mp he
    rfl
  rw [payload, Value.isSerializable_dict_iff, List.forall_mem_map, List.forall_mem_map]
  constructor
  · rintro ⟨-, hvalues⟩ g hg
    exact (hgroup g hg).2.mp (hvalues g hg)
  · intro hall
    exact ⟨fun g hg => (hgroup g hg).1, fun g hg => (hgroup g hg).2.mpr (hall g hg)⟩

theorem list_of_document_error {groups : List Group} {f : Failure}
    (hsel : r.select selection = .ok groups) (herror : Json.document (payload groups) = .error f)
    (host : Host) : list host r selection true = Run.fail f := by
  simp [list, hsel, herror]

theorem WritesDocument.not_failsWith {run : Run Int} {v : Value} (h : WritesDocument run v)
    (category : Category) : ¬run.FailsWith category := by
  obtain ⟨out, rfl, -, -⟩ := h
  rintro ⟨f, hf, -⟩
  cases hf

/-- The groups of a selection are written if and only if none of them has an obstacle. -/
theorem list_selected (h : Registry.ofClasses classes = .ok r) {groups : List Group}
    (hsel : r.select selection = .ok groups) (host : Host) :
    ((∃ g ∈ groups, g.HasObstacle) ∧
      ∃ f : Failure, list host r selection true = Run.fail f ∧ f.category = .type) ∨
    (∀ g ∈ groups, ¬g.HasObstacle) ∧
      ∃ v, Image (payload groups) v ∧ WritesDocument (list host r selection true) v := by
  have hpayload := isSerializable_payload h (Registry.mem_of_select hsel)
  rcases Json.writtenExactly .indented 0 (payload groups) with ⟨hs, -⟩ | ⟨hs, f, hf, htype⟩
  · obtain ⟨v, hv, hback⟩ := Json.exists_image .indented 0 (payload groups) hs
    exact Or.inr ⟨hpayload.mp hs, v, hv, writesDocument_of_readsBack hsel hback host⟩
  · rw [hpayload] at hs
    have herror : Json.document (payload groups) = .error f := by
      rw [Json.document, hf]
      rfl
    exact Or.inl ⟨by simpa using hs, f, list_of_document_error hsel herror host, htype⟩

/-- How the JSON listing of a selection ends, and for what. -/
structure JsonListing (host : Host) (r : Registry) (selection : Option Value) : Prop where
  /-- It fails without having written anything, or it writes one document of the selected groups
      and nothing else. -/
  outcome :
    (∃ f : Failure, list host r selection true = Run.fail f ∧
      (f.category = .unknownGroup ∨ f.category = .type)) ∨
    ∃ groups v, r.select selection = .ok groups ∧ Image (payload groups) v ∧
      WritesDocument (list host r selection true) v
  /-- It fails for the group if and only if it is asked for a name that no group has. -/
  unknownGroup_iff :
    (list host r selection true).FailsWith .unknownGroup ↔
      ∃ name, selection = some name ∧ ∀ g ∈ r.groups, g.name.same name = false
  /-- It fails for a type if and only if a selected group holds what JSON has no form for. -/
  type_iff :
    (list host r selection true).FailsWith .type ↔
      ∃ g ∈ r.groups, g.IsSelected selection ∧ g.HasObstacle
  /-- Of the groups that are not selected nothing but the names matters. -/
  unselected : ∀ r' : Registry,
    List.Forall₂ (fun g g' => g.name = g'.name ∧ (g.IsSelected selection → g = g'))
      r.groups r'.groups → list host r' selection true = list host r selection true

/-- The JSON listing of a registry of classes fails exactly for a name that no group has and for a
    selected value that JSON has no form for, and then without having written anything. -/
theorem list_json_exact (h : Registry.ofClasses classes = .ok r) (host : Host)
    (selection : Option Value) : JsonListing host r selection := by
  have hunselected : ∀ r' : Registry,
      List.Forall₂ (fun g g' => g.name = g'.name ∧ (g.IsSelected selection → g = g'))
        r.groups r'.groups → list host r' selection true = list host r selection true := by
    intro r' hagree
    rw [list, list, Registry.select_eq_of_agree hagree]
  have hkinds : Category.unknownGroup ≠ .type := by decide
  cases hsel : r.select selection with
  | error f =>
      have hrun := list_of_error hsel host true
      obtain ⟨name, rfl, hnone, rfl⟩ := (r.select_error_iff selection f).mp hsel
      refine ⟨Or.inl ⟨_, hrun, Or.inl rfl⟩, ?_, ?_, hunselected⟩
      · rw [hrun, Run.failsWith_fail_iff]
        exact iff_of_true rfl ⟨name, rfl, hnone⟩
      · rw [hrun, Run.failsWith_fail_iff]
        refine iff_of_false hkinds ?_
        rintro ⟨g, hg, hselected, -⟩
        have hsame := hselected name rfl
        rw [hnone g hg] at hsame
        cases hsame
  | ok groups =>
      have hmem := Registry.mem_select_iff h hsel
      have hknown : ¬∃ name, selection = some name ∧ ∀ g ∈ r.groups, g.name.same name = false := by
        rintro ⟨name, rfl, hnone⟩
        have herror := (r.select_error_iff (some name) _).mpr ⟨name, rfl, hnone, rfl⟩
        rw [hsel] at herror
        cases herror
      have hobstacle : (∃ g ∈ r.groups, g.IsSelected selection ∧ g.HasObstacle) ↔
          ∃ g ∈ groups, g.HasObstacle := by
        simp only [hmem, and_assoc]
      -- The selected groups decide between the last two ways of ending.
      rcases list_selected h hsel host with ⟨hsome, f, hrun, htype⟩ | ⟨hnone, v, hv, hdoc⟩
      · refine ⟨Or.inl ⟨f, hrun, Or.inr htype⟩, ?_, ?_, hunselected⟩
        · rw [hrun, Run.failsWith_fail_iff, htype]
          exact iff_of_false hkinds.symm hknown
        · rw [hrun, Run.failsWith_fail_iff, hobstacle]
          exact iff_of_true htype hsome
      · refine ⟨Or.inr ⟨groups, v, hsel, hv, hdoc⟩, ?_, ?_, hunselected⟩
        · exact iff_of_false (hdoc.not_failsWith _) hknown
        · rw [hobstacle]
          refine iff_of_false (hdoc.not_failsWith _) ?_
          rintro ⟨g, hg, hg'⟩
          exact hnone g hg hg'

/-- A class with a value that holds numbers, keys that are no texts and nothing else that matters
    to JSON. -/
def writable : GroupClass where
  name := "Writable"
  base := .plain
  doc := none
  declared := [("tree", .list [.int (-1), .tuple [.float .nan, .dict [(.int 1, .null),
    (.bool false, .list [])]]])]
  assigned := []
  distinct := by decide

/-- A class with a value that holds bytes at some depth. -/
def unwritable : GroupClass where
  name := "Unwritable"
  base := .plain
  doc := none
  declared := [("tree", .list [.tuple [.dict [(.text "leaf", .bytes [0])]]])]
  assigned := []
  distinct := by decide

/-- A group is written even though another one could not be. -/
theorem list_json_exact_writable :
    ∃ r, Registry.ofClasses [writable, unwritable] = .ok r ∧
      (list .standard r none true).FailsWith .type ∧
      (list .standard r (some (.text "writable")) true).FailsWith .unknownGroup ∧
      ∃ v, WritesDocument (list .standard r (some (.text "Writable")) true) v := by
  obtain ⟨r, hr⟩ : ∃ r, Registry.ofClasses [writable, unwritable] = .ok r :=
    ⟨⟨[Group.ofClass writable, Group.ofClass unwritable], by decide⟩, rfl⟩
  have hgroups := Registry.groups_of_ofClasses hr
  have hbytes : (Group.ofClass unwritable).HasObstacle := by
    refine ⟨_, List.mem_cons_self .., .bytes [0], ?_, .bytes [0]⟩
    apply Value.Contains.inside (List.mem_cons_self ..)
    apply Value.Contains.inside (List.mem_cons_self ..)
    apply Value.Contains.inside (List.mem_cons_self ..)
    exact .self _
  have hnone : ¬(Group.ofClass writable).HasObstacle := by
    rw [Group.not_hasObstacle_iff]
    intro e he
    obtain rfl := List.mem_singleton.mp he
    exact (Json.writtenExactly .compact 0 _).isSerializable rfl
  refine ⟨r, hr, ?_, ?_, ?_⟩
  · refine (list_json_exact hr .standard none).type_iff.mpr ⟨_, ?_, nofun, hbytes⟩
    rw [hgroups]
    exact List.mem_cons_of_mem _ (List.mem_singleton_self _)
  · refine (list_json_exact hr .standard (some _)).unknownGroup_iff.mpr ⟨_, rfl, ?_⟩
    rw [hgroups]
    intro g hg
    rcases List.mem_pair.mp hg with rfl | rfl <;> rfl
  · have hexact := list_json_exact hr .standard (some (.text "Writable"))
    rcases hexact.outcome with ⟨f, hrun, hgroup | htype⟩ | ⟨_, v, -, -, hdoc⟩
    · obtain ⟨_, ⟨⟩, hdifferent⟩ := hexact.unknownGroup_iff.mp ⟨f, by rw [hrun]; rfl, hgroup⟩
      rw [hgroups] at hdifferent
      exact absurd (hdifferent _ (List.mem_cons_self ..)) (by decide)
    · obtain ⟨g, hg, hselected, hobstacle⟩ := hexact.type_iff.mp ⟨f, by rw [hrun]; rfl, htype⟩
      rw [hgroups] at hg
      rcases List.mem_pair.mp hg with rfl | rfl
      · exact absurd hobstacle hnone
      · exact absurd (hselected _ rfl) (by decide)
    · exact ⟨v, hdoc⟩

end Listing

end NamedConstants
