import NamedConstants.Proofs.Registry.Validation
import NamedConstants.Proofs.TableListing

/-!
# The outputs of one constant

The JSON listing of a sound registry holds the raw text of each constant, while the value alone
and the plain table hold its display form (`constant_outputs`).  The two are the same text
except for a value that is itself a member built on text: this shows itself by class and name.
-/

namespace NamedConstants

/-- The display form of a text is the text itself, but that of a member built on text is the
    name of the member behind that of its class. -/
theorem Value.display_eq_iff {v : Value} {s : String} (h : v.asText? = some s) :
    v.display = s ↔
      ∀ className member, v = .member className .text member (.text s) →
        s = className ++ "." ++ member := by
  cases v with
  | text t =>
      obtain rfl : t = s := Option.some.inj h
      simp [display]
  | member className base member inner =>
      cases inner with
      | text t =>
          cases base with
          | plain => cases h
          | text =>
              obtain rfl : t = s := Option.some.inj h
              constructor
              · rintro hs _ _ ⟨⟩
                exact hs.symm
              · intro hs
                exact (hs className member rfl).symm
          | literal =>
              obtain rfl : t = s := Option.some.inj h
              simp [display]
      | _ => cases h
  | _ => cases h

theorem Group.lookup?_raw (g : Group) (name : Value) :
    Value.lookup? name g.raw = (g.get? name).map Value.raw := by
  rw [Value.lookup?, raw, List.find?_map, get?, Value.lookup?, Option.map_map, Option.map_map]
  rfl

namespace Listing

theorem isText_of_mem_cells {c : GroupClass}
    (h : ∀ e ∈ (Group.ofClass c).constants, ∃ s, e.2.asText? = some s) :
    ∀ e ∈ (Group.ofClass c).entries, ∀ v ∈ cells e, v.isText = true := by
  intro e he v hv
  obtain ⟨p, hp, rfl⟩ := List.mem_map.mp he
  obtain ⟨s, hs⟩ := h p hp
  obtain ⟨m, -, rfl⟩ := List.mem_map.mp hp
  have hcells : v = .text c.name ∨ v = .text m.1 ∨ v = m.2.value := by
    simpa [cells, Group.ofClass] using hv
  rcases hcells with rfl | rfl | rfl
  · rfl
  · rfl
  · rw [Value.isText, hs]
    rfl

/-- What the outputs of a constant hold whose value is the text `s`. -/
structure ConstantOutputs (host : Host) (r : Registry) (g : Group) (name value : Value)
    (s : String) : Prop where
  /-- The value alone is written in its display form. -/
  alone : get r g.name name = ⟨value.display ++ "\n", "", .done 0⟩
  /-- The document of the group holds the raw text. -/
  document : ∃ table, Value.lookup? name table = some (.text s) ∧
    WritesDocument (list host r (some g.name) true) (.dict [(g.name, .dict table)])
  /-- The plain table has a row for each constant of the group, in order. -/
  plain : list { host with renderer := false } r (some g.name) false =
    ⟨"", String.ofList (Text.unlines
      (Table.plainLines title plainWidths (columns.map (·.header)) (rows [g]))), .done 0⟩
  /-- The row of the constant ends in the display form, brought to 18 characters. -/
  row : texts ⟨g.name, name, value⟩ ∈ rows [g] ∧
    (Table.plainRow plainWidths (texts ⟨g.name, name, value⟩)).toList =
      Text.padRight 16 g.name.display.toList ++ ' ' :: Text.padRight 20 name.display.toList ++
        ' ' :: Text.padRight 18 value.display.toList
  /-- The display form is the raw text, unless the value shows itself as a member. -/
  agree_iff : value.display = s ↔
    ∀ className member, value = .member className .text member (.text s) →
      s = className ++ "." ++ member

/-- The value alone and the plain table show the display form of a constant of a sound registry,
    the document its raw text. -/
theorem constant_outputs {classes : List GroupClass} {r : Registry}
    (h : Registry.ofClasses classes = .ok r) (hsound : r.problems = []) {g : Group}
    (hg : g ∈ r.groups) {name value : Value} (hc : (name, value) ∈ g.constants) (host : Host) :
    ∃ s, value.asText? = some s ∧ ConstantOutputs host r g name value s := by
  have htexts : ∀ e ∈ g.constants, ∃ s, e.2.asText? = some s := by
    intro e he
    obtain ⟨s, hs, -⟩ := ((r.problems_eq_nil_iff.mp hsound) g hg).2 e he
    exact ⟨s, hs⟩
  obtain ⟨s, hs⟩ := htexts _ hc
  have hfind := Registry.find?_name h hg
  have hsel : r.select (some g.name) = .ok [g] := by
    rw [Registry.select, Registry.group_of_find? hfind]
    rfl
  have hget : g.get? name = some value := by
    obtain ⟨c, -, rfl⟩ := Registry.exists_class_of_mem h hg
    exact Group.get?_of_mem hc
  refine ⟨s, hs, ?_, ?_, ?_, ?_, Value.display_eq_iff hs⟩
  · have hvalue : r.get g.name name = .ok value := by
      rw [Registry.get_of_find? hfind, hget]
    exact get_of_ok hvalue
  · refine ⟨g.raw, ?_, ?_⟩
    · rw [Group.lookup?_raw, hget, Option.map_some, Value.raw_of_asText? hs]
    · have hback := readsBack_payload_raw h (List.forall_mem_singleton.mpr hg)
        (List.pairwise_singleton ..) (List.forall_mem_singleton.mpr htexts) .indented
      exact writesDocument_of_readsBack hsel hback host
  · apply list_plain rfl hsel
    rw [List.flatMap_singleton]
    obtain ⟨c, -, rfl⟩ := Registry.exists_class_of_mem h hg
    exact isText_of_mem_cells htexts
  · constructor
    · rw [rows, List.flatMap_singleton]
      exact List.mem_map.mpr ⟨_, List.mem_map.mpr ⟨_, hc, rfl⟩, rfl⟩
    · rw [Table.plainRow, String.toList_ofList, List.append_assoc]
      rfl

/-- A class with a member of another class for a value, which shows itself as its text, and an
    alias. -/
def settings : GroupClass where
  name := "Settings"
  base := .plain
  doc := none
  declared := [("level", .member "Level" .literal "High" (.text "high")), ("mode", .text "main"),
    ("other", .text "main")]
  assigned := []
  distinct := by decide

theorem constant_outputs_settings :
    ∃ r, Registry.ofClasses [settings] = .ok r ∧ r.problems = [] ∧
      Group.ofClass settings ∈ r.groups ∧
      (.text "other", .text "main") ∈ (Group.ofClass settings).constants ∧
      ∃ s, (Value.text "main").asText? = some s ∧
        ConstantOutputs .standard r (Group.ofClass settings) (.text "other") (.text "main") s := by
  obtain ⟨r, hr, hsound⟩ : ∃ r, Registry.ofClasses [settings] = .ok r ∧ r.problems = [] :=
    ⟨⟨[Group.ofClass settings], List.pairwise_singleton ..⟩, rfl, by decide⟩
  have hmem : Group.ofClass settings ∈ r.groups := by
    rw [Registry.groups_of_ofClasses hr]
    exact List.mem_singleton_self _
  have hc : (.text "other", .text "main") ∈ (Group.ofClass settings).constants :=
    List.mem_of_getElem? (i := 2) rfl
  exact ⟨r, hr, hsound, hmem, hc, constant_outputs hr hsound hmem hc .standard⟩

/-- A class built on text. -/
def labels : GroupClass where
  name := "Labels"
  base := .text
  doc := none
  declared := [("Red", .text "crimson")]
  assigned := []
  distinct := by decide

/-- A class whose value is a member of `labels`. -/
def holder : GroupClass where
  name := "Holder"
  base := .plain
  doc := none
  declared := [("x", labels.valueOf ⟨"Red", .text "crimson"⟩)]
  assigned := []
  distinct := by decide

/-- In a sound registry a value that is a member of a class built on text is written by its name
    when it is asked for alone, and as its text in the document. -/
theorem get_writes_member_name :
    ∃ r, Registry.ofClasses [labels, holder] = .ok r ∧ r.problems = [] ∧
      get r (.text "Holder") (.text "x") = ⟨"Labels.Red\n", "", .done 0⟩ ∧
      WritesDocument (list .standard r (some (.text "Holder")) true)
        (.dict [(.text "Holder", .dict [(.text "x", .text "crimson")])]) := by
  let r : Registry := ⟨[Group.ofClass labels, Group.ofClass holder], by decide⟩
  have hr : Registry.ofClasses [labels, holder] = .ok r := rfl
  refine ⟨r, hr, by decide, rfl, ?_⟩
  have hsub : ∀ g ∈ [Group.ofClass holder], g ∈ r.groups := by
    intro g hg
    rw [List.mem_singleton.mp hg]
    exact List.mem_of_getElem? (i := 1) rfl
  have htexts : ∀ g ∈ [Group.ofClass holder], ∀ e ∈ g.constants, ∃ s, e.2.asText? = some s := by
    intro g hg e he
    rw [List.mem_singleton.mp hg] at he
    rw [List.mem_singleton.mp he]
    exact ⟨"crimson", rfl⟩
  have hback := readsBack_payload_raw hr hsub (List.pairwise_singleton ..) htexts .indented
  exact writesDocument_of_readsBack rfl hback .standard

end Listing

end NamedConstants
