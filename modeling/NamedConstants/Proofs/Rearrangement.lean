import NamedConstants.Proofs.Diagnostics
import NamedConstants.Proofs.Listing
import NamedConstants.Proofs.Registry.Rearrangement
import NamedConstants.Proofs.Value.Equivalence

/-!
# Reports on rearranged classes

Registries of rearranged classes have the same problems in some order, a diagnosis of them ends
alike, and their JSON documents are equal as tables (`Registry.groups_independent`).
-/

namespace NamedConstants

/-- The tables of a group and of one with its constants in another order are equal. -/
theorem Group.IsReordering.same_raw {g g' : Group} (h : g.IsReordering g')
    (hkeys : ∀ e ∈ g.constants, e.1.same e.1 = true)
    (htexts : ∀ e ∈ g.constants, ∃ s, e.2.asText? = some s) :
    (Value.dict g.raw).same (.dict g'.raw) = true := by
  have hperm : g.raw.Perm g'.raw := h.constants.map _
  refine Value.same_dict_iff.mpr ⟨_, rfl, hperm.length_eq, ?_⟩
  intro e he
  refine ⟨e, hperm.subset he, ?_⟩
  obtain ⟨d, hd, rfl⟩ := List.mem_map.mp he
  obtain ⟨s, hs⟩ := htexts d hd
  refine ⟨hkeys d hd, ?_⟩
  rw [Value.raw_of_asText? hs]
  exact Value.same_text_iff.mpr rfl

namespace Registry

variable {classes others : List GroupClass} {r r' : Registry}

/-- A group of a registry of classes has texts for its name and its keys, which equal
    themselves. -/
theorem same_self_of_mem (h : ofClasses classes = .ok r) {g : Group} (hg : g ∈ r.groups) :
    g.name.same g.name = true ∧ ∀ e ∈ g.constants, e.1.same e.1 = true := by
  obtain ⟨c, -, rfl⟩ := exists_class_of_mem h hg
  refine ⟨Value.same_text_iff.mpr rfl, ?_⟩
  intro e he
  obtain ⟨m, -, rfl⟩ := List.mem_map.mp he
  exact Value.same_text_iff.mpr rfl

/-- The tables of all groups of rearranged classes are equal tables. -/
theorem Rearranged.same_tables (h : ofClasses classes = .ok r) (h' : ofClasses others = .ok r')
    (hr : Rearranged classes others)
    (htexts : ∀ g ∈ r.groups, ∀ e ∈ g.constants, ∃ s, e.2.asText? = some s) :
    (Value.dict (r.groups.map fun g => (g.name, .dict g.raw))).same
      (.dict (r'.groups.map fun g => (g.name, .dict g.raw))) = true := by
  obtain ⟨groups, hperm, hrelated⟩ := hr.exists_groups h h'
  refine Value.same_dict_iff.mpr ⟨_, rfl, ?_, ?_⟩
  · rw [List.length_map, List.length_map]
    exact hr.size_eq h h'
  · intro e he
    obtain ⟨g, hg, rfl⟩ := List.mem_map.mp he
    obtain ⟨g', hg', hgg'⟩ := exists_mem_of_forall₂ hrelated (hperm.subset hg)
    obtain ⟨hname, hkeys⟩ := same_self_of_mem h hg
    refine ⟨_, List.mem_map_of_mem hg', ?_, hgg'.same_raw hkeys (htexts g hg)⟩
    rw [← hgg'.name_eq]
    exact hname

/-- All checks of rearranged classes are the same. -/
theorem Rearranged.checks_eq (h : ofClasses classes = .ok r) (h' : ofClasses others = .ok r')
    (hr : Rearranged classes others) (host : Host) :
    Diagnostics.checks host r r.problems = Diagnostics.checks host r' r'.problems := by
  have hcount : Diagnostics.constantCount r = Diagnostics.constantCount r' := by
    rw [Diagnostics.constantCount_eq, Diagnostics.constantCount_eq]
    exact (hr.flatMap h h' fun _ _ hg => hg.entries).length_eq
  have hproblems : r.problems.isEmpty = r'.problems.isEmpty :=
    (hr.flatMap h h' fun _ _ hg => hg.problems).isEmpty_eq
  rw [Diagnostics.checks, Diagnostics.checks, Diagnostics.registryCheck, Diagnostics.registryCheck,
    hr.size_eq h h', hcount, hproblems]

/-- What registries have in common whose classes are rearrangements of each other. -/
structure AgreeUpToOrder (r r' : Registry) : Prop where
  problems : r.problems.Perm r'.problems
  /-- A diagnosis ends alike on every host. -/
  ending : ∀ host, (Diagnostics.run host r).ending = (Diagnostics.run host r').ending
  code : ∀ host, Diagnostics.HasBareVersions host →
    ∃ code, (Diagnostics.run host r).ending = .done code
  /-- If all values are texts, the documents are read back as equal tables. -/
  documents : (∀ g ∈ r.groups, ∀ e ∈ g.constants, ∃ s, e.2.asText? = some s) →
    ∀ host, ∃ tables tables',
      Listing.WritesDocument (Listing.list host r none true) (.dict tables) ∧
        Listing.WritesDocument (Listing.list host r' none true) (.dict tables') ∧
          (Value.dict tables).same (.dict tables') = true

theorem Rearranged.agreeUpToOrder (h : ofClasses classes = .ok r)
    (h' : ofClasses others = .ok r') (hr : Rearranged classes others) : AgreeUpToOrder r r' := by
  have hproblems : r.problems.Perm r'.problems := hr.flatMap h h' fun _ _ hg => hg.problems
  refine ⟨hproblems, ?_, ?_, ?_⟩
  · intro host
    rw [Diagnostics.run, Diagnostics.run, Diagnostics.ending_report, Diagnostics.ending_report,
      hr.checks_eq h h']
  · intro host hversions
    obtain ⟨_, hreport, -⟩ := Diagnostics.report_eq hversions r r.problems rfl
    rw [Diagnostics.run, hreport]
    exact ⟨_, rfl⟩
  · intro htexts host
    have htexts' : ∀ g ∈ r'.groups, ∀ e ∈ g.constants, ∃ s, e.2.asText? = some s := by
      have hentries : (r.groups.flatMap Group.constants).Perm (r'.groups.flatMap Group.constants) :=
        hr.flatMap h h' fun _ _ hg => hg.constants
      intro g' hg' e he
      have hmem := hentries.symm.subset (List.mem_flatMap.mpr ⟨g', hg', he⟩)
      obtain ⟨g, hg, he⟩ := List.mem_flatMap.mp hmem
      exact htexts g hg e he
    have hback := Listing.readsBack_payload_raw h (fun g hg => hg) r.distinct htexts .indented
    have hback' := Listing.readsBack_payload_raw h' (fun g hg => hg) r'.distinct htexts' .indented
    exact ⟨_, _, Listing.writesDocument_of_readsBack rfl hback host,
      Listing.writesDocument_of_readsBack rfl hback' host, hr.same_tables h h' htexts⟩

/-- Groups are independent and their order does not matter.  Look-ups in a group go by its class
    alone, wherever it stands and whatever the other classes are.  If one list of classes is a
    rearrangement of another one, both make a registry or none does, and the two registries agree
    up to order. -/
theorem groups_independent (classes others : List GroupClass) :
    (∀ r r', ofClasses classes = .ok r → ofClasses others = .ok r' →
      ∀ c ∈ classes, ∀ d ∈ others, c.IsReordering d →
        ∀ group name : Value, (Value.text c.name).same group = true →
          AnswersAlike (r.get group name) (r'.get group name) ∧
            r.contains (.tuple [group, name]) = r'.contains (.tuple [group, name])) ∧
      (Rearranged classes others →
        ((∃ r, ofClasses classes = .ok r) ↔ ∃ r', ofClasses others = .ok r') ∧
          ∀ r r', ofClasses classes = .ok r → ofClasses others = .ok r' → AgreeUpToOrder r r') := by
  constructor
  · intro r r' h h' c hc d hd hcd group name hgroup
    exact lookups_of_isReordering h h' hc hd hcd hgroup name
  · intro hr
    exact ⟨hr.ofClasses_ok_iff, fun r r' h h' => hr.agreeUpToOrder h h'⟩

/-- A class that is built on text, with an alias. -/
def tints : GroupClass where
  name := "Tints"
  base := .text
  doc := none
  declared := [("crimson", .text "red"), ("azure", .int 1), ("scarlet", .text "red"),
    ("cobalt", .bool true)]
  assigned := []
  distinct := by decide

/-- The same class with its members in another order, so that the alias comes first. -/
def turnedTints : GroupClass where
  name := "Tints"
  base := .text
  doc := none
  declared := [("cobalt", .bool true), ("scarlet", .text "red"), ("azure", .int 1),
    ("crimson", .text "red")]
  assigned := []
  distinct := by decide

theorem groups_independent_tints :
    ∃ r r', ofClasses [tints, GroupClass.stringConstants] = .ok r ∧
      ofClasses [GroupClass.stringConstants, turnedTints] = .ok r' ∧
      AnswersAlike (r.get (.text "Tints") (.text "scarlet"))
        (r'.get (.text "Tints") (.text "scarlet")) ∧
      AgreeUpToOrder r r' ∧
      ∃ tables tables',
        Listing.WritesDocument (Listing.list .standard r none true) (.dict tables) ∧
          Listing.WritesDocument (Listing.list .standard r' none true) (.dict tables') ∧
            (Value.dict tables).same (.dict tables') = true := by
  have hturned : tints.IsReordering turnedTints := by
    refine ⟨rfl, rfl, rfl, Or.inr ⟨rfl, ?_⟩⟩
    exact (List.reverse_perm turnedTints.declared)
  have hrearranged : Rearranged [tints, GroupClass.stringConstants]
      [GroupClass.stringConstants, turnedTints] := by
    refine ⟨[GroupClass.stringConstants, tints], .swap .., ?_⟩
    exact .cons ⟨rfl, rfl, rfl, Or.inl rfl⟩ (.cons hturned .nil)
  obtain ⟨hlookups, hagree⟩ := groups_independent [tints, GroupClass.stringConstants]
    [GroupClass.stringConstants, turnedTints]
  obtain ⟨r, hr⟩ := (ofClasses_ok_iff [tints, GroupClass.stringConstants]).mpr (by decide)
  obtain ⟨r', hr'⟩ := (hagree hrearranged).1.mp ⟨r, hr⟩
  have hboth := (hagree hrearranged).2 r r' hr hr'
  have hscarlet := (hlookups r r' hr hr' tints (by simp) turnedTints (by simp) hturned
    (.text "Tints") (.text "scarlet") (Value.same_text_iff.mpr rfl)).1
  have htexts : ∀ g ∈ r.groups, ∀ e ∈ g.constants, ∃ s, e.2.asText? = some s := by
    rw [groups_of_ofClasses hr]
    have hall : ∀ c ∈ [tints, GroupClass.stringConstants], c.base.isText = true := by decide
    intro g hg e he
    obtain ⟨c, hc, rfl⟩ := List.mem_map.mp hg
    exact (Group.holdsTexts_ofClass (hall c hc)).exists_asText? e he
  exact ⟨r, r', hr, hr', hscarlet, hboth, hboth.documents htexts .standard⟩

end Registry

end NamedConstants
