import NamedConstants.Proofs.TableListing

/-!
# Plain listings read back

A plain listing loses nothing.  If names hold neither spaces nor line feeds, and values no line
feeds and no spaces at their ends, the rows of a listing are read back from what it writes
(`Table.readRows`), however much longer than its column a field is.  So a listing determines the
entries of its selection (`plain_listing_exact`).
-/

namespace NamedConstants

/-- An entry can be read back from a plain listing: its fields are texts without line feeds, its
    names hold no spaces, and its value does not end in one. -/
inductive Entry.IsLegible : Entry → Prop where
  | texts {group name value : String} (hgroup : ' ' ∉ group.toList ∧ '\n' ∉ group.toList)
      (hname : ' ' ∉ name.toList ∧ '\n' ∉ name.toList)
      (hvalue : value.toList.getLast? ≠ some ' ' ∧ '\n' ∉ value.toList) :
      IsLegible ⟨.text group, .text name, .text value⟩

namespace Listing

section Texts

variable {e e' : Entry}

theorem isText_of_isLegible (h : e.IsLegible) : ∀ v ∈ cells e, v.isText = true := by
  obtain ⟨-, -, -⟩ := h
  simp [cells, Value.isText, Value.asText?]

theorem separable_of_isLegible (h : e.IsLegible) :
    Table.Separable plainWidths ((texts e).map String.toList) := by
  obtain ⟨⟨hgroup, -⟩, ⟨hname, -⟩, ⟨hvalue, -⟩⟩ := h
  exact ⟨hgroup, hname, hvalue⟩

theorem not_mem_of_isLegible (h : e.IsLegible) : ∀ s ∈ texts e, '\n' ∉ s.toList := by
  obtain ⟨⟨-, hgroup⟩, ⟨-, hname⟩, ⟨-, hvalue⟩⟩ := h
  simp [texts, cells, Value.display, hgroup, hname, hvalue]

/-- Entries that can be read back are equal if their texts are. -/
theorem eq_of_texts_eq (h : e.IsLegible) (h' : e'.IsLegible) (htexts : texts e = texts e') :
    e = e' := by
  obtain ⟨-, -, -⟩ := h
  obtain ⟨-, -, -⟩ := h'
  simp only [texts, cells, List.map_cons, List.map_nil, Value.display, List.cons.injEq,
    and_true] at htexts
  obtain ⟨rfl, rfl, rfl⟩ := htexts
  rfl

end Texts

theorem eq_of_map_texts_eq {entries entries' : List Entry} (h : ∀ e ∈ entries, e.IsLegible)
    (h' : ∀ e ∈ entries', e.IsLegible) (htexts : entries.map texts = entries'.map texts) :
    entries = entries' := by
  induction entries generalizing entries' with
  | nil => exact (List.map_eq_nil_iff.mp htexts.symm).symm
  | cons e entries ih =>
      obtain ⟨e', rest, rfl, hfirst, hrest⟩ := List.map_eq_cons_iff.mp htexts.symm
      obtain ⟨he, hentries⟩ := List.forall_mem_cons.mp h
      obtain ⟨he', hentries'⟩ := List.forall_mem_cons.mp h'
      rw [eq_of_texts_eq he he' hfirst.symm, ih hentries hentries' hrest.symm]

/-- The groups that a registry of classes is asked for are there, and their entries can be read
    back. -/
structure IsLegible (r : Registry) (selection : Option Value) : Prop where
  made : ∃ classes, Registry.ofClasses classes = .ok r
  registered : ∀ name, selection = some name → ∃ g ∈ r.groups, g.name.same name = true
  entries : ∀ g ∈ r.groups, g.IsSelected selection → ∀ e ∈ g.entries, e.IsLegible

section Selected

variable {r : Registry} {selection : Option Value} {groups : List Group} {host : Host}

theorem IsLegible.exists_select (h : IsLegible r selection) :
    ∃ groups, r.select selection = .ok groups := by
  obtain ⟨classes, hclasses⟩ := h.made
  exact Registry.exists_select hclasses h.registered

theorem IsLegible.of_select (h : IsLegible r selection) (hsel : r.select selection = .ok groups) :
    ∀ e ∈ groups.flatMap Group.entries, e.IsLegible := by
  obtain ⟨classes, hclasses⟩ := h.made
  exact Registry.forall_entries_of_select hclasses h.entries hsel

/-- A plain listing of entries that can be read back returns, and they are read back. -/
theorem exists_list_plain (hhost : host.renderer = false) (hsel : r.select selection = .ok groups)
    (h : ∀ e ∈ groups.flatMap Group.entries, e.IsLegible) :
    ∃ text, list host r selection false = ⟨"", String.ofList text, .done 0⟩ ∧
      Table.readRows plainWidths text = rows groups := by
  have hrun := list_plain hhost hsel fun e he => isText_of_isLegible (h e he)
  refine ⟨_, hrun, ?_⟩
  apply Table.readRows_unlines (by decide) (by decide)
  · intro row hrow
    obtain ⟨e, he, rfl⟩ := List.mem_map.mp hrow
    exact separable_of_isLegible (h e he)
  · intro row hrow
    obtain ⟨e, he, rfl⟩ := List.mem_map.mp hrow
    exact not_mem_of_isLegible (h e he)

end Selected

/-- What a plain listing has to do with the entries of its selection. -/
structure PlainListing (host : Host) (r : Registry) (selection : Option Value)
    (entries : List Entry) : Prop where
  /-- It returns, and its rows are read back as the texts of the entries. -/
  returns : ∃ text, list host r selection false = ⟨"", String.ofList text, .done 0⟩ ∧
    Table.readRows plainWidths text = entries.map texts
  /-- A listing that writes the same, be it of another registry or another selection, is of the
      same entries. -/
  determined : ∀ (host' : Host) (r' : Registry) (selection' : Option Value)
    (entries' : List Entry), host'.renderer = false → IsLegible r' selection' →
    r'.entries selection' = .ok entries' →
    (list host' r' selection' false).stderr = (list host r selection false).stderr →
    entries' = entries
  selected : r.entries selection = .ok entries
  /-- Without a name, these are the entries of all groups. -/
  all : selection = none → entries = r.groups.flatMap Group.entries
  /-- With a name, these are the entries of the group of that name. -/
  one : ∀ name, selection = some name → ∀ g ∈ r.groups, g.name.same name = true →
    entries = g.entries

/-- A plain listing of entries that can be read back determines them: those of the group that is
    asked for, or of all groups if none is. -/
theorem plain_listing_exact {host : Host} (hhost : host.renderer = false) {r : Registry}
    {selection : Option Value} (h : IsLegible r selection) :
    ∃ entries, PlainListing host r selection entries := by
  obtain ⟨classes, hclasses⟩ := h.made
  obtain ⟨groups, hsel⟩ := h.exists_select
  obtain ⟨text, hrun, hread⟩ := exists_list_plain hhost hsel (h.of_select hsel)
  refine ⟨groups.flatMap Group.entries, ⟨text, hrun, hread⟩, ?_, ?_, ?_, ?_⟩
  · intro host' r' selection' entries' hhost' h' hentries' hsame
    obtain ⟨groups', hsel'⟩ := h'.exists_select
    obtain ⟨text', hrun', hread'⟩ := exists_list_plain hhost' hsel' (h'.of_select hsel')
    rw [Registry.entries_of_select hsel'] at hentries'
    obtain rfl := Except.ok.inj hentries'
    rw [hrun, hrun'] at hsame
    obtain rfl := String.ofList_inj.mp hsame
    exact eq_of_map_texts_eq (h'.of_select hsel') (h.of_select hsel) (hread'.symm.trans hread)
  · exact Registry.entries_of_select hsel
  · rintro rfl
    rw [← Except.ok.inj hsel]
  · rintro name rfl g hg hname
    have hfind := Registry.find?_of_same hclasses hg hname
    rw [Registry.select_of_find? hfind] at hsel
    rw [← Except.ok.inj hsel]
    exact List.append_nil g.entries

/-- Classes of which the first has an empty name and a constant whose name runs over, and the
    second a name that runs over itself. -/
def oddNames : List GroupClass :=
  [{ name := "", base := .plain, doc := none,
     declared := [("a_name_longer_than_its_column", .text ""), ("b", .text "  two words")],
     assigned := [], distinct := by decide },
   { name := "a_group_longer_than_its_column", base := .text, doc := none,
     declared := [("", .int 1)], assigned := [], distinct := by decide }]

/-- The group with the empty name is not listed as if no group were asked for. -/
theorem plain_listing_exact_oddNames :
    ∃ r, Registry.ofClasses oddNames = .ok r ∧
      (∃ text, list { Host.standard with renderer := false } r (some (.text "")) false =
          ⟨"", String.ofList text, .done 0⟩ ∧
        Table.readRows plainWidths text =
          [["", "a_name_longer_than_its_column", ""], ["", "b", "  two words"]]) ∧
      ∃ text, list { Host.standard with renderer := false } r none false =
          ⟨"", String.ofList text, .done 0⟩ ∧
        Table.readRows plainWidths text =
          [["", "a_name_longer_than_its_column", ""], ["", "b", "  two words"],
            ["a_group_longer_than_its_column", "", "1"]] := by
  obtain ⟨r, hr⟩ : ∃ r, Registry.ofClasses oddNames = .ok r := by
    rw [Registry.ofClasses_ok_iff]
    decide
  have hgroups : r.groups = oddNames.map Group.ofClass := Registry.groups_of_ofClasses hr
  have hfirst : Group.ofClass oddNames[0] ∈ r.groups := by
    rw [hgroups]
    exact List.mem_cons_self ..
  have hlegible : ∀ g ∈ r.groups, ∀ e ∈ g.entries, e.IsLegible := by
    rw [hgroups]
    intro g hg e he
    obtain rfl | rfl := List.mem_pair.mp hg
    · obtain rfl | rfl := List.mem_pair.mp he
      · exact .texts (by decide) (by decide) (by decide)
      · exact .texts (by decide) (by decide) (by decide)
    · rw [List.mem_singleton.mp he]
      exact .texts (by decide) (by decide) (by decide)
  have hone : IsLegible r (some (.text "")) := by
    refine ⟨⟨oddNames, hr⟩, ?_, fun g hg _ => hlegible g hg⟩
    rintro _ ⟨⟩
    exact ⟨_, hfirst, by decide⟩
  have hall : IsLegible r none := ⟨⟨oddNames, hr⟩, nofun, fun g hg _ => hlegible g hg⟩
  have hhost : { Host.standard with renderer := false }.renderer = false := rfl
  refine ⟨r, hr, ?_, ?_⟩
  · obtain ⟨entries, hlisting⟩ := plain_listing_exact hhost hone
    obtain ⟨text, hrun, hread⟩ := hlisting.returns
    have hentries := hlisting.one (.text "") rfl _ hfirst (by decide)
    refine ⟨text, hrun, ?_⟩
    rw [hread, hentries]
    rfl
  · obtain ⟨entries, hlisting⟩ := plain_listing_exact hhost hall
    obtain ⟨text, hrun, hread⟩ := hlisting.returns
    have hentries := hlisting.all rfl
    refine ⟨text, hrun, ?_⟩
    rw [hread, hentries, hgroups]
    rfl

end Listing

end NamedConstants
