import NamedConstants.Listing
import NamedConstants.Proofs.Json.RoundTrip
import NamedConstants.Proofs.Registry.Lookup
import NamedConstants.Proofs.Run

/-!
# Listings as JSON

The JSON listing of a registry whose values are texts is read back as the tables of its
groups (`list_json_reads_back`).
-/

namespace NamedConstants

/-- The values of a group are texts. -/
def Group.HoldsTexts (g : Group) : Prop :=
  ∀ e ∈ g.constants, ∃ s, e.2 = .text s

theorem Group.holdsTexts_ofClass {c : GroupClass} (h : c.base.isText = true) :
    (Group.ofClass c).HoldsTexts := by
  intro e he
  obtain ⟨m, hm, rfl⟩ := List.mem_map.mp he
  exact c.exists_text_of_isText h m hm

/-- A value that is a text, as nothing but that text; any other value as it is. -/
def Value.raw (v : Value) : Value :=
  (v.asText?.map Value.text).getD v

theorem Value.raw_of_asText? {v : Value} {s : String} (h : v.asText? = some s) :
    v.raw = .text s := by
  rw [raw, h]
  rfl

/-- The table of a group with raw values. -/
def Group.raw (g : Group) : List (Value × Value) :=
  g.constants.map fun e => (e.1, e.2.raw)

theorem Group.raw_of_holdsTexts {g : Group} (h : g.HoldsTexts) : g.raw = g.constants := by
  have hself : ∀ e ∈ g.constants, (e.1, e.2.raw) = e := by
    intro e he
    obtain ⟨s, hs⟩ := h e he
    rw [hs, Value.raw_of_asText? rfl, ← hs]
  rw [raw, List.map_congr_left hself, List.map_id']

theorem Group.HoldsTexts.exists_asText? {g : Group} (h : g.HoldsTexts) :
    ∀ e ∈ g.constants, ∃ s, e.2.asText? = some s := by
  intro e he
  obtain ⟨s, hs⟩ := h e he
  exact ⟨s, by rw [hs]; rfl⟩

namespace Listing

open Json

/-- The table of a snapshot whose values are texts or members that are texts is read back with
    raw values. -/
theorem readsBack_raw {c : GroupClass}
    (h : ∀ e ∈ (Group.ofClass c).constants, ∃ s, e.2.asText? = some s) (style : Style)
    (level : Nat) :
    ReadsBack style level (.dict (Group.ofClass c).constants) (.dict (Group.ofClass c).raw) := by
  have hentries : List.Forall₂ (EntryReadsBack style (level + 1)) (Group.ofClass c).constants
      (Group.ofClass c).raw := by
    rw [Group.raw, List.forall₂_map_right_iff, List.forall₂_same]
    intro e he
    obtain ⟨s, hs⟩ := h e he
    obtain ⟨m, -, hm⟩ := List.mem_map.mp he
    have hkey : e.1 = .text m.1 := (congrArg Prod.fst hm).symm
    refine ⟨⟨m.1, by rw [hkey]; rfl, hkey⟩, ?_⟩
    rw [Value.raw_of_asText? hs]
    exact readsBack_of_asText? style (level + 1) hs
  have hdistinct : (Group.ofClass c).raw.Pairwise fun a b => a.1.same b.1 = false :=
    List.pairwise_map.mpr (Group.pairwise_ofClass c)
  have hback := readsBack_dict hentries
  rwa [Value.tableOf_of_pairwise hdistinct] at hback

variable {classes : List GroupClass} {r : Registry}

/-- The data of groups with different names is read back with raw values. -/
theorem readsBack_payload_raw (h : Registry.ofClasses classes = .ok r) {groups : List Group}
    (hsub : ∀ g ∈ groups, g ∈ r.groups)
    (hdistinct : groups.Pairwise fun a b => a.name.same b.name = false)
    (htexts : ∀ g ∈ groups, ∀ e ∈ g.constants, ∃ s, e.2.asText? = some s) (style : Style) :
    ReadsBack style 0 (payload groups) (.dict (groups.map fun g => (g.name, .dict g.raw))) := by
  have hentries : List.Forall₂ (EntryReadsBack style 1)
      (groups.map fun g => (g.name, Value.dict g.constants))
      (groups.map fun g => (g.name, Value.dict g.raw)) := by
    rw [List.forall₂_map_left_iff, List.forall₂_map_right_iff, List.forall₂_same]
    intro g hg
    obtain ⟨c, -, rfl⟩ := Registry.exists_class_of_mem h (hsub g hg)
    exact ⟨⟨c.name, rfl, rfl⟩, readsBack_raw (htexts _ hg) style 1⟩
  have hback := readsBack_dict hentries
  rwa [Value.tableOf_of_pairwise (List.pairwise_map.mpr hdistinct)] at hback

/-- The data of groups with different names that hold texts is read back as itself. -/
theorem readsBack_payload (h : Registry.ofClasses classes = .ok r) {groups : List Group}
    (hsub : ∀ g ∈ groups, g ∈ r.groups)
    (hdistinct : groups.Pairwise fun a b => a.name.same b.name = false)
    (htexts : ∀ g ∈ groups, g.HoldsTexts) (style : Style) :
    ReadsBack style 0 (payload groups) (payload groups) := by
  have hback := readsBack_payload_raw h hsub hdistinct (fun g hg => (htexts g hg).exists_asText?)
    style
  have hraw : (groups.map fun g => (g.name, Value.dict g.raw)) =
      groups.map fun g => (g.name, Value.dict g.constants) := by
    apply List.map_congr_left
    intro g hg
    rw [Group.raw_of_holdsTexts (htexts g hg)]
  rwa [hraw] at hback

/-! ## Runs of listings -/

theorem get_of_ok {group name value : Value} (h : r.get group name = .ok value) :
    get r group name = ⟨value.display ++ "\n", "", .done 0⟩ := by
  simp [get, h, Run.outLine]

theorem get_of_error {group name : Value} {failure : Failure}
    (h : r.get group name = .error failure) : get r group name = Run.fail failure := by
  rw [get, h]
  rfl

theorem list_of_error {selection : Option Value} {failure : Failure}
    (h : r.select selection = .error failure) (host : Host) (asJson : Bool) :
    list host r selection asJson = Run.fail failure := by
  rw [list, h]
  rfl

theorem list_document {selection : Option Value} {groups : List Group} {text : String}
    (hsel : r.select selection = .ok groups) (htext : document (payload groups) = .ok text)
    (host : Host) : list host r selection true = ⟨text ++ "\n", "", .done 0⟩ := by
  simp [list, hsel, htext, Run.outLine]

/-- A run writes a JSON document of a value to the standard output, in ASCII, and nothing
    else. -/
def WritesDocument (run : Run Int) (v : Value) : Prop :=
  ∃ out, run = ⟨out, "", .done 0⟩ ∧ IsAscii out.toList ∧ read? out.toList = some v

/-- A selection whose data is read back is listed so that it can be read back. -/
theorem writesDocument_of_readsBack {selection : Option Value} {groups : List Group}
    (hsel : r.select selection = .ok groups) {v : Value}
    (h : ReadsBack .indented 0 (payload groups) v) (host : Host) :
    WritesDocument (list host r selection true) v := by
  obtain ⟨text, hdoc, hascii, hreads⟩ := document_of_readsBack h
  have hchars : (String.ofList text ++ "\n").toList = text ++ ['\n'] := by simp
  have hend : IsAscii ['\n'] := by decide
  refine ⟨String.ofList text ++ "\n", ?_, ?_, ?_⟩
  · exact list_document hsel hdoc host
  · rw [hchars]
    exact hascii.append hend
  · rw [hchars]
    exact hreads.read? (by decide)

/-- The JSON listing of a registry of classes whose values are texts is read back as what the
    registry answers: the listing of all groups as the table of their tables by name, that of
    one group as the one table by its name. -/
theorem list_json_reads_back (h : Registry.ofClasses classes = .ok r)
    (htexts : ∀ g ∈ r.groups, g.HoldsTexts) (host : Host) :
    (∃ tables, r.names.mapM r.constants = .ok tables ∧
      WritesDocument (list host r none true) (.dict (r.names.zip (tables.map Value.dict)))) ∧
    ∀ name g, r.group name = .ok g →
      ∃ table, r.constants name = .ok table ∧
        WritesDocument (list host r (some name) true) (.dict [(g.name, .dict table)]) := by
  constructor
  · refine ⟨r.groups.map Group.constants, ?_, ?_⟩
    · exact Registry.mapM_names fun g hg => Registry.constants_name h hg
    · have hzip : payload r.groups =
          .dict (r.names.zip ((r.groups.map Group.constants).map Value.dict)) := by
        rw [payload, Registry.names, List.map_map, List.zip_map']
        rfl
      have hback := readsBack_payload h (fun g hg => hg) r.distinct htexts .indented
      rw [← hzip]
      exact writesDocument_of_readsBack rfl hback host
  · intro name g hg
    have hmem := Registry.mem_of_find? (Registry.find?_of_group hg)
    refine ⟨g.constants, ?_, ?_⟩
    · rw [Registry.constants, hg]
      rfl
    · have hsub : ∀ g' ∈ [g], g' ∈ r.groups := by
        intro g' hg'
        rw [List.mem_singleton.mp hg']
        exact hmem
      have hback := readsBack_payload h hsub (List.pairwise_singleton ..)
        (fun g' hg' => htexts g' (hsub g' hg')) .indented
      have hsel : r.select (some name) = .ok [g] := by
        rw [Registry.select, hg]
        rfl
      exact writesDocument_of_readsBack hsel hback host

/-- A class with an empty name, whose texts hold marks, line ends and characters beyond the
    basic plane. -/
def oddTexts : GroupClass where
  name := ""
  base := .text
  doc := none
  declared := [("\x22", .text "a\\\n\x00"), ("", .text "😀\x7f")]
  assigned := []
  distinct := by decide

theorem list_json_reads_back_oddTexts :
    ∃ r, Registry.ofClasses [oddTexts, GroupClass.stringConstants] = .ok r ∧
      (∀ g ∈ r.groups, g.HoldsTexts) ∧
      WritesDocument (list .standard r (some (.text "")) true)
        (.dict [(.text "",
          .dict [(.text "\x22", .text "a\\\n\x00"), (.text "", .text "😀\x7f")])]) := by
  obtain ⟨r, hr⟩ : ∃ r, Registry.ofClasses [oddTexts, GroupClass.stringConstants] = .ok r :=
    ⟨⟨[Group.ofClass oddTexts, Group.ofClass GroupClass.stringConstants], by decide⟩, rfl⟩
  have hgroups := Registry.groups_of_ofClasses hr
  have htexts : ∀ g ∈ r.groups, g.HoldsTexts := by
    rw [hgroups]
    intro g hg e he
    rcases List.mem_pair.mp hg with rfl | rfl
    · rcases List.mem_pair.mp he with rfl | rfl
      · exact ⟨_, rfl⟩
      · exact ⟨_, rfl⟩
    · cases he
  have hgroup : r.group (.text "") = .ok (Group.ofClass oddTexts) := by
    rw [Registry.group, Registry.find?, hgroups]
    rfl
  obtain ⟨table, htable, hdoc⟩ :=
    (list_json_reads_back hr htexts .standard).2 (.text "") (Group.ofClass oddTexts) hgroup
  rw [Registry.constants, hgroup] at htable
  obtain rfl := Except.ok.inj htable
  exact ⟨r, hr, htexts, hdoc⟩

end Listing

end NamedConstants
