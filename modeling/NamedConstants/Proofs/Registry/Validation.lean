import Mathlib.Data.List.Forall2
import NamedConstants.Proofs.Registry.Construction
import NamedConstants.Registry.Validation

/-!
# Sound registries

A registry has no problems if and only if every group has a constant and every value is a text
that is not empty (`problems_eq_nil_iff`).  The validation visits the parts of a registry one after
the other: each group, and behind it its entries.  A part that is unsound gets one line, and the
others get none (`Registry.forall₂_reports`).  A class that is built on text keeps nothing but
texts, so that its values can only be empty (`Group.problems_of_isText`).
-/

namespace NamedConstants

/-- Nothing is wrong with a constant whose value is a text that is not empty. -/
theorem Entry.problem?_eq_none_iff (e : Entry) :
    e.problem? = none ↔ ∃ s, e.value.asText? = some s ∧ s ≠ "" := by
  unfold problem?
  cases htext : e.value.asText? with
  | none => simp
  | some s =>
      by_cases hs : s = ""
      · simp [hs]
      · simp [hs]

theorem Group.problems_eq_nil_iff (g : Group) :
    g.problems = [] ↔
      g.constants ≠ [] ∧ ∀ e ∈ g.constants, ∃ s, e.2.asText? = some s ∧ s ≠ "" := by
  have hentries : g.entries.filterMap Entry.problem? = [] ↔
      ∀ e ∈ g.constants, ∃ s, e.2.asText? = some s ∧ s ≠ "" := by
    rw [List.filterMap_eq_nil_iff, entries, List.forall_mem_map]
    simp only [Entry.problem?_eq_none_iff]
  rw [problems, List.append_eq_nil_iff, hentries, isEmpty]
  cases g.constants <;> simp

/-- A registry has no problems if and only if its groups have none. -/
theorem Registry.problems_eq_nil_iff (r : Registry) :
    r.problems = [] ↔ ∀ g ∈ r.groups,
      g.constants ≠ [] ∧ ∀ e ∈ g.constants, ∃ s, e.2.asText? = some s ∧ s ≠ "" := by
  rw [problems, List.flatMap_eq_nil_iff]
  simp only [Group.problems_eq_nil_iff]

/-! ## Parts -/

/-- What the validation of a registry looks at: a group for its constants, or an entry for its
    value. -/
inductive Part where
  | group (g : Group)
  | entry (e : Entry)

namespace Part

/-- The names that a part goes by: of the group and, for an entry, of the constant. -/
def subject : Part → Value × Option Value
  | group g => (g.name, none)
  | entry e => (e.group, some e.name)

/-- Whether a part is a group without constants, or an entry whose value is no text or an empty
    one. -/
def isUnsound : Part → Bool
  | group g => g.isEmpty
  | entry e => e.value.asText?.all String.isEmpty

/-- A line says what is wrong with a part. -/
inductive Reports : Part → String → Prop
  | noConstants {g : Group} (h : g.constants = []) :
      Reports (group g) (g.name.display ++ ": group defines no constants")
  | notText {e : Entry} (h : e.value.asText? = none) :
      Reports (entry e) (e.group.display ++ "." ++ e.name.display ++ ": value is " ++
        e.value.typeName ++ ", not str")
  | emptyText {e : Entry} (h : e.value.asText? = some "") :
      Reports (entry e) (e.group.display ++ "." ++ e.name.display ++ ": value is empty")

/-- The line about a part, if there is one. -/
def problem? : Part → Option String
  | group g => if g.isEmpty then some (g.name.display ++ ": group defines no constants") else none
  | entry e => e.problem?

/-- The parts that get a line are the unsound ones. -/
theorem isSome_problem? (p : Part) : p.problem?.isSome = p.isUnsound := by
  cases p with
  | group g =>
      rw [problem?, isUnsound]
      cases g.isEmpty <;> rfl
  | entry e =>
      rw [problem?, isUnsound, Entry.problem?]
      cases e.value.asText? with
      | none => rfl
      | some s => by_cases hs : s.isEmpty = true <;> simp [hs]

theorem reports_of_problem? {p : Part} {line : String} (h : p.problem? = some line) :
    Reports p line := by
  cases p with
  | group g =>
      by_cases hempty : g.constants = []
      · rw [problem?, Group.isEmpty, hempty] at h
        obtain rfl := Option.some.inj h
        exact .noConstants hempty
      · simp [problem?, Group.isEmpty, hempty] at h
  | entry e =>
      rw [problem?, Entry.problem?] at h
      cases htext : e.value.asText? with
      | none =>
          rw [htext] at h
          obtain rfl := Option.some.inj h
          exact .notText htext
      | some s =>
          rw [htext] at h
          by_cases hs : s = ""
          · subst hs
            obtain rfl := Option.some.inj h
            exact .emptyText htext
          · simp [hs] at h

end Part

/-- A group, and behind it its entries in their order. -/
def Group.parts (g : Group) : List Part :=
  .group g :: g.entries.map .entry

/-- The parts of a registry, group by group. -/
def Registry.parts (r : Registry) : List Part :=
  r.groups.flatMap Group.parts

theorem Group.problems_eq_filterMap (g : Group) : g.problems = g.parts.filterMap Part.problem? := by
  have hentries : (g.entries.map Part.entry).filterMap Part.problem? =
      g.entries.filterMap Entry.problem? := by
    rw [List.filterMap_map]
    rfl
  rw [problems, parts, List.filterMap_cons, hentries, Part.problem?]
  cases g.isEmpty <;> rfl

theorem Registry.problems_eq_filterMap (r : Registry) :
    r.problems = r.parts.filterMap Part.problem? := by
  rw [problems, parts, List.filterMap_flatMap, funext Group.problems_eq_filterMap]

/-- Where each element gives a result or none, the results stand for the elements that give one. -/
theorem forall₂_filterMap {α β : Type} {f : α → Option β} {keep : α → Bool} {R : α → β → Prop}
    (hkeep : ∀ a, (f a).isSome = keep a) (hR : ∀ a b, f a = some b → R a b) (l : List α) :
    List.Forall₂ R (l.filter keep) (l.filterMap f) := by
  induction l with
  | nil => exact .nil
  | cons a rest ih =>
      cases hf : f a with
      | none =>
          have hnot : ¬keep a = true := by simp [← hkeep a, hf]
          rw [List.filter_cons_of_neg hnot, List.filterMap_cons_none hf]
          exact ih
      | some b =>
          have hkept : keep a = true := by simp [← hkeep a, hf]
          rw [List.filter_cons_of_pos hkept, List.filterMap_cons_some hf]
          exact .cons (hR a b hf) ih

/-- The lines are about the unsound parts, one line for each, in the order of the parts. -/
theorem Registry.forall₂_reports (r : Registry) :
    List.Forall₂ Part.Reports (r.parts.filter Part.isUnsound) r.problems := by
  rw [problems_eq_filterMap]
  exact forall₂_filterMap Part.isSome_problem? (fun _ _ => Part.reports_of_problem?) r.parts

/-- Among the parts of a registry, the groups and the entries can be counted apart. -/
theorem Registry.countP_parts (r : Registry) :
    r.parts.countP Part.isUnsound = r.groups.countP Group.isEmpty +
      (r.groups.flatMap Group.entries).countP fun e => (Part.entry e).isUnsound := by
  rw [parts]
  induction r.groups with
  | nil => rfl
  | cons g rest ih =>
      have hown : g.parts.countP Part.isUnsound = (if g.isEmpty then 1 else 0) +
          g.entries.countP fun e => (Part.entry e).isUnsound := by
        rw [Group.parts, List.countP_cons, List.countP_map, Nat.add_comm]
        rfl
      rw [List.flatMap_cons, List.flatMap_cons, List.countP_append, List.countP_append,
        List.countP_cons, ih, hown]
      omega

/-! ## Classes -/

/-- A part goes by the name of its class and, for an entry, by a name that the class declares. -/
theorem Group.map_subject_parts (c : GroupClass) :
    (ofClass c).parts.map Part.subject =
      (.text c.name, none) :: c.declared.map fun e => (.text c.name, some (.text e.1)) := by
  have hnames : c.declared.map (fun e => (Value.text c.name, some (Value.text e.1))) =
      (c.members.map Prod.fst).map fun name => (.text c.name, some (.text name)) := by
    rw [GroupClass.map_fst_members, List.map_map]
    rfl
  rw [hnames, parts, List.map_cons, entries, ofClass]
  simp only [List.map_map]
  rfl

/-- Whether a declared value makes an empty text: an empty text does, but also a tuple that holds
    nothing or only an empty text. -/
def makesEmptyText (codec : Codec) (v : Value) : Bool :=
  match textOfDeclared codec v with
  | .ok s => s.isEmpty
  | .error _ => false

/-- Of a class that is built on text, nothing is said but that it declares nothing, or that a name
    is declared with a value that makes an empty text. -/
theorem Group.problems_of_isText {c : GroupClass} (h : c.base.isText = true) :
    (ofClass c).problems =
      (if c.declared.isEmpty then [c.name ++ ": group defines no constants"] else []) ++
        c.declared.filterMap fun e =>
          if makesEmptyText c.codec e.2 then some (c.name ++ "." ++ e.1 ++ ": value is empty")
          else none := by
  have hconstants := constants_of_isText h
  have hempty : (ofClass c).isEmpty = c.declared.isEmpty := by
    rw [isEmpty, hconstants, List.isEmpty_map]
  rw [problems, hempty, entries, hconstants, List.map_map, List.filterMap_map]
  refine congrArg _ (List.filterMap_congr fun e he => ?_)
  obtain ⟨s, hs, hkeep⟩ := GroupClass.exists_textOfDeclared h he
  simp only [Function.comp_apply, Entry.problem?, makesEmptyText, hs, hkeep]
  rfl

/-- Only a class that is not built on text has lines that end in what is said of other values. -/
theorem Group.plain_of_mem_problems {c : GroupClass} {line front : String}
    (hmem : line ∈ (ofClass c).problems) (hline : line = front ++ ", not str") :
    c.base = .plain := by
  have hlast : line.toList.getLast? = some 'r' := by simp [hline]
  by_cases htext : c.base.isText = true
  · rw [problems_of_isText htext, List.mem_append, List.mem_filterMap] at hmem
    obtain hempty | ⟨e, -, he⟩ := hmem
    · cases hdeclared : c.declared.isEmpty with
      | true =>
          rw [hdeclared, if_pos rfl, List.mem_singleton] at hempty
          simp [hempty] at hlast
      | false => simp [hdeclared] at hempty
    · by_cases hmade : makesEmptyText c.codec e.2 = true
      · rw [if_pos hmade] at he
        obtain rfl := Option.some.inj he
        rw [String.toList_append, List.getLast?_append] at hlast
        simp at hlast
      · simp [hmade] at he
  · cases hbase : c.base with
    | plain => rfl
    | text => exact absurd (by rw [hbase, Base.isText]) htext
    | literal => exact absurd (by rw [hbase, Base.isText]) htext

namespace Registry

variable {classes : List GroupClass} {r : Registry}

/-- What the validation of a registry of classes says. -/
structure Validated (classes : List GroupClass) (r : Registry) : Prop where
  /-- It says nothing if and only if every group has a constant and every value is a text that is
      not empty. -/
  sound_iff : r.problems = [] ↔ ∀ g ∈ r.groups,
    g.constants ≠ [] ∧ ∀ e ∈ g.constants, ∃ s, e.2.asText? = some s ∧ s ≠ ""
  /-- There are as many lines as groups without constants and entries without a proper text. -/
  length : r.problems.length = r.groups.countP Group.isEmpty +
    (r.groups.flatMap Group.entries).countP fun e => (Part.entry e).isUnsound
  /-- Each unsound part gets one line, in order. -/
  lines : List.Forall₂ Part.Reports (r.parts.filter Part.isUnsound) r.problems
  /-- The parts are the classes in their order, and behind each one its names as declared. -/
  order : r.parts.map Part.subject = classes.flatMap fun c =>
    (.text c.name, none) :: c.declared.map fun e => (.text c.name, some (.text e.1))
  /-- The lines come from the classes in their order. -/
  grouped : r.problems = classes.flatMap fun c => (Group.ofClass c).problems
  /-- A class that is built on text gets a line if it declares nothing, and one for each value that
      makes an empty text; no other, whatever values it declares. -/
  of_isText : ∀ c ∈ classes, c.base.isText = true →
    (Group.ofClass c).problems =
      (if c.declared.isEmpty then [c.name ++ ": group defines no constants"] else []) ++
        c.declared.filterMap fun e =>
          if makesEmptyText c.codec e.2 then some (c.name ++ "." ++ e.1 ++ ": value is empty")
          else none
  /-- A value can only be called no text where the class is a plain one. -/
  plain : ∀ c ∈ classes, ∀ (front line : String), line ∈ (Group.ofClass c).problems →
    line = front ++ ", not str" → c.base = .plain

/-- The validation of a registry is sound, complete and in order. -/
theorem validation_exact (h : ofClasses classes = .ok r) : Validated classes r where
  sound_iff := r.problems_eq_nil_iff
  length := by rw [← r.forall₂_reports.length_eq, ← List.countP_eq_length_filter, countP_parts]
  lines := r.forall₂_reports
  order := by
    rw [parts, groups_of_ofClasses h, List.map_flatMap, List.flatMap_map]
    simp only [Group.map_subject_parts]
  grouped := by rw [problems, groups_of_ofClasses h, List.flatMap_map]
  of_isText := fun _ _ htext => Group.problems_of_isText htext
  plain := fun _ _ _ _ hmem hline => Group.plain_of_mem_problems hmem hline

/-- A plain class that declares one in two types, an empty text, a member that is a text and a
    pair. -/
def mixture : GroupClass where
  name := "Mixture"
  base := .plain
  doc := none
  declared := [("one", .int 1), ("yes", .bool true), ("blank", .text ""),
    ("other", .member "Words" .text "word" (.text "word")), ("pair", .tuple [.null, .null])]
  assigned := []
  distinct := by decide

/-- A class that is built on text and declares values of other types, too. -/
def words : GroupClass where
  name := "Words"
  base := .text
  doc := none
  declared := [("nothing", .null), ("blank", .text ""), ("none", .list []), ("again", .text ""),
    ("left", .tuple [])]
  assigned := []
  distinct := by decide

/-- A class that declares nothing. -/
def hollow : GroupClass where
  name := "Hollow"
  base := .text
  doc := none
  declared := []
  assigned := []
  distinct := List.nodup_nil

/-- An alias is named with the type of the member that it stands for; what a class that is built
    on text declares can be of any type. -/
theorem validation_exact_mixture :
    ∃ r, ofClasses [mixture, hollow, words] = .ok r ∧
      r.problems = ["Mixture.one: value is int, not str", "Mixture.yes: value is int, not str",
        "Mixture.blank: value is empty", "Mixture.pair: value is tuple, not str",
        "Hollow: group defines no constants", "Words.blank: value is empty",
        "Words.again: value is empty", "Words.left: value is empty"] ∧
      (r.parts.filter Part.isUnsound).map Part.subject =
        [(.text "Mixture", some (.text "one")), (.text "Mixture", some (.text "yes")),
          (.text "Mixture", some (.text "blank")), (.text "Mixture", some (.text "pair")),
          (.text "Hollow", none), (.text "Words", some (.text "blank")),
          (.text "Words", some (.text "again")), (.text "Words", some (.text "left"))] ∧
      mixture.base = .plain := by
  obtain ⟨r, hr⟩ : ∃ r, ofClasses [mixture, hollow, words] = .ok r := by
    rw [ofClasses_ok_iff]
    decide
  have hvalid : Validated [mixture, hollow, words] r := validation_exact hr
  have hparts : r.parts = [Group.ofClass mixture, Group.ofClass hollow,
      Group.ofClass words].flatMap Group.parts := by
    rw [parts, groups_of_ofClasses hr]
    rfl
  refine ⟨r, hr, hvalid.grouped.trans rfl, by rw [hparts]; rfl, ?_⟩
  exact hvalid.plain mixture (by simp) "Mixture.one: value is int" _ (List.mem_cons_self ..) rfl

end Registry

end NamedConstants
