import Mathlib.Data.List.Nodup
import NamedConstants.Proofs.Registry.Lookup
import NamedConstants.Proofs.Text.Lines

/-!
# Registries that are put together

Classes are added to a registry one after the other, and a class whose name is taken is refused.
The classes in front of it have been added by then, so their names are different, and the refused
one is the first that repeats a name.  Hence a registry is made if and only if no name stands at
two positions, and otherwise the failure names the first repeat (`assembly_exact`).
-/

namespace NamedConstants

/-! ## Repeated names -/

/-- The name at a position of a list stands at an earlier position, too. -/
def RepeatsAt (names : List String) (position : Nat) : Prop :=
  ∃ earlier < position, ∃ name, names[earlier]? = some name ∧ names[position]? = some name

/-- A name stands at the first position at which a list repeats a name. -/
structure IsFirstRepeat (names : List String) (position : Nat) (name : String) : Prop where
  there : names[position]? = some name
  repeats : RepeatsAt names position
  first : ∀ earlier < position, ¬RepeatsAt names earlier

section Repeats

variable {names before after : List String} {name : String}

theorem not_repeatsAt_of_nodup (h : names.Nodup) (position : Nat) : ¬RepeatsAt names position := by
  rintro ⟨earlier, hlt, name, hearlier, hthere⟩
  have hbound : earlier < names.length := (List.getElem?_eq_some_iff.mp hearlier).1
  have hsame := (List.getElem?_inj hbound h).mp (hearlier.trans hthere.symm)
  exact Nat.ne_of_lt hlt hsame

/-- A list repeats a name at some position if and only if its names are not all different. -/
theorem exists_repeatsAt_iff : (∃ position, RepeatsAt names position) ↔ ¬names.Nodup := by
  constructor
  · rintro ⟨position, hrepeats⟩ h
    exact not_repeatsAt_of_nodup h position hrepeats
  · intro h
    rw [List.nodup_iff_getElem?_ne_getElem?] at h
    push Not at h
    obtain ⟨earlier, position, hlt, hbound, hsame⟩ := h
    have hthere : names[position]? = some names[position] := List.getElem?_eq_getElem hbound
    exact ⟨position, earlier, hlt, names[position], hsame.trans hthere, hthere⟩

/-- The first name that stands among different names in front of it is the first repeat. -/
theorem isFirstRepeat_append (h : before.Nodup) (hname : name ∈ before) :
    IsFirstRepeat (before ++ name :: after) before.length name := by
  have hthere : (before ++ name :: after)[before.length]? = some name := by simp
  obtain ⟨earlier, hlt, hearlier⟩ := List.getElem_of_mem hname
  refine ⟨hthere, ⟨earlier, hlt, name, ?_, hthere⟩, ?_⟩
  · rw [List.getElem?_append_left hlt, List.getElem?_eq_getElem hlt, hearlier]
  · -- Positions in front of it are positions of names that are all different.
    rintro position hposition ⟨other, hother, again, hagain, hat⟩
    rw [List.getElem?_append_left (Nat.lt_trans hother hposition)] at hagain
    rw [List.getElem?_append_left hposition] at hat
    exact not_repeatsAt_of_nodup h position ⟨other, hother, again, hagain, hat⟩

end Repeats

/-- The description of a class is the first line of its trimmed text, which has one unless it is
    empty. -/
theorem GroupClass.exists_description_line {c : GroupClass} {doc : String} (h : c.doc = some doc)
    (hne : Text.trim doc.toList ≠ []) :
    ∃ line lines, Text.splitLines (Text.trim doc.toList) = line :: lines ∧
      c.description = String.ofList line := by
  obtain ⟨line, lines, hsplit⟩ := List.exists_cons_of_ne_nil (Text.splitLines_ne_nil hne)
  refine ⟨line, lines, hsplit, ?_⟩
  rw [description, h]
  simp [hsplit]

namespace Registry

variable {classes : List GroupClass} {r : Registry} {f : Failure}

/-! ## Failures -/

/-- Classes that make no registry hold one whose name stands among the different names of the
    classes in front of it; the failure names it. -/
theorem exists_repeat_of_ofClasses_error (h : ofClasses classes = .error f) :
    ∃ before c after, classes = before ++ c :: after ∧ (before.map (·.name)).Nodup ∧
      c.name ∈ before.map (·.name) ∧ f = .duplicateGroup c.name := by
  obtain ⟨before, c, after, r', rfl, hbefore, htaken, hf⟩ := exists_taken_of_addClasses_error h
  refine ⟨before, c, after, rfl, (ofClasses_ok_iff before).mp ⟨r', hbefore⟩, ?_, hf⟩
  obtain ⟨g, hfind⟩ := Option.ne_none_iff_exists'.mp htaken
  obtain ⟨d, hd, rfl⟩ := exists_class_of_mem hbefore (mem_of_find? hfind)
  have hsame : (Value.text d.name).same (.text c.name) = true := same_of_find? hfind
  rw [Value.same_text_text, beq_iff_eq] at hsame
  exact List.mem_map.mpr ⟨d, hd, hsame⟩

theorem isFirstRepeat_of_ofClasses_error (h : ofClasses classes = .error f) :
    ∃ position name, IsFirstRepeat (classes.map (·.name)) position name ∧
      f = .duplicateGroup name := by
  obtain ⟨before, c, after, rfl, hnodup, hmem, hf⟩ := exists_repeat_of_ofClasses_error h
  refine ⟨(before.map (·.name)).length, c.name, ?_, hf⟩
  rw [List.map_append, List.map_cons]
  exact isFirstRepeat_append hnodup hmem

theorem ofClasses_error_iff (classes : List GroupClass) :
    (∃ f, ofClasses classes = .error f) ↔ ¬(classes.map (·.name)).Nodup := by
  rw [← ofClasses_ok_iff]
  cases ofClasses classes <;> simp

/-! ## Registries that are made -/

/-- A registry of classes says the names of the classes in their order. -/
theorem names_of_ofClasses (h : ofClasses classes = .ok r) :
    r.names = classes.map fun c => .text c.name := by
  rw [names, groups_of_ofClasses h, List.map_map]
  rfl

theorem quoted_of_ofClasses (h : ofClasses classes = .ok r) :
    r.quoted = "ConstantRegistry(" ++ String.intercalate ", " (classes.map (·.name)) ++ ")" := by
  have hnames : r.names.map Value.display = classes.map (·.name) := by
    simp [names_of_ofClasses h, Value.display]
  unfold quoted
  rw [hnames]

theorem size_of_ofClasses (h : ofClasses classes = .ok r) : r.size = classes.length := by
  rw [size, groups_of_ofClasses h, List.length_map]

/-- No two positions of a registry's classes hold classes of the same name. -/
theorem eq_of_name_eq (h : ofClasses classes = .ok r) {position other : Nat} {c d : GroupClass}
    (hc : classes[position]? = some c) (hd : classes[other]? = some d) (hname : d.name = c.name) :
    other = position := by
  have hnodup := (ofClasses_ok_iff classes).mp ⟨r, h⟩
  have hbound : other < (classes.map (·.name)).length := by
    rw [List.length_map]
    exact (List.getElem?_eq_some_iff.mp hd).1
  apply (List.getElem?_inj hbound hnodup).mp
  rw [List.getElem?_map, List.getElem?_map, hc, hd, Option.map_some, Option.map_some, hname]

/-! ## The outcome -/

/-- How putting classes together ends. -/
structure Assembly (classes : List GroupClass) : Prop where
  /-- It fails if and only if two positions carry the same name. -/
  fails_iff : (∃ f, ofClasses classes = .error f) ↔
    ∃ position, RepeatsAt (classes.map (·.name)) position
  /-- A failure names the class that repeats a name first, and is of no other kind. -/
  failure : ∀ f, ofClasses classes = .error f →
    ∃ position name, IsFirstRepeat (classes.map (·.name)) position name ∧
      f.category = .integrity ∧ f.hint = none ∧
      f.message = "Constant group " ++ (Value.text name).quoted ++ " is defined more than once."
  /-- A registry that is made goes by the names of the classes, in their order. -/
  names : ∀ r, ofClasses classes = .ok r →
    r.names = classes.map (fun c => .text c.name) ∧
      r.quoted = "ConstantRegistry(" ++ String.intercalate ", " (classes.map (·.name)) ++ ")" ∧
      r.size = classes.length
  /-- Each name gives the snapshot of its class, which is the only one of that name. -/
  snapshots : ∀ r, ofClasses classes = .ok r → ∀ (position : Nat) (c : GroupClass),
    classes[position]? = some c →
    r.group (.text c.name) = .ok (Group.ofClass c) ∧
      ∀ (other : Nat) (d : GroupClass), classes[other]? = some d → d.name = c.name →
        other = position
  /-- No text keeps a snapshot from being taken: there is a line to describe the class with, unless
      the text is empty. -/
  described : ∀ c ∈ classes, ∀ doc, c.doc = some doc → Text.trim doc.toList ≠ [] →
    ∃ line lines, Text.splitLines (Text.trim doc.toList) = line :: lines ∧
      (Group.ofClass c).description = .text (String.ofList line)

/-- Classes make a registry if and only if their names are different; then it holds their snapshots
    in their order.  Otherwise the first repeated name is refused, and nothing else ever is. -/
theorem assembly_exact (classes : List GroupClass) : Assembly classes where
  fails_iff := by rw [ofClasses_error_iff, exists_repeatsAt_iff]
  failure := by
    intro f h
    obtain ⟨position, name, hfirst, rfl⟩ := isFirstRepeat_of_ofClasses_error h
    exact ⟨position, name, hfirst, rfl, rfl, rfl⟩
  names := fun r h => ⟨names_of_ofClasses h, quoted_of_ofClasses h, size_of_ofClasses h⟩
  snapshots := by
    intro r h position c hc
    refine ⟨group_of_find? (find?_class h (List.mem_of_getElem? hc)), ?_⟩
    intro other d hd hname
    exact eq_of_name_eq h hc hd hname
  described := by
    intro c _ doc hdoc hne
    obtain ⟨line, lines, hsplit, hline⟩ := GroupClass.exists_description_line hdoc hne
    exact ⟨line, lines, hsplit, congrArg Value.text hline⟩

/-- The third class repeats the first name that is repeated, although the fourth one repeats the
    name that stands first. -/
example : ofClasses [.testConstants, .errorCode, .errorCode, .testConstants] =
    .error (.duplicateGroup "ErrorCode") := rfl

end Registry

end NamedConstants
