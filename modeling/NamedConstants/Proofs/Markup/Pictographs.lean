import Mathlib.Data.List.Basic
import NamedConstants.Markup.Pictograph

/-!
# Codes in texts

A code is written with two colons and a pictograph with none.  So a text is shown as it is if and
only if none of its codes names a pictograph (`replace_eq_self_iff`); any other text loses colons
(`knowsNone_of_countP_le`).  What is put in for codes can be drawn, and of other characters the
shown text has only its own (`mem_of_mem_replace`).
-/

namespace NamedConstants.Markup

/-- What stands behind a colon that may open a code, with that colon. -/
def waiting : Option (List Char) → List Char
  | none => []
  | some name => ':' :: name

/-- Characters outside all codes are written as they are. -/
theorem flatMap_map_plain {f : Sign → List Char} (hf : ∀ c, f (.plain c) = [c]) (s : List Char) :
    (s.map Sign.plain).flatMap f = s := by
  induction s with
  | nil => rfl
  | cons c s ih => rw [List.map_cons, List.flatMap_cons, ih, hf, List.singleton_append]

theorem flatMap_source_signsBehind (pending : Option (List Char)) (s : List Char) :
    (signsBehind pending s).flatMap Sign.source = waiting pending ++ s := by
  fun_induction signsBehind pending s with
  | case1 => rfl
  | case2 name => rw [flatMap_map_plain fun _ => rfl, waiting, List.append_nil]
  | case3 rest ih => rw [ih, waiting, waiting, List.nil_append, List.singleton_append]
  | case4 c rest hc ih => rw [List.flatMap_cons, ih, Sign.source, waiting]; rfl
  | case5 name rest ih =>
      rw [List.flatMap_cons, ih, Sign.source, waiting, waiting]
      simp
  | case6 name c rest hc hb ih =>
      rw [List.flatMap_append, flatMap_map_plain fun _ => rfl, List.flatMap_cons, ih, Sign.source,
        waiting, waiting]
      rfl
  | case7 name c rest hc hb ih =>
      rw [ih, waiting, waiting]
      simp

/-- Writing the signs of a text back gives the text. -/
theorem flatMap_source_signs (s : List Char) : (signs s).flatMap Sign.source = s := by
  rw [signs, flatMap_source_signsBehind, waiting, List.nil_append]

theorem mem_codes_iff {name s : List Char} : name ∈ codes s ↔ Sign.code name ∈ signs s := by
  rw [codes, List.mem_filterMap]
  constructor
  · rintro ⟨sign, hsign, hcode⟩
    cases sign with
    | plain c => cases hcode
    | code other =>
        obtain rfl := Option.some.inj hcode
        exact hsign
  · exact fun h => ⟨_, h, rfl⟩

/-! ## Text that opens no code -/

/-- A text takes part in no code, whatever stands behind it. -/
def OpensNoCode (s : List Char) : Prop :=
  ∀ rest, signs (s ++ rest) = s.map .plain ++ signs rest

theorem OpensNoCode.append {s t : List Char} (hs : OpensNoCode s) (ht : OpensNoCode t) :
    OpensNoCode (s ++ t) := by
  intro rest
  rw [List.append_assoc, hs, ht, List.map_append, List.append_assoc]

theorem opensNoCode_of_not_mem {s : List Char} (h : ':' ∉ s) : OpensNoCode s := by
  intro rest
  induction s with
  | nil => rfl
  | cons c s ih =>
      simp only [List.mem_cons, not_or] at h
      rw [List.map_cons, List.cons_append, List.cons_append, ← ih h.2, signs, signsBehind,
        if_neg (Ne.symm h.1)]
      rfl

/-- A colon in front of a space opens no code. -/
theorem opensNoCode_colonSpace : OpensNoCode [':', ' '] :=
  fun _ => rfl

/-! ## Replacing codes -/

theorem isDrawn_iff {c : Char} :
    isDrawn c = true ↔
      Text.isControl c = false ∧ Text.isLineEnd c = false ∧ isMark c = false := by
  simp [isDrawn, and_assoc]

theorem isMark_of_isDrawn {c : Char} (h : isDrawn c = true) : isMark c = false :=
  (isDrawn_iff.mp h).2.2

namespace Pictographs

/-- None of several codes names a pictograph. -/
def KnowsNone (p : Pictographs) (names : List (List Char)) : Prop :=
  ∀ name ∈ names, p.find? name = none

instance (p : Pictographs) (names : List (List Char)) : Decidable (p.KnowsNone names) :=
  List.decidableBAll (fun name => p.find? name = none) names

variable (p : Pictographs)

/-- What a code is replaced by can be drawn. -/
theorem isDrawn_of_find? {name shown : List Char} (h : p.find? name = some shown) :
    ∀ c ∈ shown, isDrawn c = true := by
  have hnamed : ∀ {name shown}, p.named? name = some shown → ∀ c ∈ shown, isDrawn c = true := by
    intro name shown h
    obtain ⟨e, he, rfl⟩ := Option.map_eq_some_iff.mp h
    have hall := List.all_eq_true.mp p.drawn e (List.mem_of_find?_eq_some he)
    exact List.all_eq_true.mp hall
  have hselectors : ∀ form ∈ formSelectors, isDrawn form.2 = true := by decide
  unfold find? at h
  split at h
  · rename_i ending selector hform
    obtain ⟨front, hfront, rfl⟩ := Option.map_eq_some_iff.mp h
    rw [List.forall_mem_append, List.forall_mem_singleton]
    exact ⟨hnamed hfront, hselectors _ (List.mem_of_find?_eq_some hform)⟩
  · exact hnamed h

theorem shown_of_unknown {name : List Char} (h : p.find? name = none) :
    p.shown (.code name) = (Sign.code name).source := by
  rw [shown, h, Option.getD_none]

theorem shown_of_known {name drawn : List Char} (h : p.find? name = some drawn) :
    p.shown (.code name) = drawn := by
  rw [shown, h, Option.getD_some]

/-- Text that takes part in no code is shown as it is. -/
theorem replace_append {s : List Char} (h : OpensNoCode s) (rest : List Char) :
    p.replace (s ++ rest) = s ++ p.replace rest := by
  rw [replace, h, List.flatMap_append, flatMap_map_plain fun _ => rfl, replace]

theorem replace_nil : p.replace [] = [] := rfl

/-- A text whose codes name no pictographs is shown as it is. -/
theorem replace_of_knowsNone {s : List Char} (h : p.KnowsNone (codes s)) : p.replace s = s := by
  have hshown : ∀ sign ∈ signs s, p.shown sign = sign.source := by
    intro sign hsign
    cases sign with
    | plain c => rfl
    | code name => exact p.shown_of_unknown (h name (mem_codes_iff.mpr hsign))
  rw [replace, List.flatMap_congr hshown, flatMap_source_signs]

theorem replace_of_not_mem {s : List Char} (h : ':' ∉ s) : p.replace s = s := by
  have hreplace := p.replace_append (opensNoCode_of_not_mem h) []
  rwa [replace_nil, List.append_nil] at hreplace

/-- All that is shown of a text has a property that its own characters have if and only if the
    pictographs have it that are put in. -/
theorem forall_mem_replace_iff {P : Char → Prop} {s : List Char} (hs : ∀ c ∈ s, P c) :
    (∀ c ∈ p.replace s, P c) ↔
      ∀ name ∈ codes s, ∀ drawn, p.find? name = some drawn → ∀ c ∈ drawn, P c := by
  have hsource : ∀ sign ∈ signs s, ∀ c ∈ sign.source, P c := by
    intro sign hsign c hc
    apply hs
    rw [← flatMap_source_signs s]
    exact List.mem_flatMap.mpr ⟨sign, hsign, hc⟩
  rw [replace, List.forall_mem_flatMap]
  constructor
  · intro h name hname drawn hdrawn
    rw [← p.shown_of_known hdrawn]
    exact h _ (mem_codes_iff.mp hname)
  · intro h sign hsign
    cases sign with
    | plain c => exact hsource _ hsign
    | code name =>
        cases hfind : p.find? name with
        | none =>
            rw [p.shown_of_unknown hfind]
            exact hsource _ hsign
        | some drawn =>
            rw [p.shown_of_known hfind]
            exact h name (mem_codes_iff.mpr hsign) drawn hfind

/-- A character that is shown of a text is one of its own or can be drawn. -/
theorem mem_of_mem_replace {s : List Char} {c : Char} (h : c ∈ p.replace s) :
    c ∈ s ∨ isDrawn c = true := by
  have hall := (p.forall_mem_replace_iff (P := fun c => c ∈ s ∨ isDrawn c = true)
    fun _ => Or.inl).mpr fun _ _ _ hdrawn d hd => Or.inr (p.isDrawn_of_find? hdrawn d hd)
  exact hall c h

/-! ### Characters that pictographs have none of -/

section Counted

variable {q : Char → Bool} (hcolon : q ':' = true) (hdrawn : ∀ c, isDrawn c = true → q c = false)
include hcolon hdrawn

/-- A code that names a pictograph is shown with none of its colons. -/
theorem countP_shown_of_known {name drawn : List Char} (h : p.find? name = some drawn) :
    (p.shown (.code name)).countP q < (Sign.code name).source.countP q := by
  have hzero : drawn.countP q = 0 := by
    rw [List.countP_eq_zero]
    intro c hc
    simp [hdrawn c (p.isDrawn_of_find? h c hc)]
  rw [p.shown_of_known h, hzero, Sign.source, List.cons_append, List.countP_cons_of_pos hcolon]
  exact Nat.succ_pos _

theorem countP_shown_le (sign : Sign) : (p.shown sign).countP q ≤ sign.source.countP q := by
  cases sign with
  | plain c => exact Nat.le_refl _
  | code name =>
      cases h : p.find? name with
      | none => exact Nat.le_of_eq (by rw [p.shown_of_unknown h])
      | some drawn => exact Nat.le_of_lt (p.countP_shown_of_known hcolon hdrawn h)

theorem countP_flatMap_shown_le (l : List Sign) :
    (l.flatMap p.shown).countP q ≤ (l.flatMap Sign.source).countP q := by
  induction l with
  | nil => exact Nat.le_refl _
  | cons sign l ih =>
      rw [List.flatMap_cons, List.flatMap_cons, List.countP_append, List.countP_append]
      exact Nat.add_le_add (p.countP_shown_le hcolon hdrawn sign) ih

/-- Replacing codes adds no colons. -/
theorem countP_replace_le (s : List Char) : (p.replace s).countP q ≤ s.countP q := by
  have hle := p.countP_flatMap_shown_le hcolon hdrawn (signs s)
  rwa [flatMap_source_signs] at hle

/-- Where no colon is lost, no code names a pictograph. -/
theorem knowsNone_of_countP_le {s : List Char} (h : s.countP q ≤ (p.replace s).countP q) :
    p.KnowsNone (codes s) := by
  have key : ∀ l : List Sign, (l.flatMap Sign.source).countP q ≤ (l.flatMap p.shown).countP q →
      ∀ name, Sign.code name ∈ l → p.find? name = none := by
    intro l
    induction l with
    | nil => simp
    | cons sign l ih =>
        intro hl name hname
        rw [List.flatMap_cons, List.flatMap_cons, List.countP_append, List.countP_append] at hl
        have hfirst := p.countP_shown_le hcolon hdrawn sign
        have hrest := p.countP_flatMap_shown_le hcolon hdrawn l
        rcases List.mem_cons.mp hname with rfl | hname
        · cases hfind : p.find? name with
          | none => rfl
          | some drawn =>
              have hlost := p.countP_shown_of_known hcolon hdrawn hfind
              omega
        · exact ih (by omega) name hname
  intro name hname
  refine key (signs s) ?_ name (mem_codes_iff.mp hname)
  rwa [flatMap_source_signs]

end Counted

/-- A text is shown as it is if and only if none of its codes names a pictograph. -/
theorem replace_eq_self_iff (s : List Char) : p.replace s = s ↔ p.KnowsNone (codes s) := by
  refine ⟨fun h => ?_, p.replace_of_knowsNone⟩
  exact p.knowsNone_of_countP_le (q := isMark) rfl (fun _ => isMark_of_isDrawn)
    (Nat.le_of_eq (by rw [h]))

end Pictographs

end NamedConstants.Markup
