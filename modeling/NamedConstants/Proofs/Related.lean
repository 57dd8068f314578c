import Mathlib.Data.List.Forall2

/-!
# Lists related item by item

What passes from one list to the members of another one whose items are related to its own in
order.
-/

namespace NamedConstants

variable {α β : Type} {R : α → β → Prop} {items : List α} {images : List β}

theorem exists_forall₂ (h : ∀ a ∈ items, ∃ b, R a b) : ∃ images, List.Forall₂ R items images := by
  induction items with
  | nil => exact ⟨[], .nil⟩
  | cons a items ih =>
      obtain ⟨⟨b, hb⟩, hrest⟩ := List.forall_mem_cons.mp h
      obtain ⟨images, himages⟩ := ih hrest
      exact ⟨b :: images, .cons hb himages⟩

theorem forall_mem_of_forall₂ {P : β → Prop} (h : List.Forall₂ R items images)
    (hp : ∀ a ∈ items, ∀ b, R a b → P b) : ∀ b ∈ images, P b := by
  induction h with
  | nil => simp
  | cons hab hrest ih =>
      obtain ⟨hfirst, hothers⟩ := List.forall_mem_cons.mp hp
      exact List.forall_mem_cons.mpr ⟨hfirst _ hab, ih hothers⟩

theorem exists_mem_of_forall₂ (h : List.Forall₂ R items images) {a : α} (ha : a ∈ items) :
    ∃ b ∈ images, R a b := by
  induction h with
  | nil => cases ha
  | @cons a' b items images hab _ ih =>
      rcases List.mem_cons.mp ha with rfl | ha
      · exact ⟨b, List.mem_cons_self .., hab⟩
      · obtain ⟨b', hb', hab'⟩ := ih ha
        exact ⟨b', List.mem_cons_of_mem _ hb', hab'⟩

end NamedConstants
