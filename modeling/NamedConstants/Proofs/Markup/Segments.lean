import NamedConstants.Markup.Render
import NamedConstants.Proofs.Markup.Pictographs
import NamedConstants.Proofs.Markup.Tokens

/-!
# What tokens show

What tokens show is a part of the text that they are written with (`flatten_segments_sublist`),
with codes replaced.  It is that part itself if no code in it names a pictograph
(`shownTokens_of_knowsNone`), and else colons are lost (`knowsNone_shownCodes_of_countP_le`).
-/

namespace NamedConstants.Markup

theorem flatten_consLine (c : Char) (lines : List (List Char)) :
    (Text.consLine c lines).flatten = c :: lines.flatten := by
  cases lines <;> rfl

/-- A character is shown, unless it is a backslash in front of a single opening bracket. -/
theorem segments_plain {c : Char} {rest : List Token}
    (h : c = '\\' → rest.head? ≠ some (.plain '[')) :
    segments (.plain c :: rest) = Text.consLine c (segments rest) := by
  rw [segments]
  intro rest' hr hc
  exact h hc (by simp [hr])

/-- A backslash in front of a single opening bracket is not shown. -/
theorem segments_slash_opening (rest : List Token) :
    segments (.plain '\\' :: .plain '[' :: rest) = segments (.plain '[' :: rest) := by
  rw [segments_plain (c := '[') fun h => absurd h (by decide), segments]

/-- There is a segment in front of the first tag. -/
theorem exists_segments_eq (toks : List Token) :
    ∃ first others, segments toks = first :: others := by
  have hcons : ∀ (c : Char) (lines : List (List Char)),
      ∃ first others, Text.consLine c lines = first :: others := by
    intro c lines
    cases lines with
    | nil => exact ⟨_, _, rfl⟩
    | cons line lines => exact ⟨_, _, rfl⟩
  fun_cases segments toks with
  | case1 => exact ⟨_, _, rfl⟩
  | case2 => exact hcons _ _
  | case3 => exact hcons _ _
  | case4 => exact ⟨_, _, rfl⟩

/-- Inert text is a part of the segment in front of which it stands. -/
theorem segments_map_plain_append {text : List Char} (h : IsInert text) {toks : List Token}
    {first : List Char} {others : List (List Char)} (ht : segments toks = first :: others) :
    segments (text.map .plain ++ toks) = (text ++ first) :: others := by
  induction text with
  | nil => exact ht
  | cons c text ih =>
      obtain ⟨hc, htext⟩ := List.forall_mem_cons.mp h
      rw [List.map_cons, List.cons_append, segments_plain fun hslash => absurd hslash hc.2,
        ih htext]
      rfl

/-- Of a shielded tag its own backslashes are shown and the tag itself. -/
theorem flatten_segments_shielded (slashes : Nat) (body : List Char) (rest : List Token) :
    (segments (.tag (2 * slashes + 1) body :: rest)).flatten =
      (Token.tag slashes body).source ++ (segments rest).flatten := by
  have hodd : (2 * slashes + 1) % 2 = 1 := by omega
  have hhalf : (2 * slashes + 1) / 2 = slashes := by omega
  rw [segments, if_pos hodd, hhalf]
  simp [Token.source]

/-- What is shown of tokens is a part of what they are written with. -/
theorem flatten_segments_sublist (toks : List Token) :
    (segments toks).flatten.Sublist (toks.flatMap Token.source) := by
  fun_induction segments toks with
  | case1 => exact List.Sublist.refl _
  | case2 rest ih =>
      rw [flatten_consLine]
      exact (ih.cons_cons '[').cons '\\'
  | case3 c rest _ ih =>
      rw [flatten_consLine]
      exact ih.cons_cons c
  | case4 slashes body rest ih =>
      have hslashes : (List.replicate (slashes / 2) '\\').Sublist (List.replicate slashes '\\') :=
        (List.replicate_sublist_replicate _).mpr (Nat.div_le_self slashes 2)
      have hbody : (if slashes % 2 = 1 then '[' :: body ++ [']'] else []).Sublist
          ('[' :: body ++ [']']) := by
        split
        · exact List.Sublist.refl _
        · exact List.nil_sublist _
      rw [List.flatten_cons, List.flatten_cons, List.flatten_cons, List.flatMap_cons, Token.source,
        List.nil_append, List.append_assoc]
      simpa using (hslashes.append hbody).append ih

/-! ## Codes -/

/-- The codes in what tokens show, by what stands between their colons. -/
def shownCodes (toks : List Token) : List (List Char) :=
  (segments toks).flatMap codes

section Codes

variable (p : Pictographs)

theorem shownTokens_of_segments_eq {toks : List Token} {first : List Char}
    {others : List (List Char)} (h : segments toks = first :: others) :
    shownTokens p toks = p.replace first ++ others.flatMap p.replace := by
  rw [shownTokens, h, List.flatMap_cons]

/-- Text that opens no code is shown as it is. -/
theorem shownTokens_map_plain_append {text : List Char} (h : IsInert text)
    (hcode : OpensNoCode text) (toks : List Token) :
    shownTokens p (text.map .plain ++ toks) = text ++ shownTokens p toks := by
  obtain ⟨first, others, ht⟩ := exists_segments_eq toks
  rw [shownTokens_of_segments_eq p (segments_map_plain_append h ht), p.replace_append hcode,
    List.append_assoc, ← shownTokens_of_segments_eq p ht]

/-- In front of a tag a text without codes is shown as it is. -/
theorem shownTokens_map_plain_tag {text : List Char} (h : IsInert text) (hcodes : codes text = [])
    (body : List Char) (rest : List Token) :
    shownTokens p (text.map .plain ++ .tag 0 body :: rest) = text ++ shownTokens p rest := by
  have hnone : p.KnowsNone (codes text) := by
    rw [hcodes]
    exact List.forall_mem_nil _
  have htag : segments (.tag 0 body :: rest) = [] :: [] :: [] :: segments rest := rfl
  rw [shownTokens_of_segments_eq p (segments_map_plain_append h htag), List.append_nil,
    p.replace_of_knowsNone hnone]
  rfl

/-- All that tokens show has a property that the characters outside their codes have if and only
    if the pictographs have it that are put in. -/
theorem forall_mem_shownTokens_iff {P : Char → Prop} {toks : List Token}
    (h : ∀ c ∈ (segments toks).flatten, P c) :
    (∀ c ∈ shownTokens p toks, P c) ↔
      ∀ name ∈ shownCodes toks, ∀ drawn, p.find? name = some drawn → ∀ c ∈ drawn, P c := by
  rw [List.forall_mem_flatten] at h
  rw [shownTokens, List.forall_mem_flatMap, shownCodes, List.forall_mem_flatMap]
  exact forall₂_congr fun segment hsegment => p.forall_mem_replace_iff (h segment hsegment)

/-- A character that tokens show is one that they are written with or can be drawn. -/
theorem mem_of_mem_shownTokens {toks : List Token} {c : Char} (h : c ∈ shownTokens p toks) :
    c ∈ (segments toks).flatten ∨ isDrawn c = true := by
  obtain ⟨segment, hsegment, hc⟩ := List.mem_flatMap.mp h
  rcases p.mem_of_mem_replace hc with hc | hc
  · exact Or.inl (List.mem_flatten.mpr ⟨segment, hsegment, hc⟩)
  · exact Or.inr hc

theorem shownTokens_of_knowsNone {toks : List Token} (h : p.KnowsNone (shownCodes toks)) :
    shownTokens p toks = (segments toks).flatten := by
  have hsegments : ∀ segment ∈ segments toks, p.replace segment = id segment := fun _ hsegment =>
    p.replace_of_knowsNone fun name hname => h name (List.mem_flatMap.mpr ⟨_, hsegment, hname⟩)
  rw [shownTokens, List.flatMap_congr hsegments, List.flatMap_id]

section Counted

variable {q : Char → Bool} (hcolon : q ':' = true) (hdrawn : ∀ c, isDrawn c = true → q c = false)
include hcolon hdrawn

theorem countP_flatMap_replace_le (ss : List (List Char)) :
    (ss.flatMap p.replace).countP q ≤ ss.flatten.countP q := by
  induction ss with
  | nil => exact Nat.le_refl _
  | cons s ss ih =>
      rw [List.flatMap_cons, List.flatten_cons, List.countP_append, List.countP_append]
      exact Nat.add_le_add (p.countP_replace_le hcolon hdrawn s) ih

theorem countP_shownTokens_le (toks : List Token) :
    (shownTokens p toks).countP q ≤ (segments toks).flatten.countP q :=
  countP_flatMap_replace_le p hcolon hdrawn (segments toks)

/-- Where tokens lose no colon, no code in them names a pictograph. -/
theorem knowsNone_shownCodes_of_countP_le {toks : List Token}
    (h : (segments toks).flatten.countP q ≤ (shownTokens p toks).countP q) :
    p.KnowsNone (shownCodes toks) := by
  rw [shownTokens] at h
  rw [Pictographs.KnowsNone, shownCodes, List.forall_mem_flatMap]
  generalize segments toks = ss at h ⊢
  induction ss with
  | nil => exact List.forall_mem_nil _
  | cons s ss ih =>
      rw [List.flatMap_cons, List.flatten_cons, List.countP_append, List.countP_append] at h
      have hfirst := p.countP_replace_le hcolon hdrawn s
      have hrest := countP_flatMap_replace_le p hcolon hdrawn ss
      refine List.forall_mem_cons.mpr ⟨?_, ih (by omega)⟩
      exact p.knowsNone_of_countP_le hcolon hdrawn (by omega)

end Counted

end Codes

end NamedConstants.Markup
