import NamedConstants.Proofs.Markup.StraySlashes

/-!
# Escaping and rendering

Escaped text is shown as the text itself if and only if no backslash of it stands in front of an
opening bracket that opens no tag, none stands alone at its end, and no code in it names a
pictograph (`shown_eq_self_iff`).  Of the tags in escaped text none acts on the styles, whatever
text of the program's own stands in front of it (`liveTags_styled_escape`).
-/

namespace NamedConstants.Markup

/-- The last character of a text is a backslash, and the one in front of it is none. -/
def EndsInOneSlash (s : List Char) : Prop :=
  ∃ before, s = before ++ ['\\'] ∧ before.getLast? ≠ some '\\'

theorem not_endsInOneSlash_of_not_mem {s : List Char} (h : '\\' ∉ s) : ¬EndsInOneSlash s := by
  rintro ⟨before, rfl, -⟩
  exact h (by simp)

theorem endsInLoneSlash_iff (s : List Char) : endsInLoneSlash s = true ↔ EndsInOneSlash s := by
  rcases List.eq_nil_or_concat s with rfl | ⟨before, c, rfl⟩
  · simp [endsInLoneSlash, EndsInOneSlash]
  · rw [List.concat_eq_append]
    by_cases hc : c = '\\'
    · subst hc
      have hinner : EndsInOneSlash (before ++ ['\\']) ↔ before.getLast? ≠ some '\\' := by
        constructor
        · rintro ⟨before', hsame, hlast⟩
          rwa [List.append_inj_left' hsame rfl]
        · exact fun hlast => ⟨before, rfl, hlast⟩
      rw [hinner]
      rcases List.eq_nil_or_concat before with rfl | ⟨first, d, rfl⟩
      · simp [endsInLoneSlash]
      · rw [List.concat_eq_append, endsInLoneSlash_concat_slash, List.getLast?_concat]
        simp
    · rw [endsInLoneSlash_concat before hc]
      refine iff_of_false Bool.false_ne_true ?_
      rintro ⟨before', hsame, -⟩
      exact hc (List.cons.inj (List.append_inj_right' hsame rfl)).1

instance (s : List Char) : Decidable (EndsInOneSlash s) :=
  decidable_of_iff _ (endsInLoneSlash_iff s)

/-- Two backslashes at the end of a text are kept. -/
theorem dropStraySlashes_append_slashes (s : List Char) :
    ∃ kept, dropStraySlashes (s ++ ['\\', '\\']) = kept ++ ['\\', '\\'] := by
  induction s with
  | nil => exact ⟨[], rfl⟩
  | cons c s ih =>
      obtain ⟨kept, hkept⟩ := ih
      rw [List.cons_append, dropStraySlashes, hkept]
      split
      · exact ⟨kept, rfl⟩
      · exact ⟨c :: kept, rfl⟩

/-- A text keeps its backslashes through escaping and rendering if and only if none stands in front
    of an opening bracket that opens no tag, and none alone at the end. -/
theorem dropStraySlashes_closeSlash_eq_self_iff (s : List Char) :
    dropStraySlashes (closeSlash s) = s ↔ SlashesShown s ∧ ¬EndsInOneSlash s := by
  by_cases hlone : EndsInOneSlash s
  · refine iff_of_false ?_ fun h => h.2 hlone
    intro hsame
    have hclose : closeSlash s = s ++ ['\\'] := by
      rw [closeSlash, if_pos ((endsInLoneSlash_iff s).mpr hlone)]
    obtain ⟨before, rfl, hlast⟩ := hlone
    obtain ⟨kept, hkept⟩ := dropStraySlashes_append_slashes before
    -- What is shown ends in two backslashes, but the text does not.
    rw [hclose, List.append_assoc, List.singleton_append, hkept] at hsame
    have hdouble : kept ++ ['\\'] ++ ['\\'] = before ++ ['\\'] := by
      rw [List.append_assoc]
      exact hsame
    have hbefore : kept ++ ['\\'] = before := List.append_cancel_right hdouble
    rw [← hbefore, List.getLast?_concat] at hlast
    exact hlast rfl
  · have hclose : closeSlash s = s := by
      rw [closeSlash, if_neg (mt (endsInLoneSlash_iff s).mp hlone)]
    rw [hclose, dropStraySlashes_eq_self_iff, and_iff_left hlone]

/-- Outside its codes, escaped text has the colons of the text. -/
theorem countP_colon_closeSlash (s : List Char) :
    (dropStraySlashes (closeSlash s)).countP (· == ':') ≤ s.countP (· == ':') := by
  refine Nat.le_trans (countP_dropStraySlashes_le _ _) ?_
  unfold closeSlash
  split
  · rw [List.countP_append]
    exact Nat.le_refl _
  · exact Nat.le_refl _

/-- The exact texts that come back from escaping and rendering as they are. -/
theorem shown_eq_self_iff (p : Pictographs) (s : List Char) :
    shown p s = s ↔
      SlashesShown s ∧ ¬EndsInOneSlash s ∧ p.KnowsNone (escapedCodes s) := by
  have hdrawn : ∀ c, isDrawn c = true → (c == ':') = false := by
    intro c hc
    refine beq_eq_false_iff_ne.mpr ?_
    rintro rfl
    exact absurd hc (by decide)
  rw [← and_assoc, ← dropStraySlashes_closeSlash_eq_self_iff, ← flatten_segments_escape, shown,
    escapedCodes]
  constructor
  · intro hsame
    -- A replaced code would have lost two colons, which nothing else could make up for.
    have hcolons := countP_colon_closeSlash s
    rw [← flatten_segments_escape] at hcolons
    have hkept : (segments (tokens (escape s))).flatten.countP (· == ':') ≤
        (shownTokens p (tokens (escape s))).countP (· == ':') := by
      rwa [hsame]
    have hnone := knowsNone_shownCodes_of_countP_le p (q := (· == ':')) rfl hdrawn hkept
    exact ⟨(shownTokens_of_knowsNone p hnone).symm.trans hsame, hnone⟩
  · rintro ⟨hsame, hnone⟩
    rw [shownTokens_of_knowsNone p hnone, hsame]

/-! ## Tags that act -/

/-- The tags of a text that open or close a style, in order. -/
def liveTags (s : List Char) : List (List Char) :=
  (tokens s).filterMap Token.live?

/-- Escaped text opens and closes no style. -/
theorem liveTags_escape (s : List Char) : liveTags (escape s) = [] := by
  rw [liveTags, List.filterMap_eq_nil_iff]
  exact live?_of_mem_tokens_escape s

theorem liveTags_append_of_inert {p : List Char} (h : IsInert p) (s : List Char) :
    liveTags (p ++ s) = liveTags s := by
  have hplain : (p.map Token.plain).filterMap Token.live? = [] := by
    rw [List.filterMap_map, List.filterMap_eq_nil_iff]
    exact fun _ _ => rfl
  rw [liveTags, tokens_append_of_inert h, List.filterMap_append, hplain]
  rfl

theorem liveTags_tag {body : List Char} (h : IsTagBody body) (s : List Char) :
    liveTags ((Token.tag 0 body).source ++ s) = body :: liveTags s := by
  rw [liveTags, tokens_tag 0 h]
  rfl

/-- Behind text in a style, the tags of that style are the only ones that act. -/
theorem liveTags_styled_escape {lead style text gap : List Char} (hl : IsWords lead)
    (hs : IsStyle style) (ht : IsWords text) (hg : IsGap gap) (s : List Char) :
    liveTags (lead ++ styled style text ++ gap ++ escape s) = [style, '/' :: style] := by
  rw [List.append_assoc, List.append_assoc, liveTags_append_of_inert hl.inert, styled,
    List.append_assoc, List.append_assoc, liveTags_tag hs.body, liveTags_append_of_inert ht.inert,
    liveTags_tag hs.closing, liveTags_append_of_inert hg.inert, liveTags_escape]

end NamedConstants.Markup
