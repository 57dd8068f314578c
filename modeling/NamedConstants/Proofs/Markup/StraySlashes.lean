import NamedConstants.Proofs.Markup.Rendering
import NamedConstants.Proofs.Text.Quoted

/-!
# Backslashes that are not shown

Escaped text keeps its backslashes if and only if every opening bracket right behind one of them
opens a tag (`dropStraySlashes_eq_self_iff`).  Quoting a text doubles its backslashes, but changes
nothing about that (`slashesShown_quote`).
-/

namespace NamedConstants.Markup

/-- Every opening bracket right behind a backslash opens a tag. -/
def SlashesShown (s : List Char) : Prop :=
  ∀ before rest, s = before ++ '\\' :: '[' :: rest → (tagAt? ('[' :: rest)).isSome = true

theorem slashesShown_nil : SlashesShown [] := by
  intro before rest h
  cases before <;> cases h

theorem slashesShown_cons {c : Char} {s : List Char} :
    SlashesShown (c :: s) ↔ (c = '\\' → startsStray s = false) ∧ SlashesShown s := by
  constructor
  · intro h
    refine ⟨?_, fun before rest hs => h (c :: before) rest (by rw [hs]; rfl)⟩
    rintro rfl
    cases s with
    | nil => rfl
    | cons d s =>
        by_cases hd : d = '['
        · subst hd
          have htag := h [] s rfl
          rw [startsStray, Option.isNone_eq_false_iff.mpr htag, Bool.and_false]
        · simp [startsStray, hd]
  · rintro ⟨hc, hs⟩ before rest h
    cases before with
    | nil =>
        obtain ⟨rfl, rfl⟩ := List.cons.inj h
        have hstray := hc rfl
        simpa [startsStray] using hstray
    | cons b before => exact hs before rest (List.cons.inj h).2

/-- Text without backslashes changes nothing about those behind it. -/
theorem slashesShown_append_of_not_mem {w : List Char} (h : '\\' ∉ w) (s : List Char) :
    SlashesShown (w ++ s) ↔ SlashesShown s := by
  induction w with
  | nil => exact Iff.rfl
  | cons c w ih =>
      simp only [List.mem_cons, not_or] at h
      rw [List.cons_append, slashesShown_cons, ih h.2]
      exact ⟨And.right, fun hs => ⟨fun hc => absurd hc.symm h.1, hs⟩⟩

theorem slashesShown_of_not_mem {s : List Char} (h : '\\' ∉ s) : SlashesShown s := by
  have hshown := (slashesShown_append_of_not_mem h []).mpr slashesShown_nil
  rwa [List.append_nil] at hshown

theorem dropStraySlashes_length_le (s : List Char) : (dropStraySlashes s).length ≤ s.length := by
  induction s with
  | nil => exact Nat.le_refl _
  | cons c s ih =>
      rw [dropStraySlashes]
      split
      · exact Nat.le_succ_of_le ih
      · exact Nat.succ_le_succ ih

theorem mem_of_mem_dropStraySlashes {s : List Char} {c : Char} (h : c ∈ dropStraySlashes s) :
    c ∈ s := by
  induction s with
  | nil => cases h
  | cons d s ih =>
      rw [dropStraySlashes] at h
      split at h
      · exact List.mem_cons_of_mem _ (ih h)
      · rcases List.mem_cons.mp h with rfl | h
        · exact List.mem_cons_self ..
        · exact List.mem_cons_of_mem _ (ih h)

/-- A text keeps all its backslashes if and only if none stands in front of an opening bracket
    that opens no tag. -/
theorem dropStraySlashes_eq_self_iff (s : List Char) : dropStraySlashes s = s ↔ SlashesShown s := by
  induction s with
  | nil => exact iff_of_true rfl slashesShown_nil
  | cons c s ih =>
      rw [slashesShown_cons, dropStraySlashes]
      split
      · rename_i hc
        constructor
        · intro h
          have hl := dropStraySlashes_length_le s
          rw [h, List.length_cons] at hl
          omega
        · rintro ⟨hstray, -⟩
          rw [hstray hc.1] at hc
          cases hc.2
      · rename_i hc
        have hstray : c = '\\' → startsStray s = false := by
          intro h
          exact Bool.eq_false_iff.mpr fun hs => hc ⟨h, hs⟩
        rw [List.cons_inj_right, ih]
        exact ⟨fun hs => ⟨hstray, hs⟩, And.right⟩

/-- The codes in what the escaped form of a text shows, by what stands between their colons. -/
def escapedCodes (s : List Char) : List (List Char) :=
  shownCodes (tokens (escape s))

/-- A character outside the codes of an escaped text is one of the text's own, or the backslash
    that escaping puts behind a last one. -/
theorem mem_of_mem_segments_escape {s : List Char} {c : Char}
    (h : c ∈ (segments (tokens (escape s))).flatten) : c ∈ s ∨ c = '\\' := by
  rw [flatten_segments_escape] at h
  have hmem := mem_of_mem_dropStraySlashes h
  unfold closeSlash at hmem
  split at hmem
  · simpa using hmem
  · exact Or.inl hmem

/-- A character that is shown of a text is one of its own, a backslash, or one that can be
    drawn. -/
theorem mem_of_mem_shown {p : Pictographs} {s : List Char} {c : Char} (h : c ∈ shown p s) :
    c ∈ s ∨ c = '\\' ∨ isDrawn c = true := by
  rcases mem_of_mem_shownTokens p h with hc | hc
  · exact (mem_of_mem_segments_escape hc).imp_right Or.inl
  · exact Or.inr (Or.inr hc)

theorem countP_dropStraySlashes_le (q : Char → Bool) (s : List Char) :
    (dropStraySlashes s).countP q ≤ s.countP q := by
  induction s with
  | nil => exact Nat.le_refl _
  | cons c s ih =>
      rw [dropStraySlashes]
      split
      · exact Nat.le_trans ih ((List.sublist_cons_self c s).countP_le)
      · rw [List.countP_cons, List.countP_cons]
        exact Nat.add_le_add_right ih _

/-- Escaping adds at most one mark to those that are shown. -/
theorem countP_isMark_shown_le (p : Pictographs) (s : List Char) :
    (shown p s).countP isMark ≤ s.countP isMark + 1 := by
  have hshown := countP_shownTokens_le p (q := isMark) rfl
    (fun _ => isMark_of_isDrawn) (tokens (escape s))
  have hdropped := countP_dropStraySlashes_le isMark (closeSlash s)
  have hclose : (closeSlash s).countP isMark ≤ s.countP isMark + 1 := by
    unfold closeSlash
    split
    · rw [List.countP_append]
      exact Nat.le_refl _
    · exact Nat.le_succ _
  rw [flatten_segments_escape] at hshown
  exact Nat.le_trans hshown (Nat.le_trans hdropped hclose)

instance (s : List Char) : Decidable (SlashesShown s) :=
  decidable_of_iff _ (dropStraySlashes_eq_self_iff s)

/-! ## Quoted text -/

section Quoted

open Text (quoteChar IsBare IsBareText isPrintable)

theorem isPrintable_of_opensTag {c : Char} (h : opensTag c = true) : isPrintable c = true := by
  simp only [opensTag, Bool.or_eq_true, Bool.and_eq_true, decide_eq_true_eq, beq_iff_eq] at h
  rcases h with ((⟨hlow, hhigh⟩ | rfl) | rfl) | rfl
  · have ha : 'a'.toNat = 97 := rfl
    have hz : 'z'.toNat = 122 := rfl
    rw [Text.isPrintable_ascii (by omega), decide_eq_true_eq]
    omega
  all_goals decide

/-- Whether a character is a square bracket. -/
def isBracket (c : Char) : Bool :=
  c == '[' || c == ']'

theorem filter_isBracket_of_bare {w : List Char} (h : IsBareText w) :
    w.filter isBracket = [] := by
  rw [List.filter_eq_nil_iff]
  intro c hc
  obtain ⟨-, -, ho, hcl⟩ := h c hc
  simp [isBracket, ho, hcl]

variable {mark : Char} (hm : mark = Text.singleQuote ∨ mark = Text.doubleQuote)
include hm

/-- What is an escape between quotation marks has no part in markup. -/
theorem not_opensTag_of_escaped {c : Char} (h : c = mark ∨ isPrintable c = false) :
    c ≠ '[' ∧ c ≠ ']' ∧ c ≠ '\\' ∧ opensTag c = false := by
  rcases h with rfl | h
  · rcases hm with rfl | rfl <;> decide
  · have hne : ∀ d, isPrintable d = true → c ≠ d := by
      rintro d hd rfl
      rw [h] at hd
      cases hd
    refine ⟨hne _ (by decide), hne _ (by decide), hne _ (by decide), ?_⟩
    refine Bool.eq_false_iff.mpr fun ho => ?_
    rw [isPrintable_of_opensTag ho] at h
    cases h

/-- Quoting adds and removes no brackets. -/
theorem filter_isBracket_quoteChar (c : Char) :
    (quoteChar mark c).filter isBracket = [c].filter isBracket := by
  have hbare := Text.isBare_of_mark hm
  rcases Text.quoteChar_cases hbare c with ⟨h, -⟩ | ⟨h, rfl⟩ | ⟨⟨d, w, h, hw⟩, hc⟩
  · rw [h]
  · rw [h]
    decide
  · obtain ⟨ho, hcl, -, -⟩ := not_opensTag_of_escaped hm hc
    have hcb : isBracket c = false := by simp [isBracket, ho, hcl]
    rw [h, List.filter_cons_of_neg (by decide), filter_isBracket_of_bare hw,
      List.filter_cons_of_neg (by simp [hcb])]
    rfl

/-- Quoted text is closed by a bracket where the text itself is. -/
theorem isSome_untilClose?_quoted (s : List Char) {post : List Char} (hpost : IsBareText post) :
    (untilClose? (s.flatMap (quoteChar mark) ++ post)).isSome = (untilClose? s).isSome := by
  refine isSome_untilClose?_of_filter (p := isBracket) rfl rfl ?_
  rw [List.filter_append, filter_isBracket_of_bare hpost, List.append_nil]
  induction s with
  | nil => rfl
  | cons c s ih =>
      rw [List.flatMap_cons, List.filter_append, ih, filter_isBracket_quoteChar hm,
        ← List.filter_append]
      rfl

/-- An opening bracket opens a tag in quoted text if and only if it does in the text. -/
theorem isSome_tagAt?_quoted (s : List Char) {post : List Char} (hpost : IsBareText post) :
    (tagAt? ('[' :: (s.flatMap (quoteChar mark) ++ mark :: post))).isSome =
      (tagAt? ('[' :: s)).isSome := by
  have htag : ∀ (c : Char) (rest : List Char), (tagAt? ('[' :: c :: rest)).isSome =
      (opensTag c && (untilClose? rest).isSome) := by
    intro c rest
    rw [tagAt?]
    split
    · rename_i ho
      rw [Option.isSome_map, ho, Bool.true_and]
    · rename_i ho
      rw [Bool.not_eq_true] at ho
      rw [ho, Bool.false_and]
      rfl
  have hbare := Text.isBare_of_mark hm
  have hclose : IsBareText (mark :: post) := Text.IsBareText.cons hbare hpost
  have hslash : opensTag '\\' = false := rfl
  cases s with
  | nil =>
      have hmark := (not_opensTag_of_escaped hm (Or.inl rfl)).2.2.2
      show (tagAt? ('[' :: mark :: post)).isSome = false
      rw [htag, hmark, Bool.false_and]
  | cons c s =>
      rw [htag, List.flatMap_cons]
      rcases Text.quoteChar_cases hbare c with ⟨h, -⟩ | ⟨h, rfl⟩ | ⟨⟨d, w, h, -⟩, hc⟩
      · rw [h, List.append_assoc, List.singleton_append, htag,
          isSome_untilClose?_quoted hm s hclose]
      · rw [h, List.append_assoc, List.cons_append, htag, hslash, Bool.false_and, Bool.false_and]
      · have hc := (not_opensTag_of_escaped hm hc).2.2.2
        rw [h, List.append_assoc, List.cons_append, htag, hslash, hc, Bool.false_and,
          Bool.false_and]

theorem startsStray_quoted (s : List Char) {post : List Char} (hpost : IsBareText post) :
    startsStray (s.flatMap (quoteChar mark) ++ mark :: post) = startsStray s := by
  have hbare := Text.isBare_of_mark hm
  have hne : ∀ (c : Char) (rest : List Char), c ≠ '[' → startsStray (c :: rest) = false := by
    intro c rest hc
    simp [startsStray, hc]
  cases s with
  | nil => exact hne mark post hbare.2.2.1
  | cons c s =>
      by_cases ho : c = '['
      · subst ho
        have hopen : quoteChar mark '[' = ['['] := by
          rcases Text.quoteChar_cases hbare '[' with ⟨h, -⟩ | ⟨-, h⟩ | ⟨-, h⟩
          · exact h
          · cases h
          · exact absurd rfl (not_opensTag_of_escaped hm h).1
        have htag := isSome_tagAt?_quoted hm s hpost
        rw [List.flatMap_cons, hopen, List.append_assoc, List.singleton_append]
        simp only [startsStray, List.head?_cons, ← Option.not_isSome, htag]
      · rw [hne c s ho, List.flatMap_cons, List.append_assoc]
        rcases Text.quoteChar_cases hbare c with ⟨h, -⟩ | ⟨h, rfl⟩ | ⟨⟨d, w, h, -⟩, -⟩
        · rw [h]
          exact hne c _ ho
        · rw [h]
          exact hne _ _ (by decide)
        · rw [h]
          exact hne _ _ (by decide)

/-- Between quotation marks a backslash is shown if and only if it is in the text itself. -/
theorem slashesShown_flatMap_quoteChar (s : List Char) {post : List Char} (hpost : IsBareText post) :
    SlashesShown (s.flatMap (quoteChar mark) ++ mark :: post) ↔ SlashesShown s := by
  have hbare := Text.isBare_of_mark hm
  induction s with
  | nil =>
      have hmem : '\\' ∉ mark :: post := by
        intro h
        rcases List.mem_cons.mp h with h | h
        · exact hbare.2.1 h.symm
        · exact (hpost _ h).2.1 rfl
      exact iff_of_true (slashesShown_of_not_mem hmem) slashesShown_nil
  | cons c s ih =>
      rw [List.flatMap_cons, List.append_assoc]
      rcases Text.quoteChar_cases hbare c with ⟨h, -, hc⟩ | ⟨h, rfl⟩ | ⟨⟨d, w, h, hw⟩, hc⟩
      · rw [h, List.singleton_append, slashesShown_cons, slashesShown_cons]
        exact ⟨fun hs => ⟨fun hcb => absurd hcb hc, ih.mp hs.2⟩,
          fun hs => ⟨fun hcb => absurd hcb hc, ih.mpr hs.2⟩⟩
      · -- The second backslash stands where the only one stands in the text.
        have hfirst : ∀ rest, startsStray ('\\' :: rest) = false := fun rest => rfl
        rw [h, List.cons_append, List.singleton_append, slashesShown_cons, slashesShown_cons,
          slashesShown_cons, startsStray_quoted hm s hpost]
        exact ⟨fun hs => ⟨hs.2.1, ih.mp hs.2.2⟩, fun hs => ⟨fun _ => hfirst _, hs.1, ih.mpr hs.2⟩⟩
      · have hmem : '\\' ∉ d :: w := fun hd => (hw _ hd).2.1 rfl
        have hd : startsStray (d :: w ++ (s.flatMap (quoteChar mark) ++ mark :: post)) = false := by
          simp [startsStray, (hw d (List.mem_cons_self ..)).2.2.1]
        have hcs := (not_opensTag_of_escaped hm hc).2.2.1
        rw [h, List.cons_append, slashesShown_cons, slashesShown_append_of_not_mem hmem,
          slashesShown_cons]
        exact ⟨fun hs => ⟨fun hcb => absurd hcb hcs, ih.mp hs.2⟩,
          fun hs => ⟨fun _ => hd, ih.mpr hs.2⟩⟩

end Quoted

/-- A message that quotes a text between words of its own shows all its backslashes if and only
    if the text by itself would. -/
theorem slashesShown_quote {front post : List Char} (hfront : '\\' ∉ front)
    (hpost : Text.IsBareText post) (s : List Char) :
    SlashesShown (front ++ Text.quote s ++ post) ↔ SlashesShown s := by
  have hm := Text.quoteMark_cases s
  have hmark : '\\' ∉ [Text.quoteMark s] := by
    rcases hm with h | h <;> rw [h] <;> decide
  have hshape : front ++ Text.quote s ++ post =
      front ++ ([Text.quoteMark s] ++
        (s.flatMap (Text.quoteChar (Text.quoteMark s)) ++ Text.quoteMark s :: post)) := by
    simp [Text.quote]
  rw [hshape, slashesShown_append_of_not_mem hfront, slashesShown_append_of_not_mem hmark,
    slashesShown_flatMap_quoteChar hm s hpost]

end NamedConstants.Markup
