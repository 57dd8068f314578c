import Mathlib.Data.List.Forall2
import NamedConstants.Proofs.Markup.Rendering

/-!
# Text that markup shows as it is

Rendering takes away tags, backslashes and the colons of codes.  A text is shown as it is if and
only if none of its opening brackets opens a tag or stands right behind a backslash and none of
its codes names a pictograph (`render_eq_self_iff`); any other text loses a mark
(`countP_isMark_of_render_lt`).
-/

namespace NamedConstants.Markup

/-- No opening bracket opens a tag or stands right behind a backslash. -/
def IsVerbatim (s : List Char) : Prop :=
  ∀ before rest, s = before ++ '[' :: rest →
    tagAt? ('[' :: rest) = none ∧ before.getLast? ≠ some '\\'

theorem isVerbatim_of_not_mem {s : List Char} (h : '[' ∉ s) : IsVerbatim s := by
  intro before rest hs
  exact absurd (by simp [hs]) h

theorem isVerbatim_cons {c : Char} {s : List Char} :
    IsVerbatim (c :: s) ↔
      (c = '[' → tagAt? ('[' :: s) = none) ∧ (c = '\\' → s.head? ≠ some '[') ∧ IsVerbatim s := by
  constructor
  · intro h
    refine ⟨?_, ?_, ?_⟩
    · rintro rfl
      exact (h [] s rfl).1
    · rintro rfl hs
      obtain ⟨rest, rfl⟩ := List.head?_eq_some_iff.mp hs
      exact (h ['\\'] rest rfl).2 rfl
    · intro before rest hs
      obtain ⟨htag, hlast⟩ := h (c :: before) rest (by rw [hs]; rfl)
      refine ⟨htag, fun hb => hlast ?_⟩
      rw [List.getLast?_cons, hb]
      rfl
  · rintro ⟨hopen, hslash, hs⟩ before rest h
    cases before with
    | nil =>
        obtain ⟨rfl, rfl⟩ := List.cons.inj h
        exact ⟨hopen rfl, by simp⟩
    | cons b before =>
        obtain ⟨rfl, rfl⟩ := List.cons.inj h
        obtain ⟨htag, hlast⟩ := hs before rest rfl
        refine ⟨htag, ?_⟩
        cases before with
        | nil =>
            intro hb
            exact hslash (by simpa using hb) rfl
        | cons d before => rwa [List.getLast?_cons_cons]

/-! ## Marks that are shown -/

/-- Of the marks that a tag is written with, at least one is not shown. -/
theorem countP_isMark_tag_lt (slashes : Nat) (body : List Char) :
    (List.replicate (slashes / 2) '\\' ++
        (if slashes % 2 = 1 then '[' :: body ++ [']'] else [])).countP isMark <
      (Token.tag slashes body).source.countP isMark := by
  have hslash : isMark '\\' = true := rfl
  have hopen : isMark '[' = true := rfl
  have hhalf := Nat.div_le_self slashes 2
  split
  · simp only [Token.source, List.countP_append, List.countP_replicate, hslash, if_true]
    omega
  · simp only [Token.source, List.countP_append, List.countP_replicate, List.countP_cons, hslash,
      hopen, if_true, List.append_nil]
    omega

theorem countP_flatten_segments_le (q : Char → Bool) (s : List Char) :
    (segments (tokens s)).flatten.countP q ≤ s.countP q := by
  have hle := (flatten_segments_sublist (tokens s)).countP_le (p := q)
  rwa [flatMap_source_tokens] at hle

/-- A text that keeps all its marks outside tags is verbatim. -/
theorem isVerbatim_of_countP_le {s : List Char}
    (h : s.countP isMark ≤ (segments (tokens s)).flatten.countP isMark) : IsVerbatim s := by
  fun_induction tokens s with
  | case1 => exact isVerbatim_of_not_mem List.not_mem_nil
  | case2 c rest body after htag ih =>
      have hlost := countP_isMark_tag_lt (takeSlashes (c :: rest)).1 body
      have hafter := countP_flatten_segments_le isMark after
      rw [source_of_tagAt? htag, segments, List.flatten_cons, List.flatten_cons, List.flatten_cons,
        List.nil_append, ← List.append_assoc, List.countP_append,
        List.countP_append, ← source_of_tagAt? htag] at h
      omega
  | case3 c rest htag ih =>
      have hrest := countP_flatten_segments_le isMark rest
      by_cases hstray : c = '\\' ∧ (tokens rest).head? = some (.plain '[')
      · obtain ⟨rfl, hopen⟩ := hstray
        obtain ⟨after, hafter⟩ := List.head?_eq_some_iff.mp hopen
        rw [hafter, segments_slash_opening, ← hafter, List.countP_cons_of_pos rfl] at h
        omega
      · rw [segments_plain fun hc hopen => hstray ⟨hc, hopen⟩, flatten_consLine, List.countP_cons,
          List.countP_cons] at h
        refine isVerbatim_cons.mpr ⟨?_, ?_, ih (by omega)⟩
        · rintro rfl
          rwa [takeSlashes_of_ne (by decide)] at htag
        · rintro rfl hopen
          -- The bracket behind the backslash is no tag, so it is a token by itself.
          obtain ⟨after, rfl⟩ := List.head?_eq_some_iff.mp hopen
          rw [takeSlashes_slash] at htag
          rw [tokens_of_not_tagAt? htag] at hstray
          exact hstray ⟨rfl, rfl⟩

/-- Verbatim text has no tokens but its characters. -/
theorem tokens_of_isVerbatim {s : List Char} (h : IsVerbatim s) : tokens s = s.map .plain := by
  fun_induction tokens s with
  | case1 => rfl
  | case2 c rest body after htag ih =>
      have hs := source_of_tagAt? htag
      rw [source_tag_append] at hs
      have hnone := (h _ _ hs).1
      rw [tagAt?_of_isTagBody (isTagBody_of_tagAt? htag)] at hnone
      cases hnone
  | case3 c rest htag ih => rw [ih (isVerbatim_cons.mp h).2.2, List.map_cons]

/-- Verbatim text is a single segment. -/
theorem segments_of_isVerbatim {s : List Char} (h : IsVerbatim s) :
    segments (tokens s) = [s] := by
  rw [tokens_of_isVerbatim h]
  induction s with
  | nil => rfl
  | cons c s ih =>
      obtain ⟨-, hslash, hs⟩ := isVerbatim_cons.mp h
      rw [List.map_cons, segments_plain, ih hs]
      · rfl
      · intro hc hopen
        apply hslash hc
        cases s with
        | nil => cases hopen
        | cons d s => simpa using hopen

theorem flatten_segments_eq_self_iff (s : List Char) :
    (segments (tokens s)).flatten = s ↔ IsVerbatim s := by
  constructor
  · intro h
    exact isVerbatim_of_countP_le (Nat.le_of_eq (by rw [h]))
  · intro h
    rw [segments_of_isVerbatim h, List.flatten_cons, List.flatten_nil, List.append_nil]

instance (s : List Char) : Decidable (IsVerbatim s) :=
  decidable_of_iff _ (flatten_segments_eq_self_iff s)

/-! ## Rendered text -/

section Render

variable {d : Dialect} {s text : List Char}

theorem eq_shownTokens_of_render (h : render d s = .ok text) :
    text = shownTokens d.pictographs (tokens s) := by
  rw [render] at h
  cases hcheck : checkTags d [] 0 (tokens s) with
  | error fault => rw [hcheck] at h; cases h
  | ok =>
      cases hlook : lookUpStyles (tokens s) with
      | error fault => rw [hcheck, hlook] at h; cases h
      | ok =>
          rw [hcheck, hlook] at h
          exact (Except.ok.inj h).symm

/-- Of verbatim text only the codes are replaced. -/
theorem render_of_isVerbatim (d : Dialect) (h : IsVerbatim s) :
    render d s = .ok (d.pictographs.replace s) := by
  have hlive : ∀ t ∈ tokens s, t.live? = none := by
    rw [tokens_of_isVerbatim h, List.forall_mem_map]
    exact fun _ _ => rfl
  rw [render_of_checks (checkTags_of_live? hlive [] 0) (lookUpStyles_of_live? hlive), shownTokens,
    segments_of_isVerbatim h, List.flatMap_singleton]

theorem countP_isMark_of_render (h : render d s = .ok text) :
    text.countP isMark ≤ s.countP isMark := by
  rw [eq_shownTokens_of_render h]
  exact Nat.le_trans (countP_shownTokens_le _ rfl (fun _ => isMark_of_isDrawn) _)
    (countP_flatten_segments_le isMark s)

/-- A text that is shown with all its marks is verbatim and holds no code of a pictograph. -/
theorem isVerbatim_and_knowsNone_of_countP_le (h : render d s = .ok text)
    (hc : s.countP isMark ≤ text.countP isMark) :
    IsVerbatim s ∧ d.pictographs.KnowsNone (codes s) := by
  rw [eq_shownTokens_of_render h] at hc
  have hsegments := countP_flatten_segments_le isMark s
  have hshown := countP_shownTokens_le d.pictographs (q := isMark) rfl
    (fun _ => isMark_of_isDrawn) (tokens s)
  have hverbatim := isVerbatim_of_countP_le (Nat.le_trans hc hshown)
  have hnone := knowsNone_shownCodes_of_countP_le d.pictographs (q := isMark) rfl
    (fun _ => isMark_of_isDrawn) (Nat.le_trans hsegments hc)
  rw [shownCodes, segments_of_isVerbatim hverbatim, List.flatMap_singleton] at hnone
  exact ⟨hverbatim, hnone⟩

/-- A text is shown as it is if and only if it is verbatim and holds no code of a pictograph. -/
theorem render_eq_self_iff (d : Dialect) (s : List Char) :
    render d s = .ok s ↔ IsVerbatim s ∧ d.pictographs.KnowsNone (codes s) := by
  constructor
  · exact fun h => isVerbatim_and_knowsNone_of_countP_le h (Nat.le_refl _)
  · rintro ⟨hverbatim, hnone⟩
    rw [render_of_isVerbatim d hverbatim, d.pictographs.replace_of_knowsNone hnone]

/-- A text that is not shown as it is loses a mark. -/
theorem countP_isMark_of_render_lt (h : render d s = .ok text) (hs : render d s ≠ .ok s) :
    text.countP isMark < s.countP isMark :=
  Nat.lt_of_not_le fun hc =>
    hs ((render_eq_self_iff d s).mpr (isVerbatim_and_knowsNone_of_countP_le h hc))

/-- A character of a rendered text is one of the text's own or can be drawn. -/
theorem mem_of_render (h : render d s = .ok text) {c : Char} (hc : c ∈ text) :
    c ∈ s ∨ isDrawn c = true := by
  rw [eq_shownTokens_of_render h] at hc
  refine (mem_of_mem_shownTokens _ hc).imp_left fun hmem => ?_
  have hsource := (flatten_segments_sublist (tokens s)).mem hmem
  rwa [flatMap_source_tokens] at hsource

end Render

/-- If several texts together are shown with all their marks, then each is shown as it is. -/
theorem render_self_of_forall₂ {d : Dialect} {sources texts : List (List Char)}
    (h : List.Forall₂ (fun s text => render d s = .ok text) sources texts)
    (hc : sources.flatten.countP isMark ≤ texts.flatten.countP isMark) :
    ∀ s ∈ sources, render d s = .ok s := by
  have hle : ∀ {sources texts : List (List Char)},
      List.Forall₂ (fun s text => render d s = .ok text) sources texts →
        texts.flatten.countP isMark ≤ sources.flatten.countP isMark := by
    intro sources texts h
    induction h with
    | nil => exact Nat.le_refl _
    | cons hs _ ih =>
        rw [List.flatten_cons, List.flatten_cons, List.countP_append, List.countP_append]
        exact Nat.add_le_add (countP_isMark_of_render hs) ih
  induction h with
  | nil => simp
  | @cons s text sources texts hs hrest ih =>
      have hfirst := countP_isMark_of_render hs
      have hothers := hle hrest
      rw [List.flatten_cons, List.flatten_cons, List.countP_append, List.countP_append] at hc
      refine List.forall_mem_cons.mpr ⟨?_, ih (by omega)⟩
      by_contra hself
      have hlost := countP_isMark_of_render_lt hs hself
      omega

end NamedConstants.Markup
