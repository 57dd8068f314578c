import Mathlib.Data.List.TakeWhile
import NamedConstants.Proofs.Markup.Segments

/-!
# Rendering of escaped text

Escaped text renders without fault whatever styles are open, for none of its tags acts on them
(`live?_of_mem_tokens_escape`).  Outside its codes it shows the text without the backslashes that
stand right in front of an opening bracket which opens no tag (`flatten_segments_escape`).  The
same holds behind text in a style of the program's own (`render_styled_escape`).
-/

namespace NamedConstants.Markup

/-- Whether a text starts with an opening bracket that opens no tag. -/
def startsStray (s : List Char) : Bool :=
  s.head? == some '[' && (tagAt? s).isNone

/-- A text without the backslashes that stand right in front of an opening bracket which opens
    no tag. -/
def dropStraySlashes : List Char → List Char
  | [] => []
  | c :: rest =>
      if c = '\\' ∧ startsStray rest = true then dropStraySlashes rest
      else c :: dropStraySlashes rest

/-- What the escaped form of a text shows. -/
def shown (p : Pictographs) (s : List Char) : List Char :=
  shownTokens p (tokens (escape s))

theorem dropStraySlashes_of_ne {c : Char} (h : c ≠ '\\') (s : List Char) :
    dropStraySlashes (c :: s) = c :: dropStraySlashes s := by
  rw [dropStraySlashes, if_neg fun hc => h hc.1]

theorem dropStraySlashes_slash_of_ne {d : Char} (h : d ≠ '[') (s : List Char) :
    dropStraySlashes ('\\' :: d :: s) = '\\' :: dropStraySlashes (d :: s) := by
  rw [dropStraySlashes, if_neg]
  simp [startsStray, h]

/-- Text without opening brackets is kept, up to what its last backslash stands before. -/
theorem dropStraySlashes_append {body : List Char} (ho : '[' ∉ body) {d : Char} (hd : d ≠ '[')
    (rest : List Char) :
    dropStraySlashes (body ++ d :: rest) = body ++ dropStraySlashes (d :: rest) := by
  induction body with
  | nil => rfl
  | cons c body ih =>
      simp only [List.mem_cons, not_or] at ho
      rw [List.cons_append, List.cons_append, ← ih ho.2]
      by_cases hc : c = '\\'
      · subst hc
        cases body with
        | nil => exact dropStraySlashes_slash_of_ne hd rest
        | cons e body =>
            have he : e ≠ '[' := fun he => ho.2 (by simp [he])
            exact dropStraySlashes_slash_of_ne he _
      · exact dropStraySlashes_of_ne hc _

/-- A tag is kept with all backslashes in front of it. -/
theorem dropStraySlashes_tag (slashes : Nat) {body : List Char} (h : IsTagBody body)
    (rest : List Char) :
    dropStraySlashes ((Token.tag slashes body).source ++ rest) =
      (Token.tag slashes body).source ++ dropStraySlashes rest := by
  induction slashes with
  | zero =>
      rw [source_tag_append, List.replicate_zero, List.nil_append,
        dropStraySlashes_of_ne (by decide), dropStraySlashes_append h.noOpening (by decide), dropStraySlashes_of_ne (by decide)]
      simp [Token.source]
  | succ n ih =>
      have hn : (Token.tag (n + 1) body).source = '\\' :: (Token.tag n body).source := by
        simp [Token.source, List.replicate_succ]
      rw [hn, List.cons_append, List.cons_append, ← ih, dropStraySlashes, if_neg]
      rintro ⟨-, hst⟩
      cases n with
      | zero => simp [startsStray, source_tag_append, tagAt?_of_isTagBody h] at hst
      | succ n => simp [startsStray, source_tag_append, List.replicate_succ] at hst

/-! ## What escaped text shows -/

/-- Outside its codes, escaped text shows the text without its stray backslashes. -/
theorem flatten_segments_map_shielded (s : List Char) :
    (segments ((tokens s).map Token.shielded)).flatten = dropStraySlashes s := by
  fun_induction tokens s with
  | case1 => rfl
  | case2 c rest body after h ih =>
      have hs := dropStraySlashes_tag (takeSlashes (c :: rest)).1 (isTagBody_of_tagAt? h) after
      rw [← source_of_tagAt? h] at hs
      rw [List.map_cons, Token.shielded, flatten_segments_shielded, ih, hs]
  | case3 c rest h ih =>
      rw [List.map_cons, Token.shielded]
      by_cases hst : c = '\\' ∧ startsStray rest = true
      · obtain ⟨rfl, hst⟩ := hst
        rw [dropStraySlashes, if_pos ⟨rfl, hst⟩, ← ih]
        simp only [startsStray, Bool.and_eq_true, beq_iff_eq, Option.isNone_iff_eq_none] at hst
        obtain ⟨after, rfl⟩ := List.head?_eq_some_iff.mp hst.1
        rw [tokens_of_not_tagAt? (by rw [takeSlashes_of_ne (by decide)]; exact hst.2),
          List.map_cons, Token.shielded, segments_slash_opening]
      · rw [dropStraySlashes, if_neg hst, segments_plain, flatten_consLine, ih]
        intro hc hr
        apply hst
        refine ⟨hc, ?_⟩
        subst hc
        rw [takeSlashes_slash] at h
        cases rest with
        | nil => simp [tokens] at hr
        | cons d rest =>
            rw [tokens_of_not_tagAt? h] at hr
            obtain rfl : d = '[' := by simpa [Token.shielded] using hr
            rw [takeSlashes_of_ne (by decide)] at h
            simp [startsStray, h]

theorem flatten_segments_escape (s : List Char) :
    (segments (tokens (escape s))).flatten = dropStraySlashes (closeSlash s) := by
  rw [tokens_escape, flatten_segments_map_shielded]

theorem shown_nil (p : Pictographs) : shown p [] = [] := by
  rw [shown, escape_nil, tokens]
  rfl

/-! ## Tags that act -/

/-- What a token does to the styles: the tag that opens or closes one, by what stands between its
    brackets.  An odd number of backslashes makes a tag a part of the text. -/
def Token.live? : Token → Option (List Char)
  | .plain _ => none
  | .tag slashes body => if slashes % 2 = 0 then some body else none

theorem Token.live?_shielded (t : Token) : t.shielded.live? = none := by
  cases t with
  | plain c => rfl
  | tag slashes body =>
      have hodd : (2 * slashes + 1) % 2 ≠ 0 := by omega
      rw [Token.shielded, Token.live?, if_neg hodd]

/-- Escaped text holds no tag that acts. -/
theorem live?_of_mem_tokens_escape (s : List Char) : ∀ t ∈ tokens (escape s), t.live? = none := by
  rw [tokens_escape, List.forall_mem_map]
  exact fun t _ => t.live?_shielded

section Checks

variable {d : Dialect}

/-- Where no tag acts, none is at fault. -/
theorem checkTags_of_live? {toks : List Token} (h : ∀ t ∈ toks, t.live? = none)
    (opened : List Opened) (position : Nat) : checkTags d opened position toks = .ok () := by
  induction toks generalizing position with
  | nil => rfl
  | cons t toks ih =>
      obtain ⟨ht, htoks⟩ := List.forall_mem_cons.mp h
      cases t with
      | plain c => exact ih htoks _
      | tag slashes body =>
          have hodd : slashes % 2 = 1 := by
            rw [Token.live?, ite_eq_right_iff] at ht
            have hne : slashes % 2 ≠ 0 := fun hz => Option.some_ne_none _ (ht hz)
            omega
          rw [checkTags, if_pos hodd]
          exact ih htoks _

theorem lookUpStyles_of_live? {toks : List Token} (h : ∀ t ∈ toks, t.live? = none) :
    lookUpStyles toks = .ok () := by
  induction toks with
  | nil => rfl
  | cons t toks ih =>
      obtain ⟨ht, htoks⟩ := List.forall_mem_cons.mp h
      cases t with
      | plain c => exact ih htoks
      | tag slashes body =>
          have heven : ¬slashes % 2 = 0 := by
            rw [Token.live?, ite_eq_right_iff] at ht
            exact fun hz => Option.some_ne_none _ (ht hz)
          rw [lookUpStyles, if_neg heven]
          exact ih htoks

theorem render_of_checks {s : List Char} (hcheck : checkTags d [] 0 (tokens s) = .ok ())
    (hlook : lookUpStyles (tokens s) = .ok ()) :
    render d s = .ok (shownTokens d.pictographs (tokens s)) := by
  rw [render, hcheck, hlook]
  rfl

/-- Escaped text always renders. -/
theorem render_escape (d : Dialect) (s : List Char) :
    render d (escape s) = .ok (shown d.pictographs s) := by
  have hlive := live?_of_mem_tokens_escape s
  rw [render_of_checks (checkTags_of_live? hlive [] 0) (lookUpStyles_of_live? hlive), shown]

theorem checkTags_map_plain_append (text : List Char) (opened : List Opened) (position : Nat)
    (rest : List Token) :
    checkTags d opened position (text.map .plain ++ rest) =
      checkTags d opened (position + text.length) rest := by
  induction text generalizing position with
  | nil => rfl
  | cons c text ih =>
      rw [List.map_cons, List.cons_append, checkTags, ih, List.length_cons, Nat.add_assoc,
        Nat.add_comm 1]

theorem lookUpStyles_map_plain_append (text : List Char) (rest : List Token) :
    lookUpStyles (text.map .plain ++ rest) = lookUpStyles rest := by
  induction text with
  | nil => rfl
  | cons c text ih => exact ih

theorem checkTags_tag {opened opened' : List Opened} {position : Nat} {body : List Char}
    (h : applyTag d opened position body = .ok opened') (rest : List Token) :
    checkTags d opened position (.tag 0 body :: rest) =
      checkTags d opened' (position + body.length + 2) rest := by
  rw [checkTags]
  simp only [Nat.zero_mod, Nat.zero_ne_one, if_false, Nat.add_zero, h]
  rfl

end Checks

/-! ## Text in a style -/

/-- The name of a style, which its tags write as it is. -/
structure IsStyle (name : List Char) : Prop where
  body : IsTagBody name
  noEquals : '=' ∉ name
  notClosing : name.head? ≠ some '/'
  notBlank : (Text.trim name).isEmpty = false
  found : lookUpStyle name = .ok ()

instance (name : List Char) : Decidable (IsStyle name) :=
  decidable_of_iff (IsTagBody name ∧ '=' ∉ name ∧ name.head? ≠ some '/' ∧
      (Text.trim name).isEmpty = false ∧ lookUpStyle name = .ok ())
    ⟨fun ⟨body, noEquals, notClosing, notBlank, found⟩ =>
        ⟨body, noEquals, notClosing, notBlank, found⟩,
      fun h => ⟨h.body, h.noEquals, h.notClosing, h.notBlank, h.found⟩⟩

/-- Text between the tag that opens a style and the one that closes it. -/
def styled (style text : List Char) : List Char :=
  (Token.tag 0 style).source ++ text ++ (Token.tag 0 ('/' :: style)).source

theorem forall_mem_ne_of_not_mem {body : List Char} (h : '=' ∉ body) :
    ∀ c ∈ body, (c != '=') = true := by
  intro c hc
  exact bne_iff_ne.mpr fun he => h (he ▸ hc)

theorem tagName_of_not_mem {body : List Char} (h : '=' ∉ body) : tagName body = body :=
  List.takeWhile_eq_self_iff.mpr (forall_mem_ne_of_not_mem h)

theorem tagParameters_of_not_mem {body : List Char} (h : '=' ∉ body) :
    tagParameters body = none := by
  have hdrop : body.dropWhile (· != '=') = [] :=
    List.dropWhile_eq_nil_iff.mpr (forall_mem_ne_of_not_mem h)
  rw [tagParameters, hdrop]

section IsStyle

variable {style : List Char} (h : IsStyle style)
include h

theorem IsStyle.closing : IsTagBody ('/' :: style) where
  opens := ⟨'/', style, rfl, by decide⟩
  noOpening := by simp [h.body.noOpening]
  noClosing := by simp [h.body.noClosing]

/-- A style that is found has a form. -/
theorem IsStyle.exists_styleName : ∃ form, styleName style = .ok form := by
  have hfound := h.found
  rw [lookUpStyle, tagName_of_not_mem h.noEquals] at hfound
  split at hfound
  · exact absurd rfl h.notClosing
  · cases hform : styleName style with
    | ok form => exact ⟨form, rfl⟩
    | error fault =>
        rw [hform] at hfound
        cases hfound

variable {d : Dialect} {form : List Char} (hform : styleName style = .ok form)
include hform

/-- The tag of a style opens it. -/
theorem IsStyle.applyTag_eq (opened : List Opened) (position : Nat) :
    applyTag d opened position style = .ok (⟨form, none⟩ :: opened) := by
  unfold applyTag
  rw [tagName_of_not_mem h.noEquals]
  split
  · exact absurd rfl h.notClosing
  · rw [hform, tagParameters_of_not_mem h.noEquals]
    rfl

/-- The closing tag of the style that was opened last closes it. -/
theorem IsStyle.applyTag_closing (opened : List Opened) (position : Nat) :
    applyTag d (⟨form, none⟩ :: opened) position ('/' :: style) = .ok opened := by
  have hclosing : '=' ∉ '/' :: style := by simp [h.noEquals]
  have hclose : closeStyle? form (⟨form, none⟩ :: opened) = some (⟨form, none⟩, opened) := by
    simp [closeStyle?]
  rw [applyTag, tagName_of_not_mem hclosing]
  simp only [h.notBlank, Bool.false_eq_true, if_false, hform]
  simp only [bind, Except.bind, hclose]
  rfl

end IsStyle

/-- The tags around text in a style are no fault, and the styles are open behind it that were open
    in front. -/
theorem checkTags_styled (d : Dialect) {style text : List Char} (hs : IsStyle style)
    (ht : IsInert text) (opened : List Opened) (position : Nat) (rest : List Char) :
    checkTags d opened position (tokens (styled style text ++ rest)) =
      checkTags d opened (position + (styled style text).length) (tokens rest) := by
  have hlength : position + style.length + 2 + text.length + ('/' :: style).length + 2 =
      position + (styled style text).length := by
    simp only [styled, Token.source, List.replicate_zero, List.nil_append, List.length_append,
      List.length_cons, List.length_nil]
    omega
  obtain ⟨form, hform⟩ := hs.exists_styleName
  rw [styled, List.append_assoc, List.append_assoc, tokens_tag 0 hs.body,
    tokens_append_of_inert ht, tokens_tag 0 hs.closing, checkTags_tag (hs.applyTag_eq hform _ _),
    checkTags_map_plain_append, checkTags_tag (hs.applyTag_closing hform _ _), hlength]
  rfl

theorem lookUpStyles_styled {style text : List Char} (hs : IsStyle style) (ht : IsInert text)
    (rest : List Char) :
    lookUpStyles (tokens (styled style text ++ rest)) = lookUpStyles (tokens rest) := by
  have hclosing : lookUpStyle ('/' :: style) = .ok () := by
    have hname : '=' ∉ '/' :: style := by simp [hs.noEquals]
    rw [lookUpStyle, tagName_of_not_mem hname]
    rfl
  rw [styled, List.append_assoc, List.append_assoc, tokens_tag 0 hs.body,
    tokens_append_of_inert ht, tokens_tag 0 hs.closing, lookUpStyles, if_pos rfl, hs.found]
  change lookUpStyles _ = _
  rw [lookUpStyles_map_plain_append, lookUpStyles, if_pos rfl, hclosing]
  rfl

/-- Words that take part neither in markup nor in codes. -/
structure IsWords (s : List Char) : Prop where
  inert : IsInert s
  noCodes : codes s = []

instance (s : List Char) : Decidable (IsWords s) :=
  decidable_of_iff (IsInert s ∧ codes s = []) ⟨fun h => ⟨h.1, h.2⟩, fun h => ⟨h.1, h.2⟩⟩

/-- Words that open no code for what stands behind them, either. -/
structure IsGap (s : List Char) : Prop where
  inert : IsInert s
  noCode : OpensNoCode s

theorem IsGap.append {s t : List Char} (hs : IsGap s) (ht : IsGap t) : IsGap (s ++ t) :=
  ⟨hs.inert.append ht.inert, hs.noCode.append ht.noCode⟩

theorem isGap_of_inert {s : List Char} (hs : IsInert s) (h : ':' ∉ s) : IsGap s :=
  ⟨hs, opensNoCode_of_not_mem h⟩

theorem isGap_space : IsGap [' '] :=
  isGap_of_inert (by decide) (by decide)

theorem isGap_colonSpace : IsGap [':', ' '] :=
  ⟨by decide, opensNoCode_colonSpace⟩

section Labelled

variable {lead style text gap : List Char} (hl : IsWords lead) (hs : IsStyle style)
  (ht : IsWords text) (hg : IsGap gap)
include hl hs ht hg

/-- Behind text in a style, no tag of escaped text is at fault, whatever styles are open. -/
theorem checkTags_styled_escape (d : Dialect) (opened : List Opened) (position : Nat)
    (s : List Char) :
    checkTags d opened position (tokens (lead ++ styled style text ++ gap ++ escape s)) =
      .ok () := by
  rw [List.append_assoc, List.append_assoc, tokens_append_of_inert hl.inert,
    checkTags_map_plain_append, checkTags_styled d hs ht.inert, tokens_append_of_inert hg.inert,
    checkTags_map_plain_append, checkTags_of_live? (live?_of_mem_tokens_escape s)]

theorem shownTokens_styled_escape (p : Pictographs) (s : List Char) :
    shownTokens p (tokens (lead ++ styled style text ++ gap ++ escape s)) =
      lead ++ text ++ gap ++ shown p s := by
  rw [List.append_assoc, List.append_assoc, tokens_append_of_inert hl.inert, styled,
    List.append_assoc, List.append_assoc, tokens_tag 0 hs.body,
    shownTokens_map_plain_tag p hl.inert hl.noCodes, tokens_append_of_inert ht.inert,
    tokens_tag 0 hs.closing, shownTokens_map_plain_tag p ht.inert ht.noCodes,
    tokens_append_of_inert hg.inert, shownTokens_map_plain_append p hg.inert hg.noCode, shown,
    List.append_assoc, List.append_assoc]

/-- Escaped text shows the same behind text in a style and words around it. -/
theorem render_styled_escape (d : Dialect) (s : List Char) :
    render d (lead ++ styled style text ++ gap ++ escape s) =
      .ok (lead ++ text ++ gap ++ shown d.pictographs s) := by
  have hlook : lookUpStyles (tokens (lead ++ styled style text ++ gap ++ escape s)) = .ok () := by
    rw [List.append_assoc, List.append_assoc, tokens_append_of_inert hl.inert,
      lookUpStyles_map_plain_append, lookUpStyles_styled hs ht.inert,
      tokens_append_of_inert hg.inert, lookUpStyles_map_plain_append,
      lookUpStyles_of_live? (live?_of_mem_tokens_escape s)]
  rw [render_of_checks (checkTags_styled_escape hl hs ht hg d [] 0 s) hlook,
    shownTokens_styled_escape hl hs ht hg]

end Labelled

/-- Text in a style is shown without the tags of the style. -/
theorem render_styled (d : Dialect) {style text : List Char} (hs : IsStyle style)
    (ht : IsWords text) : render d (styled style text) = .ok text := by
  have hlead : IsWords [] := by decide
  have hgap : IsGap [] := isGap_of_inert (by decide) List.not_mem_nil
  have hrender := render_styled_escape hlead hs ht hgap d []
  rwa [shown_nil, escape_nil, List.nil_append, List.nil_append, List.append_nil, List.append_nil,
    List.append_nil, List.append_nil] at hrender

end NamedConstants.Markup
