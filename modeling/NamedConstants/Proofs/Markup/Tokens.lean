import NamedConstants.Markup.Escape

/-!
# Tokens of written markup

Which text is cut into which tokens.  A tag that is written with any number of backslashes in
front of it is read back as that tag (`tokens_tag`), characters other than backslashes and
opening brackets are read one by one (`tokens_append_of_inert`), and the escaped form of a
text has the tokens of the text, each tag with twice its backslashes and one more
(`tokens_escape`).
-/

namespace NamedConstants.Markup

/-- What may stand between the brackets of a tag. -/
structure IsTagBody (body : List Char) : Prop where
  opens : ∃ c rest, body = c :: rest ∧ opensTag c = true
  noOpening : '[' ∉ body
  noClosing : ']' ∉ body

instance (body : List Char) : Decidable (IsTagBody body) :=
  decidable_of_iff (body.head?.any opensTag = true ∧ '[' ∉ body ∧ ']' ∉ body) <| by
    rw [Option.any_eq_true]
    constructor
    · rintro ⟨⟨c, hc, hopens⟩, ho, hclose⟩
      obtain ⟨rest, rfl⟩ := List.head?_eq_some_iff.mp hc
      exact ⟨⟨c, rest, rfl, hopens⟩, ho, hclose⟩
    · rintro ⟨⟨c, rest, rfl, hopens⟩, ho, hclose⟩
      exact ⟨⟨c, rfl, hopens⟩, ho, hclose⟩

/-- Text that takes no part in markup: it holds no opening bracket and no backslash. -/
def IsInert (s : List Char) : Prop :=
  ∀ c ∈ s, c ≠ '[' ∧ c ≠ '\\'

instance (s : List Char) : Decidable (IsInert s) :=
  List.decidableBAll (fun c : Char => c ≠ '[' ∧ c ≠ '\\') s

theorem IsInert.append {s t : List Char} (hs : IsInert s) (ht : IsInert t) :
    IsInert (s ++ t) := by
  intro c hc
  rcases List.mem_append.mp hc with h | h
  · exact hs c h
  · exact ht c h

theorem takeSlashes_replicate (n : Nat) {s : List Char} (h : s.head? ≠ some '\\') :
    takeSlashes (List.replicate n '\\' ++ s) = (n, s) := by
  induction n with
  | zero =>
      cases s with
      | nil => rfl
      | cons c s =>
          have hc : c ≠ '\\' := by simpa using h
          simp [takeSlashes, hc]
  | succ n ih => simp [List.replicate_succ, takeSlashes, ih]

theorem takeSlashes_of_ne {c : Char} (h : c ≠ '\\') (s : List Char) :
    takeSlashes (c :: s) = (0, c :: s) := by
  simp [takeSlashes, h]

theorem takeSlashes_slash (s : List Char) :
    (takeSlashes ('\\' :: s)).2 = (takeSlashes s).2 := by
  simp [takeSlashes]

theorem untilClose?_append {body : List Char} (ho : '[' ∉ body) (hc : ']' ∉ body)
    (rest : List Char) : untilClose? (body ++ ']' :: rest) = some (body, rest) := by
  induction body with
  | nil => simp [untilClose?]
  | cons c body ih =>
      simp only [List.mem_cons, not_or] at ho hc
      simp [untilClose?, Ne.symm ho.1, Ne.symm hc.1, ih ho.2 hc.2]

/-- What is closed by a bracket holds no bracket. -/
theorem untilClose?_brackets {s body rest : List Char} (h : untilClose? s = some (body, rest)) :
    '[' ∉ body ∧ ']' ∉ body := by
  induction s generalizing body rest with
  | nil => simp [untilClose?] at h
  | cons c s ih =>
      unfold untilClose? at h
      split at h
      · simp only [Option.some.injEq, Prod.mk.injEq] at h
        simp [← h.1]
      · next hc =>
        split at h
        · exact absurd h (by simp)
        · next ho =>
          obtain ⟨⟨b, a⟩, hb, he⟩ := Option.map_eq_some_iff.mp h
          obtain ⟨rfl, rfl⟩ := Prod.mk.inj he
          have := ih hb
          simp [Ne.symm ho, Ne.symm hc, this]

theorem tagAt?_of_isTagBody {body : List Char} (h : IsTagBody body) (rest : List Char) :
    tagAt? ('[' :: (body ++ ']' :: rest)) = some (body, rest) := by
  obtain ⟨c, inner, rfl, hc⟩ := h.opens
  have ho : '[' ∉ inner := fun hm => h.noOpening (List.mem_cons_of_mem _ hm)
  have hn : ']' ∉ inner := fun hm => h.noClosing (List.mem_cons_of_mem _ hm)
  simp [tagAt?, hc, untilClose?_append ho hn]

theorem isTagBody_of_tagAt? {s body rest : List Char} (h : tagAt? s = some (body, rest)) :
    IsTagBody body := by
  unfold tagAt? at h
  split at h
  · next c s =>
    split at h
    · next hc =>
      obtain ⟨⟨b, a⟩, hb, he⟩ := Option.map_eq_some_iff.mp h
      obtain ⟨rfl, rfl⟩ := Prod.mk.inj he
      obtain ⟨ho, hn⟩ := untilClose?_brackets hb
      have h1 : '[' ≠ c := by rintro rfl; exact absurd hc (by decide)
      have h2 : ']' ≠ c := by rintro rfl; exact absurd hc (by decide)
      exact ⟨⟨c, b, rfl, hc⟩, by simp [h1, ho], by simp [h2, hn]⟩
    · exact absurd h (by simp)
  · exact absurd h (by simp)

theorem tagAt?_of_ne {c : Char} (h : c ≠ '[') (s : List Char) : tagAt? (c :: s) = none := by
  unfold tagAt?
  split
  · next heq => exact absurd (List.cons.inj heq).1 h
  · rfl

theorem tokens_of_tagAt? {s body rest : List Char}
    (h : tagAt? (takeSlashes s).2 = some (body, rest)) :
    tokens s = .tag (takeSlashes s).1 body :: tokens rest := by
  cases s with
  | nil => exact absurd h (by simp [takeSlashes, tagAt?])
  | cons c s =>
      rw [tokens]
      split
      · next heq =>
        obtain ⟨rfl, rfl⟩ := Prod.mk.inj (Option.some.inj (heq.symm.trans h))
        rfl
      · next heq => exact absurd (heq.symm.trans h) (by simp)

theorem tokens_of_not_tagAt? {c : Char} {s : List Char}
    (h : tagAt? (takeSlashes (c :: s)).2 = none) : tokens (c :: s) = .plain c :: tokens s := by
  rw [tokens]
  split
  · next heq => exact absurd (heq.symm.trans h) (by simp)
  · rfl

theorem source_tag_append (slashes : Nat) (body rest : List Char) :
    (Token.tag slashes body).source ++ rest =
      List.replicate slashes '\\' ++ '[' :: (body ++ ']' :: rest) := by
  simp [Token.source]

theorem takeSlashes_source_tag (slashes : Nat) (body rest : List Char) :
    takeSlashes ((Token.tag slashes body).source ++ rest) =
      (slashes, '[' :: (body ++ ']' :: rest)) := by
  rw [source_tag_append]
  exact takeSlashes_replicate slashes (by simp)

theorem tagAt?_takeSlashes_source (slashes : Nat) {body : List Char} (h : IsTagBody body)
    (rest : List Char) :
    tagAt? (takeSlashes ((Token.tag slashes body).source ++ rest)).2 = some (body, rest) := by
  rw [takeSlashes_source_tag]
  exact tagAt?_of_isTagBody h rest

/-- A tag is read back with the backslashes in front of it. -/
theorem tokens_tag (slashes : Nat) {body : List Char} (h : IsTagBody body) (rest : List Char) :
    tokens ((Token.tag slashes body).source ++ rest) = .tag slashes body :: tokens rest := by
  rw [tokens_of_tagAt? (tagAt?_takeSlashes_source slashes h rest), takeSlashes_source_tag]

theorem tokens_cons_of_ne {c : Char} (hb : c ≠ '\\') (ho : c ≠ '[') (s : List Char) :
    tokens (c :: s) = .plain c :: tokens s := by
  apply tokens_of_not_tagAt?
  rw [takeSlashes_of_ne hb]
  exact tagAt?_of_ne ho s

/-- Inert text is read character by character, whatever follows it. -/
theorem tokens_append_of_inert {p : List Char} (h : IsInert p) (s : List Char) :
    tokens (p ++ s) = p.map Token.plain ++ tokens s := by
  induction p with
  | nil => rfl
  | cons c p ih =>
      have hc := h c (by simp)
      rw [List.cons_append, tokens_cons_of_ne hc.2 hc.1, ih fun d hd => h d (by simp [hd])]
      rfl

theorem source_of_tagAt? {s body rest : List Char}
    (h : tagAt? (takeSlashes s).2 = some (body, rest)) :
    s = (Token.tag (takeSlashes s).1 body).source ++ rest := by
  have hs := takeSlashes_source s
  rw [tagAt?_source h] at hs
  simpa [Token.source] using hs.symm

/-- A text starts with no tag if no tag with a text behind it makes it up. -/
theorem tagAt?_eq_none_of_ne_source {s : List Char}
    (h : ∀ slashes body rest, IsTagBody body → s ≠ (Token.tag slashes body).source ++ rest) :
    tagAt? (takeSlashes s).2 = none := by
  cases ht : tagAt? (takeSlashes s).2 with
  | none => rfl
  | some p => exact absurd (source_of_tagAt? ht) (h _ _ _ (isTagBody_of_tagAt? ht))

/-! ## Escaped text -/

/-- A token as the escaped form writes it: one backslash more than twice those of a tag. -/
def Token.shielded : Token → Token
  | .plain c => .plain c
  | .tag slashes body => .tag (2 * slashes + 1) body

/-- A text with its tags escaped, before a lone backslash at its end is doubled. -/
def shieldTags (s : List Char) : List Char :=
  (tokens s).flatMap Token.escaped

theorem shieldTags_nil : shieldTags [] = [] := by
  simp [shieldTags, tokens]

/-- The bracket that closes a tag is found whatever other characters stand in between. -/
theorem isSome_untilClose?_filter {p : Char → Bool} (hopen : p '[' = true) (hclose : p ']' = true)
    (s : List Char) : (untilClose? (s.filter p)).isSome = (untilClose? s).isSome := by
  induction s with
  | nil => rfl
  | cons c s ih =>
      by_cases hc : c = ']'
      · subst hc
        simp [untilClose?, hclose]
      · by_cases ho : c = '['
        · subst ho
          simp [untilClose?, hopen]
        · cases hp : p c with
          | true => simp [untilClose?, hp, hc, ho, ih]
          | false => simp [untilClose?, hp, hc, ho, ih]

/-- Texts that differ in no bracket are closed alike. -/
theorem isSome_untilClose?_of_filter {p : Char → Bool} (hopen : p '[' = true)
    (hclose : p ']' = true) {s t : List Char} (h : s.filter p = t.filter p) :
    (untilClose? s).isSome = (untilClose? t).isSome := by
  rw [← isSome_untilClose?_filter hopen hclose s, h, isSome_untilClose?_filter hopen hclose]

/-- Escaping adds nothing but backslashes. -/
theorem filter_shieldTags (s : List Char) :
    (shieldTags s).filter (· != '\\') = s.filter (· != '\\') := by
  have key : ∀ toks : List Token, (toks.flatMap Token.escaped).filter (· != '\\') =
      (toks.flatMap Token.source).filter (· != '\\') := by
    intro toks
    induction toks with
    | nil => rfl
    | cons t toks ih =>
        rw [List.flatMap_cons, List.flatMap_cons, List.filter_append, List.filter_append, ih]
        cases t with
        | plain c => rfl
        | tag slashes body => simp [Token.escaped, Token.source]
  rw [shieldTags, key, flatMap_source_tokens]

theorem shieldTags_of_tag {s body rest : List Char}
    (h : tagAt? (takeSlashes s).2 = some (body, rest)) :
    shieldTags s = (Token.tag (2 * (takeSlashes s).1 + 1) body).source ++ shieldTags rest := by
  rw [shieldTags, tokens_of_tagAt? h]
  rfl

theorem shieldTags_of_plain {c : Char} {s : List Char}
    (h : tagAt? (takeSlashes (c :: s)).2 = none) : shieldTags (c :: s) = c :: shieldTags s := by
  rw [shieldTags, tokens_of_not_tagAt? h]
  rfl

/-- A bracket that opens no tag in a text opens none in its escaped form. -/
theorem tagAt?_opening_shieldTags {s : List Char} (h : tagAt? ('[' :: s) = none) :
    tagAt? ('[' :: shieldTags s) = none := by
  cases s with
  | nil => rw [shieldTags_nil, h]
  | cons d s =>
      cases ht : tagAt? (takeSlashes (d :: s)).2 with
      | some p =>
          -- A backslash of the escaped tag stands behind the bracket.
          rw [shieldTags_of_tag ht]
          simp [Token.source, List.replicate_succ, tagAt?, opensTag]
      | none =>
          rw [shieldTags_of_plain ht]
          by_cases hd : opensTag d = true
          · have hn : d ≠ '\\' := by rintro rfl; exact absurd hd (by decide)
            have hf := filter_shieldTags (d :: s)
            rw [shieldTags_of_plain ht] at hf
            simp only [List.filter_cons, bne_iff_ne, ne_eq, hn, not_false_iff, if_true,
              List.cons.injEq, true_and] at hf
            have hu : untilClose? s = none := by simpa [tagAt?, hd] using h
            have hs : (untilClose? (shieldTags s)).isSome = false := by
              rw [isSome_untilClose?_of_filter rfl rfl hf, hu]
              rfl
            have hn : untilClose? (shieldTags s) = none := by simpa using hs
            simp [tagAt?, hd, hn]
          · simp [tagAt?, hd]

/-- The escaped form has the tokens of the text, each tag shielded. -/
theorem tokens_shieldTags (s : List Char) :
    tokens (shieldTags s) = (tokens s).map Token.shielded := by
  -- The tokens of a text are its tags and single characters, so the induction follows them.
  fun_induction tokens s with
  | case1 => rw [shieldTags_nil, tokens, List.map_nil]
  | case2 c rest body after h ih =>
      rw [shieldTags_of_tag h, tokens_tag _ (isTagBody_of_tagAt? h), ih]
      rfl
  | case3 c rest h ih =>
      rw [shieldTags_of_plain h, List.map_cons, ← ih]
      apply tokens_of_not_tagAt?
      by_cases hb : c = '\\'
      · subst hb
        rw [takeSlashes_slash] at h ⊢
        -- What follows the backslash starts with a tag on neither side, by its tokens.
        cases rest with
        | nil => rw [shieldTags_nil]; rfl
        | cons d rest =>
            rw [tokens_of_not_tagAt? h, List.map_cons] at ih
            cases ht : tagAt? (takeSlashes (shieldTags (d :: rest))).2 with
            | none => rfl
            | some p =>
                rw [tokens_of_tagAt? ht] at ih
                exact absurd (List.cons.inj ih).1 (by simp [Token.shielded])
      · rw [takeSlashes_of_ne hb] at h ⊢
        by_cases ho : c = '['
        · subst ho
          exact tagAt?_opening_shieldTags h
        · exact tagAt?_of_ne ho _

/-- A backslash at the end of a text is a token of its own. -/
theorem tokens_append_slash (s : List Char) :
    tokens (s ++ ['\\']) = tokens s ++ [.plain '\\'] := by
  fun_induction tokens s with
  | case1 => rw [List.nil_append, tokens_of_not_tagAt? (by rfl), tokens]; rfl
  | case2 c rest body after h ih =>
      have hs := source_of_tagAt? h
      rw [hs, List.append_assoc, tokens_tag _ (isTagBody_of_tagAt? h), ih, ← hs]
      rfl
  | case3 c rest h ih =>
      rw [List.cons_append, tokens_of_not_tagAt?, ih]
      · rfl
      -- A tag at the front ends in a bracket, so it would be one without the backslash too.
      · apply tagAt?_eq_none_of_ne_source
        intro slashes body after hbody he
        cases List.eq_nil_or_concat after with
        | inl hnil =>
            subst hnil
            have hl := congrArg List.getLast? he
            rw [← List.cons_append, List.getLast?_concat, List.append_nil, Token.source,
              List.getLast?_concat] at hl
            exact absurd hl (by decide)
        | inr hcons =>
            obtain ⟨front, last, rfl⟩ := hcons
            rw [List.concat_eq_append, ← List.append_assoc, ← List.cons_append] at he
            have hf := List.append_inj_left' he rfl
            rw [hf, tagAt?_takeSlashes_source slashes hbody] at h
            exact absurd h (by simp)

theorem shieldTags_append_slash (s : List Char) :
    shieldTags (s ++ ['\\']) = shieldTags s ++ ['\\'] := by
  simp [shieldTags, tokens_append_slash, Token.escaped]

/-- The last character that a token is written with. -/
def Token.last : Token → Char
  | .plain c => c
  | .tag _ _ => ']'

theorem Token.source_eq_concat (t : Token) : ∃ front, t.source = front ++ [t.last] := by
  cases t with
  | plain c => exact ⟨[], rfl⟩
  | tag slashes body => exact ⟨_, rfl⟩

theorem Token.escaped_eq_concat (t : Token) : ∃ front, t.escaped = front ++ [t.last] := by
  cases t with
  | plain c => exact ⟨[], rfl⟩
  | tag slashes body => exact ⟨_, rfl⟩

theorem endsInLoneSlash_concat (s : List Char) {c : Char} (h : c ≠ '\\') :
    endsInLoneSlash (s ++ [c]) = false := by
  simp [endsInLoneSlash, h]

theorem endsInLoneSlash_concat_slash (s : List Char) (c : Char) :
    endsInLoneSlash (s ++ [c] ++ ['\\']) = (c != '\\') := by
  by_cases hc : c = '\\' <;> simp [endsInLoneSlash, hc]

/-- Escaped text ends in a lone backslash where the text itself does. -/
theorem endsInLoneSlash_shieldTags (s : List Char) :
    endsInLoneSlash (shieldTags s) = endsInLoneSlash s := by
  -- The last two characters decide, and escaping keeps the last one of each token.
  have key : ∀ toks : List Token, endsInLoneSlash (toks.flatMap Token.escaped) =
      endsInLoneSlash (toks.flatMap Token.source) := by
    intro toks
    rcases List.eq_nil_or_concat toks with rfl | ⟨before, t, rfl⟩
    · rfl
    · rw [List.concat_eq_append, List.flatMap_append, List.flatMap_append,
        List.flatMap_singleton, List.flatMap_singleton]
      by_cases ht : t = .plain '\\'
      · subst ht
        rcases List.eq_nil_or_concat before with rfl | ⟨first, u, rfl⟩
        · rfl
        · obtain ⟨x, hx⟩ := u.escaped_eq_concat
          obtain ⟨y, hy⟩ := u.source_eq_concat
          rw [List.concat_eq_append, List.flatMap_append, List.flatMap_append,
            List.flatMap_singleton, List.flatMap_singleton, hx, hy, ← List.append_assoc,
            ← List.append_assoc]
          exact (endsInLoneSlash_concat_slash _ _).trans (endsInLoneSlash_concat_slash _ _).symm
      · have hl : t.last ≠ '\\' := by
          cases t with
          | plain c => exact fun hc => ht (congrArg Token.plain hc)
          | tag slashes body => exact (by decide : (']' : Char) ≠ '\\')
        obtain ⟨x, hx⟩ := t.escaped_eq_concat
        obtain ⟨y, hy⟩ := t.source_eq_concat
        rw [hx, hy, ← List.append_assoc, ← List.append_assoc]
        exact (endsInLoneSlash_concat _ hl).trans (endsInLoneSlash_concat _ hl).symm
  rw [shieldTags, key, flatMap_source_tokens]

/-- The escaped form shields the tags of the text with a lone backslash at its end doubled. -/
theorem escape_eq_shieldTags (s : List Char) : escape s = shieldTags (closeSlash s) := by
  change closeSlash (shieldTags s) = shieldTags (closeSlash s)
  unfold closeSlash
  rw [endsInLoneSlash_shieldTags]
  split
  · exact (shieldTags_append_slash s).symm
  · rfl

theorem escape_nil : escape [] = [] := by
  rw [escape_eq_shieldTags]
  exact shieldTags_nil

/-- The tokens of escaped text: no tag among them has an even number of backslashes. -/
theorem tokens_escape (s : List Char) :
    tokens (escape s) = (tokens (closeSlash s)).map Token.shielded := by
  rw [escape_eq_shieldTags, tokens_shieldTags]

end NamedConstants.Markup
