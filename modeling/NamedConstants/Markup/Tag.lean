/-!
# Tags

In markup a tag is an opening bracket, a lower-case ASCII letter or one of `#`, `/` and
`@`, and anything but an opening bracket up to the next closing bracket; it may span
lines.  Backslashes right in front of a tag belong to it.  `tokens` cuts a text into tags
with their backslashes and the characters between them.

Writing the tokens back gives the text (`flatMap_source_tokens`).
-/

namespace NamedConstants.Markup

/-- Characters that may follow the opening bracket of a tag. -/
def opensTag (c : Char) : Bool :=
  ('a'.toNat ≤ c.toNat && c.toNat ≤ 'z'.toNat) || c == '#' || c == '/' || c == '@'

/-- The text up to the next closing bracket, with what stands behind that; nothing if an
    opening bracket or the end comes first. -/
def untilClose? : List Char → Option (List Char × List Char)
  | [] => none
  | c :: rest =>
      if c = ']' then some ([], rest)
      else if c = '[' then none
      else (untilClose? rest).map fun (body, after) => (c :: body, after)

/-- The tag at the front of a text, by what stands between its brackets, with what stands
    behind it. -/
def tagAt? : List Char → Option (List Char × List Char)
  | '[' :: c :: rest =>
      if opensTag c then (untilClose? rest).map fun (body, after) => (c :: body, after) else none
  | _ => none

/-- A piece of markup. -/
inductive Token where
  /-- A character outside all tags. -/
  | plain (c : Char)
  /-- A tag with the number of backslashes in front of it and the text between its
      brackets. -/
  | tag (slashes : Nat) (body : List Char)
  deriving DecidableEq, Repr

/-- The characters that a token is written with. -/
def Token.source : Token → List Char
  | .plain c => [c]
  | .tag slashes body => List.replicate slashes '\\' ++ '[' :: body ++ [']']

/-- Splits off the backslashes at the front: how many there are, and the text behind
    them. -/
def takeSlashes : List Char → Nat × List Char
  | [] => (0, [])
  | c :: rest =>
      if c = '\\' then ((takeSlashes rest).1 + 1, (takeSlashes rest).2) else (0, c :: rest)

/-- The backslashes and the text behind them make up the whole. -/
theorem takeSlashes_source (s : List Char) :
    List.replicate (takeSlashes s).1 '\\' ++ (takeSlashes s).2 = s := by
  induction s with
  | nil => rfl
  | cons c s ih =>
      by_cases hc : c = '\\'
      · subst hc
        simpa [takeSlashes, List.replicate_succ] using ih
      · simp [takeSlashes, hc]

/-- The text up to a closing bracket, that bracket and the text behind it make up the
    whole. -/
theorem untilClose?_source {s body after : List Char} (h : untilClose? s = some (body, after)) :
    s = body ++ ']' :: after := by
  induction s generalizing body after with
  | nil => simp [untilClose?] at h
  | cons c s ih =>
      by_cases hc : c = ']'
      · subst hc
        simp only [untilClose?, if_true, Option.some.injEq, Prod.mk.injEq] at h
        simp [← h.1, h.2]
      · by_cases ho : c = '['
        · simp [untilClose?, ho] at h
        · simp only [untilClose?, hc, ho, if_false, Option.map_eq_some_iff] at h
          obtain ⟨⟨b, a⟩, hb, he⟩ := h
          simp only [Prod.mk.injEq] at he
          obtain ⟨rfl, rfl⟩ := he
          rw [ih hb]
          rfl

/-- A tag, written back, and the text behind it make up the whole. -/
theorem tagAt?_source {s body after : List Char} (h : tagAt? s = some (body, after)) :
    s = '[' :: body ++ ']' :: after := by
  unfold tagAt? at h
  split at h
  · split at h
    · simp only [Option.map_eq_some_iff] at h
      obtain ⟨⟨b, a⟩, hb, he⟩ := h
      simp only [Prod.mk.injEq] at he
      obtain ⟨rfl, rfl⟩ := he
      rw [untilClose?_source hb]
      rfl
    · simp at h
  · simp at h

/-- What stands behind a tag is shorter than the text that starts with it. -/
theorem tagAt?_length {s body after : List Char}
    (h : tagAt? (takeSlashes s).2 = some (body, after)) : after.length < s.length := by
  have hs := takeSlashes_source s
  rw [tagAt?_source h] at hs
  rw [← hs]
  simp
  omega

set_option linter.unusedVariables false in
/-- Cuts a text into tags and the characters between them. -/
def tokens : List Char → List Token
  | [] => []
  | c :: rest =>
      match h : tagAt? (takeSlashes (c :: rest)).2 with
      | some (body, after) => .tag (takeSlashes (c :: rest)).1 body :: tokens after
      | none => .plain c :: tokens rest
termination_by s => s.length
decreasing_by
  · exact tagAt?_length h
  · simp

/-- Writing the tokens of a text back gives the text. -/
theorem flatMap_source_tokens (s : List Char) : (tokens s).flatMap Token.source = s := by
  fun_induction tokens s with
  | case1 => rfl
  | case2 c rest body after h ih =>
      have hs := takeSlashes_source (c :: rest)
      rw [tagAt?_source h] at hs
      simp only [List.flatMap_cons, Token.source, ih]
      simpa using hs
  | case3 c rest _ ih => simp [Token.source, ih]

end NamedConstants.Markup
