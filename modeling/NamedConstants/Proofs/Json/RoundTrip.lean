import Mathlib.Data.List.Forall2
import NamedConstants.Json.Reader
import NamedConstants.Proofs.Json.Numbers
import NamedConstants.Proofs.Json.Serializable
import NamedConstants.Proofs.Value.Equality

/-!
# Reading JSON back

What is written for a value is read as a value again.  `Reads text v` says what a reader does with
a text where a value is due, whatever stands around it, so that the parts of arrays and objects
can be read one after the other (`reads_array`, `reads_object`); `ReadsBack` says it of what is
written for a value.
-/

namespace NamedConstants.Json

/-! ## Steps of a reader -/

theorem readFrom_eq (state : State) (s : List Char) :
    readFrom state s =
      match readToken? (s.dropWhile isGap) with
      | some (token, rest) => (state.step token).bind fun next => readFrom next rest
      | none => if (s.dropWhile isGap).isEmpty then some state else none := by
  rw [readFrom]
  split
  · rename_i token rest h
    rw [h]
  · rename_i h
    rw [h]

theorem readFrom_nil (state : State) : readFrom state [] = some state :=
  readFrom_eq state []

/-- Characters between tokens do not matter. -/
theorem readFrom_gap {gap : List Char} (h : gap.all isGap = true) (state : State)
    (rest : List Char) : readFrom state (gap ++ rest) = readFrom state rest := by
  rw [readFrom_eq, readFrom_eq state rest, List.dropWhile_append_of_pos (List.all_eq_true.mp h)]

theorem readFrom_token {state next : State} {token : Token} {c : Char} {s rest : List Char}
    (hgap : isGap c = false) (h : readToken? (c :: s) = some (token, rest))
    (hstep : state.step token = some next) :
    readFrom state (c :: s) = readFrom next rest := by
  have hs : (c :: s).dropWhile isGap = c :: s := List.dropWhile_cons_of_neg (by simp [hgap])
  rw [readFrom_eq, hs, h]
  show (state.step token).bind _ = _
  rw [hstep]
  rfl

theorem isGap_of_markToken? {c : Char} {token : Token} (h : markToken? c = some token) :
    isGap c = false := by
  have hgaps : ∀ d ∈ [' ', '\t', '\n', '\r'], (markToken? d).isNone = true :=
    List.all_eq_true.mp rfl
  cases hg : isGap c with
  | false => rfl
  | true =>
      have hc : c ∈ [' ', '\t', '\n', '\r'] := by simpa [isGap, or_assoc] using hg
      have hn := hgaps c hc
      rw [h] at hn
      cases hn

/-- A mark is read by itself. -/
theorem readFrom_mark {state next : State} {token : Token} {c : Char}
    (h : markToken? c = some token) (hstep : state.step token = some next) (rest : List Char) :
    readFrom state (c :: rest) = readFrom next rest := by
  refine readFrom_token (isGap_of_markToken? h) ?_ hstep
  simp only [readToken?, h]

/-- A string is read as its text. -/
theorem readFrom_string {state next : State} {s : String}
    (hstep : state.step (.scalar (.text s)) = some next) (rest : List Char) :
    readFrom state (string s.toList ++ rest) = readFrom next rest := by
  have hs := readString?_string s.toList rest
  have htoken : readToken? (string s.toList ++ rest) = some (.scalar (.text s), rest) := by
    have hm : markToken? Text.doubleQuote = none := rfl
    simp only [string, List.cons_append, List.append_assoc, List.nil_append, readToken?, hm,
      readScalar?, if_true, hs, Option.map_some, String.ofList_toList]
  exact readFrom_token rfl htoken hstep

/-- A text that may stand behind a value: it is empty or begins with a gap or a mark. -/
def StandsApart (rest : List Char) : Prop :=
  ∀ c ∈ rest.head?, isGap c = true ∨ (markToken? c).isSome = true

theorem standsApart_nil : StandsApart [] :=
  nofun

theorem standsApart_mark {c : Char} {token : Token} (h : markToken? c = some token)
    (rest : List Char) : StandsApart (c :: rest) := by
  intro d hd
  rw [← Option.some.inj hd, h]
  exact Or.inr rfl

theorem StandsApart.append {gap rest : List Char} (hgap : gap.all isGap = true)
    (h : StandsApart rest) : StandsApart (gap ++ rest) := by
  cases gap with
  | nil => exact h
  | cons c gap =>
      intro d hd
      rw [← Option.some.inj hd]
      exact Or.inl (List.all_eq_true.mp hgap c (List.mem_cons_self ..))

theorem StandsApart.endsNumber {rest : List Char} (h : StandsApart rest) : EndsNumber rest := by
  intro c hc hnumber
  obtain ⟨-, hgap, hmark, -⟩ := of_mem_numberChars hnumber
  rcases h c hc with hc | hc
  · rw [hgap] at hc
    cases hc
  · rw [Option.isNone_iff_eq_none.mp hmark] at hc
    cases hc

/-- A reader waits for a value that belongs in a place. -/
inductive State.Awaits : State → Place → Prop where
  | value (place : Place) : Awaits (.value place) place
  | firstItem (outer : Place) : Awaits (.firstItem outer) (.item [] outer)

namespace State.Awaits

variable {state : State} {place : Place}

theorem step_scalar (h : state.Awaits place) (v : Value) :
    state.step (.scalar v) = some (place.fill v) := by
  cases h <;> rfl

theorem step_openArray (h : state.Awaits place) :
    state.step .openArray = some (.firstItem place) := by
  cases h <;> rfl

theorem step_openObject (h : state.Awaits place) :
    state.step .openObject = some (.firstKey place) := by
  cases h <;> rfl

end State.Awaits

/-! ## Texts, arrays and objects -/

/-- A text is read as a value wherever one is due. -/
def Reads (text : List Char) (v : Value) : Prop :=
  ∀ state place rest, State.Awaits state place → StandsApart rest →
    readFrom state (text ++ rest) = readFrom (place.fill v) rest

/-- A text that is read as a value is the JSON text of that value, also with gaps around. -/
theorem Reads.read? {text gap : List Char} {v : Value} (h : Reads text v)
    (hgap : gap.all isGap = true) : read? (text ++ gap) = some v := by
  have hapart := standsApart_nil.append hgap
  have hend := readFrom_gap hgap (.done v) []
  rw [List.append_nil] at hapart hend
  have hdone : readFrom (.value .document) (text ++ gap) = some (.done v) := by
    rw [h _ _ gap (.value .document) hapart, Place.fill, hend, readFrom_nil]
  rw [Json.read?, hdone]

theorem reads_string (s : String) : Reads (string s.toList) (.text s) := by
  intro state place rest hstate _
  exact readFrom_string (hstate.step_scalar (.text s)) rest

/-- A value that holds no others is read if its first character begins no other token. -/
theorem reads_scalar {c : Char} {s : List Char} {v : Value} (hgap : isGap c = false)
    (hmark : markToken? c = none)
    (h : ∀ rest, StandsApart rest → readScalar? (c :: s ++ rest) = some (v, rest)) :
    Reads (c :: s) v := by
  intro state place rest hstate hrest
  have htoken : readToken? (c :: (s ++ rest)) = some (.scalar v, rest) := by
    have hscalar := h rest hrest
    rw [List.cons_append] at hscalar
    simp only [readToken?, hmark, hscalar, Option.map_some]
  exact readFrom_token hgap htoken (hstate.step_scalar v)

theorem reads_numeral (n : Numeral) : Reads n.text n.value := by
  obtain ⟨c, s, hs, hc⟩ := n.text_eq_cons
  obtain ⟨-, hgap, hmark, -⟩ := of_mem_numberChars hc
  rw [hs]
  apply reads_scalar hgap (Option.isNone_iff_eq_none.mp hmark)
  intro rest hrest
  rw [← hs]
  exact n.readScalar?_append hrest.endsNumber

theorem Style.isGap_gap (style : Style) (level : Nat) : (style.gap level).all isGap = true := by
  cases style with
  | compact => rfl
  | indented =>
      refine List.all_eq_true.mpr ?_
      intro c hc
      rcases List.mem_cons.mp hc with rfl | hc
      · rfl
      · rw [(List.mem_replicate.mp hc).2]
        rfl

/-- A separator is a comma with a gap behind it. -/
theorem Style.separator_eq (style : Style) (level : Nat) :
    ∃ gap, style.separator level = ',' :: gap ∧ gap.all isGap = true := by
  cases style with
  | compact => exact ⟨[' '], rfl, rfl⟩
  | indented => exact ⟨Style.gap .indented level, rfl, Style.isGap_gap .indented level⟩

theorem joinWith_cons_cons (separator part next : List Char) (parts : List (List Char)) :
    Text.joinWith separator (part :: next :: parts) =
      part ++ (separator ++ Text.joinWith separator (next :: parts)) := by
  simp [Text.joinWith]

theorem joinWith_cons (separator part : List Char) (parts : List (List Char)) :
    ∃ tail, Text.joinWith separator (part :: parts) = part ++ tail := by
  cases parts with
  | nil => exact ⟨[], (List.append_nil part).symm⟩
  | cons next parts => exact ⟨_, joinWith_cons_cons ..⟩

section Enclosed

variable {separator gap : List Char} {parts : List (List Char)}

/-- The items of an array are put behind the ones before them in order, up to its closing
    bracket. -/
theorem readFrom_items (hsep : ∃ gap, separator = ',' :: gap ∧ gap.all isGap = true)
    (hgap : gap.all isGap = true) {items : List Value} (h : List.Forall₂ Reads parts items)
    (hne : parts ≠ []) {before : List Value} {outer : Place} {state : State}
    (hstate : state.Awaits (.item before outer)) (rest : List Char) :
    readFrom state (Text.joinWith separator parts ++ (gap ++ ']' :: rest)) =
      readFrom (outer.fill (.list (before ++ items))) rest := by
  -- The first item may be met in the state behind the bracket, a further one never is.
  induction h generalizing before state with
  | nil => exact absurd rfl hne
  | @cons part v parts items hpart hparts ih =>
      cases parts with
      | nil =>
          cases hparts
          have hclose : (State.nextItem (before ++ [v]) outer).step .closeArray =
              some (outer.fill (.list (before ++ [v]))) := rfl
          have hmark : markToken? ']' = some .closeArray := rfl
          have hapart := (standsApart_mark hmark rest).append hgap
          rw [Text.joinWith, hpart _ _ _ hstate hapart, readFrom_gap hgap]
          exact readFrom_mark hmark hclose rest
      | cons next parts =>
          obtain ⟨blank, rfl, hblank⟩ := hsep
          have hcomma : (State.nextItem (before ++ [v]) outer).step .comma =
              some (.value (.item (before ++ [v]) outer)) := rfl
          have hmark : markToken? ',' = some .comma := rfl
          have htail := ih (List.cons_ne_nil _ _) (.value (.item (before ++ [v]) outer))
          rw [List.append_assoc, List.singleton_append] at htail
          rw [joinWith_cons_cons, List.append_assoc, List.append_assoc, List.cons_append,
            hpart _ _ _ hstate (standsApart_mark hmark _), Place.fill, readFrom_mark hmark hcomma,
            readFrom_gap hblank]
          exact htail

/-- A text is one member of an object, with a text for its key. -/
def IsMember (part : List Char) (e : Value × Value) : Prop :=
  ∃ key text, part = string key.toList ++ ':' :: ' ' :: text ∧ e.1 = .text key ∧ Reads text e.2

/-- A member is read behind the ones before it. -/
theorem readFrom_key_member {part : List Char} {e : Value × Value} (h : IsMember part e)
    (before : List (Value × Value)) (outer : Place) {rest : List Char} (hrest : StandsApart rest) :
    readFrom (.key before outer) (part ++ rest) =
      readFrom (.nextKey (Value.insert e.1 e.2 before) outer) rest := by
  obtain ⟨name, text, rfl, he, htext⟩ := h
  have hkey : (State.key before outer).step (.scalar (.text name)) =
      some (.colon before name outer) := rfl
  have hcolon : (State.colon before name outer).step .colon =
      some (.value (.member before name outer)) := rfl
  have hblank : [' '].all isGap = true := rfl
  have hgap := readFrom_gap hblank (.value (.member before name outer)) (text ++ rest)
  have hvalue := htext _ _ rest (.value (.member before name outer)) hrest
  rw [List.append_assoc, readFrom_string hkey, List.cons_append, readFrom_mark rfl hcolon,
    List.cons_append]
  rw [List.singleton_append] at hgap
  rw [hgap, hvalue, he]
  rfl

/-- The first member is read like a further one. -/
theorem readFrom_firstKey_member {part : List Char} {e : Value × Value} (h : IsMember part e)
    (outer : Place) (rest : List Char) :
    readFrom (.firstKey outer) (part ++ rest) = readFrom (.key [] outer) (part ++ rest) := by
  obtain ⟨name, text, rfl, -, -⟩ := h
  have hfirst : (State.firstKey outer).step (.scalar (.text name)) =
      some (.colon [] name outer) := rfl
  have hkey : (State.key [] outer).step (.scalar (.text name)) =
      some (.colon [] name outer) := rfl
  rw [List.append_assoc, readFrom_string hfirst, readFrom_string hkey]

/-- The members of an object are put into it in order, up to its closing bracket. -/
theorem readFrom_members (hsep : ∃ gap, separator = ',' :: gap ∧ gap.all isGap = true)
    (hgap : gap.all isGap = true) {entries : List (Value × Value)}
    (h : List.Forall₂ IsMember parts entries) (hne : parts ≠ [])
    (before : List (Value × Value)) (outer : Place) (rest : List Char) :
    readFrom (.key before outer) (Text.joinWith separator parts ++ (gap ++ '\x7d' :: rest)) =
      readFrom (outer.fill (.dict (entries.foldl (fun t e => Value.insert e.1 e.2 t) before)))
        rest := by
  induction h generalizing before with
  | nil => exact absurd rfl hne
  | @cons part e parts entries hpart hparts ih =>
      cases parts with
      | nil =>
          cases hparts
          have hclose : (State.nextKey (Value.insert e.1 e.2 before) outer).step .closeObject =
              some (outer.fill (.dict (Value.insert e.1 e.2 before))) := rfl
          have hmark : markToken? '\x7d' = some .closeObject := rfl
          have hapart := (standsApart_mark hmark rest).append hgap
          rw [Text.joinWith, readFrom_key_member hpart before outer hapart, readFrom_gap hgap]
          exact readFrom_mark hmark hclose rest
      | cons next parts =>
          obtain ⟨blank, rfl, hblank⟩ := hsep
          have hcomma : (State.nextKey (Value.insert e.1 e.2 before) outer).step .comma =
              some (.key (Value.insert e.1 e.2 before) outer) := rfl
          have hmark : markToken? ',' = some .comma := rfl
          rw [joinWith_cons_cons, List.append_assoc, List.append_assoc, List.cons_append,
            readFrom_key_member hpart before outer (standsApart_mark hmark _),
            readFrom_mark hmark hcomma, readFrom_gap hblank]
          exact ih (List.cons_ne_nil _ _) _

end Enclosed

theorem Style.enclose_append (style : Style) (level : Nat) (opening closing : Char)
    {parts : List (List Char)} (hne : parts ≠ []) (rest : List Char) :
    style.enclose level opening closing parts ++ rest =
      opening :: (style.gap (level + 1) ++
        (Text.joinWith (style.separator (level + 1)) parts ++
          (style.gap level ++ closing :: rest))) := by
  simp [Style.enclose, hne]

/-- Items between the brackets of an array are read as the list of them. -/
theorem reads_array (style : Style) (level : Nat) {parts : List (List Char)} {items : List Value}
    (h : List.Forall₂ Reads parts items) :
    Reads (style.enclose level '[' ']' parts) (.list items) := by
  intro state place rest hstate _
  have hopen := hstate.step_openArray
  by_cases hne : parts = []
  · subst hne
    cases h
    have hclose : (State.firstItem place).step .closeArray = some (place.fill (.list [])) := rfl
    show readFrom state ('[' :: ']' :: rest) = _
    rw [readFrom_mark rfl hopen, readFrom_mark rfl hclose]
  · rw [style.enclose_append level '[' ']' hne, readFrom_mark rfl hopen,
      readFrom_gap (style.isGap_gap (level + 1))]
    exact readFrom_items (style.separator_eq (level + 1)) (style.isGap_gap level) h hne
      (.firstItem place) rest

/-- Members between the brackets of an object are read as the table of them. -/
theorem reads_object (style : Style) (level : Nat) {parts : List (List Char)}
    {entries : List (Value × Value)} (h : List.Forall₂ IsMember parts entries) :
    Reads (style.enclose level '\x7b' '\x7d' parts) (.dict (Value.tableOf entries)) := by
  intro state place rest hstate _
  have hopen := hstate.step_openObject
  cases h with
  | nil =>
      have hclose : (State.firstKey place).step .closeObject = some (place.fill (.dict [])) := rfl
      show readFrom state ('\x7b' :: '\x7d' :: rest) = _
      rw [readFrom_mark rfl hopen, readFrom_mark rfl hclose]
      rfl
  | @cons part e parts entries hpart hparts =>
      obtain ⟨tail, htail⟩ := joinWith_cons (style.separator (level + 1)) part parts
      have hmembers := readFrom_members (style.separator_eq (level + 1)) (style.isGap_gap level)
        (.cons hpart hparts) (List.cons_ne_nil _ _) [] place rest
      rw [style.enclose_append level '\x7b' '\x7d' (List.cons_ne_nil _ _),
        readFrom_mark rfl hopen, readFrom_gap (style.isGap_gap (level + 1))]
      rw [htail, List.append_assoc] at hmembers ⊢
      rw [readFrom_firstKey_member hpart, hmembers]
      rfl

/-! ## What is written for a value -/

/-- What is written for a value is ASCII and is read as a given value. -/
def ReadsBack (style : Style) (level : Nat) (v w : Value) : Prop :=
  ∃ text, write style level v = .ok text ∧ IsAscii text ∧ Reads text w

/-- A value that is a text is read back as that text. -/
theorem readsBack_of_asText? (style : Style) (level : Nat) {v : Value} {s : String}
    (h : v.asText? = some s) : ReadsBack style level v (.text s) :=
  ⟨string s.toList, write_of_asText? style level h, isAscii_string s.toList, reads_string s⟩

theorem isAscii_gap (style : Style) (level : Nat) : IsAscii (style.gap level) := by
  intro c hc
  have hgap := List.all_eq_true.mp (style.isGap_gap level) c hc
  have hgaps : IsAscii [' ', '\t', '\n', '\r'] := by decide
  exact hgaps c (by simpa [isGap, or_assoc] using hgap)

theorem isAscii_separator (style : Style) (level : Nat) : IsAscii (style.separator level) := by
  cases style with
  | compact => exact show IsAscii [',', ' '] by decide
  | indented =>
      have hcomma : IsAscii [','] := by decide
      exact hcomma.append (isAscii_gap .indented level)

theorem isAscii_joinWith {separator : List Char} (hs : IsAscii separator)
    {parts : List (List Char)} (h : ∀ part ∈ parts, IsAscii part) :
    IsAscii (Text.joinWith separator parts) := by
  induction parts with
  | nil =>
      intro c hc
      cases hc
  | cons part parts ih =>
      have hpart := h part (List.mem_cons_self ..)
      cases parts with
      | nil => exact hpart
      | cons next parts =>
          exact (hpart.append hs).append (ih fun p hp => h p (List.mem_cons_of_mem _ hp))

theorem isAscii_enclose (style : Style) (level : Nat) {opening closing : Char}
    (hopen : IsAscii [opening]) (hclose : IsAscii [closing]) {parts : List (List Char)}
    (h : ∀ part ∈ parts, IsAscii part) : IsAscii (style.enclose level opening closing parts) := by
  unfold Style.enclose
  split
  · exact hopen.append hclose
  · have hparts := isAscii_joinWith (isAscii_separator style (level + 1)) h
    exact (((hopen.append (isAscii_gap style (level + 1))).append hparts).append
      (isAscii_gap style level)).append hclose

/-- Items are written as the items of an array. -/
theorem writeItems_parts {style : Style} {level : Nat} {items decoded : List Value}
    (h : List.Forall₂ (ReadsBack style level) items decoded) :
    ∃ parts, writeItems style level items = .ok parts ∧ (∀ part ∈ parts, IsAscii part) ∧
      List.Forall₂ Reads parts decoded := by
  induction h with
  | nil => exact ⟨[], rfl, fun part hp => (List.not_mem_nil hp).elim, .nil⟩
  | @cons v w items decoded hv hrest ih =>
      obtain ⟨text, htext, htextAscii, hreads⟩ := hv
      obtain ⟨parts, hparts, hascii, hall⟩ := ih
      refine ⟨text :: parts, ?_, List.forall_mem_cons.mpr ⟨htextAscii, hascii⟩, .cons hreads hall⟩
      rw [writeItems, htext, hparts]
      rfl

/-- A sequence whose items are read back is read back as the list of what they are read as. -/
theorem readsBack_items {style : Style} {level : Nat} {v : Value} {items decoded : List Value}
    (hwrite : write style level v =
      (writeItems style (level + 1) items).map (style.enclose level '[' ']'))
    (h : List.Forall₂ (ReadsBack style (level + 1)) items decoded) :
    ReadsBack style level v (.list decoded) := by
  obtain ⟨parts, hparts, hascii, hreads⟩ := writeItems_parts h
  refine ⟨style.enclose level '[' ']' parts, ?_,
    isAscii_enclose style level (by decide) (by decide) hascii, reads_array style level hreads⟩
  rw [hwrite, hparts]
  rfl

/-- An entry is written to be read back as another one, whose key is the text of its key. -/
def EntryReadsBack (style : Style) (level : Nat) (e d : Value × Value) : Prop :=
  (∃ key : String, keyText e.1 = .ok key.toList ∧ d.1 = .text key) ∧
    ReadsBack style level e.2 d.2

/-- The entries of a table are written as the members of an object. -/
theorem writeEntries_members {style : Style} {level : Nat} {entries decoded : List (Value × Value)}
    (h : List.Forall₂ (EntryReadsBack style level) entries decoded) :
    ∃ parts, writeEntries style level entries = .ok parts ∧ (∀ part ∈ parts, IsAscii part) ∧
      List.Forall₂ IsMember parts decoded := by
  induction h with
  | nil => exact ⟨[], rfl, fun part hp => (List.not_mem_nil hp).elim, .nil⟩
  | @cons e d entries decoded he hrest ih =>
      obtain ⟨parts, hparts, hascii, hmembers⟩ := ih
      obtain ⟨⟨key, hkey, hdkey⟩, text, htext, htextAscii, hreads⟩ := he
      obtain ⟨k, v⟩ := e
      have hcolon : IsAscii [':', ' '] := by decide
      have hpart : IsAscii (string key.toList ++ ':' :: ' ' :: text) :=
        (isAscii_string _).append (hcolon.append htextAscii)
      refine ⟨(string key.toList ++ ':' :: ' ' :: text) :: parts, ?_,
        List.forall_mem_cons.mpr ⟨hpart, hascii⟩, .cons ⟨key, text, rfl, hdkey, hreads⟩ hmembers⟩
      rw [writeEntries, hkey, htext, hparts]
      rfl

/-- A table whose entries are read back is read back as the table of what they are read as. -/
theorem readsBack_dict {style : Style} {level : Nat} {entries decoded : List (Value × Value)}
    (h : List.Forall₂ (EntryReadsBack style (level + 1)) entries decoded) :
    ReadsBack style level (.dict entries) (.dict (Value.tableOf decoded)) := by
  obtain ⟨parts, hparts, hascii, hmembers⟩ := writeEntries_members h
  refine ⟨style.enclose level '\x7b' '\x7d' parts, ?_,
    isAscii_enclose style level (by decide) (by decide) hascii, reads_object style level hmembers⟩
  rw [write, hparts]
  rfl

/-- The document of a value that is read back. -/
theorem document_of_readsBack {v w : Value} (h : ReadsBack .indented 0 v w) :
    ∃ text, document v = .ok (String.ofList text) ∧ IsAscii text ∧ Reads text w := by
  obtain ⟨text, htext, hascii, hreads⟩ := h
  refine ⟨text, ?_, hascii, hreads⟩
  rw [document, htext]
  rfl

end NamedConstants.Json
