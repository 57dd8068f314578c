import NamedConstants.Proofs.Json.RoundTrip

/-!
# JSON documents

Whatever JSON writes is read as a value again.  `Image` says which one: texts, integers, truth
values and nothing as themselves, sequences as lists, tables with the texts of their keys for keys,
and double-precision numbers as what their texts stand for.
-/

namespace NamedConstants.Json

/-- A key stands for the text that it is written as. -/
def KeyImage (key image : Value) : Prop :=
  ∃ s : String, keyText key = .ok s.toList ∧ image = .text s

/-- What the JSON form of a value stands for. -/
inductive Image : Value → Value → Prop where
  | null : Image .null .null
  | bool (b : Bool) : Image (.bool b) (.bool b)
  | int (i : Int) : Image (.int i) (.int i)
  | float {x y : Decimal.Binary64} (h : readScalar? (number x) = some (.float y, [])) :
      Image (.float x) (.float y)
  | text {v : Value} {s : String} (h : v.asText? = some s) : Image v (.text s)
  | list {items images : List Value} (h : List.Forall₂ Image items images) :
      Image (.list items) (.list images)
  | tuple {items images : List Value} (h : List.Forall₂ Image items images) :
      Image (.tuple items) (.list images)
  | dict {entries images : List (Value × Value)}
      (hkeys : List.Forall₂ (fun e d => KeyImage e.1 d.1) entries images)
      (hvalues : List.Forall₂ (fun e d => Image e.2 d.2) entries images) :
      Image (.dict entries) (.dict (Value.tableOf images))

/-! ## Words and numbers -/

/-- A word is read as what it stands for, also where letters follow it. -/
theorem reads_word {w : List Char × Value} (h : w ∈ words) : Reads w.1 w.2 := by
  simp only [words, List.mem_cons, List.not_mem_nil, or_false] at h
  rcases h with rfl | rfl | rfl | rfl | rfl | rfl
  · exact reads_scalar rfl rfl fun rest _ => rfl
  · exact reads_scalar rfl rfl fun rest _ => rfl
  · exact reads_scalar rfl rfl fun rest _ => rfl
  · exact reads_scalar rfl rfl fun rest _ => rfl
  · exact reads_scalar rfl rfl fun rest _ => rfl
  · exact reads_scalar rfl rfl fun rest _ => rfl

theorem isAscii_word {w : List Char × Value} (h : w ∈ words) : IsAscii w.1 := by
  have hall : ∀ w ∈ words, IsAscii w.1 := by decide
  exact hall w h

theorem readsBack_word {style : Style} {level : Nat} {v : Value} {w : List Char × Value}
    (h : w ∈ words) (hwrite : write style level v = .ok w.1) : ReadsBack style level v w.2 :=
  ⟨w.1, hwrite, isAscii_word h, reads_word h⟩

theorem readsBack_numeral {style : Style} {level : Nat} {v : Value} (n : Numeral)
    (hwrite : write style level v = .ok n.text) : ReadsBack style level v n.value :=
  ⟨n.text, hwrite, n.isAscii_text, reads_numeral n⟩

theorem readsBack_int (style : Style) (level : Nat) (i : Int) :
    ReadsBack style level (.int i) (.int i) := by
  have hback : ReadsBack style level (.int i) (Numeral.ofInt i).value :=
    readsBack_numeral _ (by rw [Numeral.text_ofInt]; rfl)
  rwa [Numeral.value_ofInt] at hback

/-- A double-precision number is read back as one. -/
theorem exists_image_float (style : Style) (level : Nat) (x : Decimal.Binary64) :
    ∃ w, Image (.float x) w ∧ ReadsBack style level (.float x) w := by
  cases x with
  | nan =>
      have hword : ("NaN".toList, Value.float .nan) ∈ words := by simp [words]
      exact ⟨_, .float rfl, readsBack_word hword rfl⟩
  | infinite negative =>
      cases negative with
      | false =>
          have hword : ("Infinity".toList, Value.float (.infinite false)) ∈ words := by
            simp [words]
          exact ⟨_, .float rfl, readsBack_word hword rfl⟩
      | true =>
          have hword : ("-Infinity".toList, Value.float (.infinite true)) ∈ words := by
            simp [words]
          exact ⟨_, .float rfl, readsBack_word hword rfl⟩
  | finite negative mantissa exponent =>
      obtain ⟨n, htext, y, hy⟩ := Numeral.exists_ofBinary64 negative mantissa exponent
      have hscalar := n.readScalar?_append standsApart_nil.endsNumber
      rw [List.append_nil, ← htext, hy] at hscalar
      have hback : ReadsBack style level (.float (.finite negative mantissa exponent)) n.value :=
        readsBack_numeral n (by rw [← htext]; rfl)
      rw [hy] at hback
      exact ⟨_, .float hscalar, hback⟩

/-! ## Keys -/

theorem exists_keyText {key : Value} (h : key.isWritableKey = true) :
    ∃ s : String, keyText key = .ok s.toList := by
  rcases keyText_cases key with ⟨-, text, htext⟩ | ⟨hnot, -⟩
  · exact ⟨String.ofList text, by rw [htext, String.toList_ofList]⟩
  · rw [h] at hnot
    cases hnot

/-! ## Values -/

/-- A sequence is read back as the list of the images of its items. -/
theorem exists_images {style : Style} {level : Nat} {v : Value} {items : List Value}
    (ih : ∀ w ∈ items, ∃ image, Image w image ∧ ReadsBack style (level + 1) w image)
    (hwrite : write style level v =
      (writeItems style (level + 1) items).map (style.enclose level '[' ']')) :
    ∃ images, List.Forall₂ Image items images ∧ ReadsBack style level v (.list images) := by
  obtain ⟨images, himages⟩ := exists_forall₂ ih
  exact ⟨images, himages.imp fun _ _ h => h.1,
    readsBack_items hwrite (himages.imp fun _ _ h => h.2)⟩

/-- A value in which there is nothing that JSON has no form for is read back as its image. -/
theorem exists_image (style : Style) (level : Nat) (v : Value) (h : v.IsSerializable) :
    ∃ w, Image v w ∧ ReadsBack style level v w := by
  -- What is inside a value is written one level deeper.
  induction v using Value.induction_on_parts generalizing level with
  | h v ih =>
      obtain ⟨hself, hheld⟩ := (Value.isSerializable_iff v).mp h
      cases v with
      | null =>
          have hword : ("null".toList, Value.null) ∈ words := by simp [words]
          exact ⟨_, .null, readsBack_word hword rfl⟩
      | bool b =>
          cases b with
          | false =>
              have hword : ("false".toList, Value.bool false) ∈ words := by simp [words]
              exact ⟨_, .bool false, readsBack_word hword rfl⟩
          | true =>
              have hword : ("true".toList, Value.bool true) ∈ words := by simp [words]
              exact ⟨_, .bool true, readsBack_word hword rfl⟩
      | int i => exact ⟨_, .int i, readsBack_int style level i⟩
      | float x => exact exists_image_float style level x
      | text s => exact ⟨_, .text rfl, readsBack_of_asText? style level rfl⟩
      | bytes bs => exact absurd (.bytes bs) hself
      | list items =>
          have hitems : ∀ w ∈ items, ∃ image, Image w image ∧
              ReadsBack style (level + 1) w image :=
            fun w hw => ih w hw (level + 1) (hheld w hw)
          obtain ⟨images, himages, hback⟩ :=
            exists_images (v := .list items) hitems (by rw [write])
          exact ⟨_, .list himages, hback⟩
      | tuple items =>
          have hitems : ∀ w ∈ items, ∃ image, Image w image ∧
              ReadsBack style (level + 1) w image :=
            fun w hw => ih w hw (level + 1) (hheld w hw)
          obtain ⟨images, himages, hback⟩ :=
            exists_images (v := .tuple items) hitems (by rw [write])
          exact ⟨_, .tuple himages, hback⟩
      | dict entries =>
          obtain ⟨hkeys, hvalues⟩ := Value.isSerializable_dict_iff.mp h
          have hentry : ∀ e ∈ entries, ∃ d : Value × Value, KeyImage e.1 d.1 ∧ Image e.2 d.2 ∧
              ReadsBack style (level + 1) e.2 d.2 := by
            intro e he
            obtain ⟨s, hs⟩ := exists_keyText (hkeys e he)
            obtain ⟨w, hw, hback⟩ :=
              ih e.2 (Value.value_mem_parts he) (level + 1) (hvalues e he)
            exact ⟨(.text s, w), ⟨s, hs, rfl⟩, hw, hback⟩
          obtain ⟨images, himages⟩ := exists_forall₂ hentry
          exact ⟨_, .dict (himages.imp fun _ _ h => h.1) (himages.imp fun _ _ h => h.2.1),
            readsBack_dict (himages.imp fun _ _ h => ⟨h.1, h.2.2⟩)⟩
      | member className base name value =>
          cases htext : (Value.member className base name value).asText? with
          | some s => exact ⟨_, .text htext, readsBack_of_asText? style level htext⟩
          | none => exact absurd (.member (by simp [Value.isText, htext])) hself

end NamedConstants.Json
