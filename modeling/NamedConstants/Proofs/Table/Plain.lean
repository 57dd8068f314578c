import Mathlib.Data.List.DropRight
import NamedConstants.Proofs.Run
import NamedConstants.Proofs.Text.Lines
import NamedConstants.Table.Plain

/-!
# Laws of plain tables

A plain table is a list of lines: what stands above the rows, a line for each row and an empty
line (`plainTable_eq`).  A row can be read back although its fields run over (`readFields`): a field
in front of the last one ends at the first space, and the next one starts where the column ends or,
if the field is longer than that, one space behind it (`readRows_unlines`).
-/

namespace NamedConstants.Table

/-- The lines of a plain table with the given rows. -/
def plainLines (title : String) (widths : List Nat) (headers : List String)
    (rows : List (List String)) : List (List Char) :=
  [] :: title.toList :: (rule '=').toList :: (plainRow widths headers).toList ::
    (rule '-').toList :: rows.map (fun row => (plainRow widths row).toList) ++ [[]]

theorem errLine_toList (s : String) :
    Run.errLine s = Run.err (String.ofList (Text.unlines [s.toList])) := by
  rw [← String.ofList_toList (s := s), Run.errLine_ofList]
  simp [Text.unlines]

theorem plainHead_eq (title : String) (widths : List Nat) (headers : List String) :
    plainHead title widths headers =
      Run.err (String.ofList (Text.unlines [[], title.toList, (rule '=').toList,
        (plainRow widths headers).toList, (rule '-').toList])) := by
  unfold plainHead
  simp only [Run.bind_eq, errLine_toList, Run.err_bind_err, ← String.ofList_append]
  congr 1
  simp [Text.unlines]

/-- Rows that are written one by one below the head, and the empty line that follows. -/
theorem plainTable_eq {α : Type} (title : String) (widths : List Nat) (headers : List String)
    {action : α → Run Unit} {row : α → List String} {items : List α}
    (h : ∀ a ∈ items, action a = Run.errLine (plainRow widths (row a))) :
    (do plainHead title widths headers
        Run.each action items
        Run.errLine "") =
      Run.err (String.ofList
        (Text.unlines (plainLines title widths headers (items.map row)))) := by
  have hrows : Run.each action items = Run.err (String.ofList
      (Text.unlines (items.map fun a => (plainRow widths (row a)).toList))) := by
    rw [Text.unlines, List.flatMap_map]
    apply Run.each_err
    intro a ha
    rw [h a ha, errLine_toList]
    simp [Text.unlines]
  simp only [Run.bind_eq, plainHead_eq, hrows, errLine_toList, Run.err_bind_err,
    ← String.ofList_append, ← Text.unlines_append]
  simp [plainLines, Function.comp_def]

/-- A value that is a text has its display form in its field. -/
theorem fieldText_of_isText {v : Value} (h : v.isText = true) : fieldText v = .ok v.display := by
  cases v <;> first | rfl | cases h

theorem fieldTexts_of_isText {values : List Value} (h : ∀ v ∈ values, v.isText = true) :
    fieldTexts values = .ok (values.map Value.display) := by
  induction values with
  | nil => rfl
  | cons v values ih =>
      obtain ⟨hv, hvalues⟩ := List.forall_mem_cons.mp h
      rw [fieldTexts, fieldText_of_isText hv, ih hvalues]
      rfl

/-! ## Reading rows -/

/-- The fields of a row: each but the last one goes up to the first space, the last one up to the
    spaces at the end. -/
def readFields : List Nat → List Char → List (List Char)
  | [], _ => []
  | [_], s => [s.rdropWhile fun c => c == ' ']
  | width :: widths, s =>
      let field := s.takeWhile fun c => c != ' '
      field :: readFields widths (s.drop (max width field.length + 1))

/-- There is a field for each column; none but the last one holds a space, and that one does not
    end in one. -/
def Separable : List Nat → List (List Char) → Prop
  | [_], [field] => field.getLast? ≠ some ' '
  | _ :: widths, field :: fields => ' ' ∉ field ∧ Separable widths fields
  | _, _ => False

section Reading

variable {widths : List Nat} {width : Nat} {field : List Char}

theorem length_padRight : (Text.padRight width field).length = max width field.length := by
  rw [Text.padRight, List.length_append, List.length_replicate]
  omega

/-- Only the fill is taken away from a field that does not end in a space. -/
theorem rdropWhile_padRight (h : field.getLast? ≠ some ' ') :
    (Text.padRight width field).rdropWhile (fun c => c == ' ') = field := by
  rw [Text.padRight]
  induction width - field.length with
  | zero =>
      rw [List.replicate_zero, List.append_nil, List.rdropWhile_eq_self_iff]
      intro hne hlast
      rw [beq_iff_eq] at hlast
      exact h (by rw [List.getLast?_eq_some_getLast hne, hlast])
  | succ n ih =>
      rw [List.replicate_succ', ← List.append_assoc, List.rdropWhile_concat_pos _ _ _ rfl, ih]

/-- A field without spaces is what stands in front of the first one, whether that belongs to the
    fill or comes behind it. -/
theorem takeWhile_padRight (h : ' ' ∉ field) (rest : List Char) :
    (Text.padRight width field ++ ' ' :: rest).takeWhile (fun c => c != ' ') = field := by
  have hfield : ∀ c ∈ field, (c != ' ') = true := by
    intro c hc
    exact bne_iff_ne.mpr fun he => h (he ▸ hc)
  rw [Text.padRight, List.append_assoc, List.takeWhile_append_of_pos hfield]
  cases width - field.length with
  | zero => simp
  | succ n => simp [List.replicate_succ]

/-- The fields of a row are read back, be they shorter or longer than their columns. -/
theorem readFields_plainFields {fields : List (List Char)} (h : Separable widths fields) :
    readFields widths (plainFields widths fields) = fields := by
  fun_induction Separable widths fields with
  | case1 width field => rw [plainFields, readFields, rdropWhile_padRight h]
  | case2 width widths field fields hlast ih =>
      obtain ⟨hfield, hrest⟩ := h
      obtain ⟨next, others, rfl⟩ : ∃ next others, widths = next :: others := by
        cases widths with
        | nil => cases hrest
        | cons next others => exact ⟨next, others, rfl⟩
      have hskip : (Text.padRight width field ++ ' ' :: plainFields (next :: others) fields).drop
          (max width field.length + 1) = plainFields (next :: others) fields := by
        rw [← length_padRight, List.append_cons, List.drop_left' (by simp)]
      rw [plainFields, readFields, takeWhile_padRight hfield, hskip, ih hrest]
      · exact fun h => List.cons_ne_nil _ _ h
      · exact fun h => List.cons_ne_nil _ _ h
  | case3 => exact h.elim

/-- A row is made of the characters of its fields and of spaces. -/
theorem mem_plainFields {fields : List (List Char)} {c : Char} (h : c ∈ plainFields widths fields) :
    c = ' ' ∨ ∃ field ∈ fields, c ∈ field := by
  have hpad : ∀ {width : Nat} {field : List Char}, c ∈ Text.padRight width field →
      c = ' ' ∨ c ∈ field := by
    intro width field hc
    rw [Text.padRight, List.mem_append] at hc
    exact hc.elim Or.inr fun hfill => Or.inl (List.eq_of_mem_replicate hfill)
  fun_induction plainFields widths fields with
  | case1 width field rest =>
      exact (hpad h).imp_right fun hc => ⟨field, List.mem_cons_self .., hc⟩
  | case2 width widths field fields _ ih =>
      obtain hc | hc := List.mem_append.mp h
      · exact (hpad hc).imp_right fun hc => ⟨field, List.mem_cons_self .., hc⟩
      · obtain rfl | hc := List.mem_cons.mp hc
        · exact Or.inl rfl
        · obtain hc | ⟨other, hother, hc⟩ := ih hc
          · exact Or.inl hc
          · exact Or.inr ⟨other, List.mem_cons_of_mem _ hother, hc⟩
  | case3 => cases h

end Reading

/-- The rows of a table, which stand between the five lines of the head and the empty line at the
    end. -/
def readRows (widths : List Nat) (text : List Char) : List (List String) :=
  (((Text.splitAtChar '\n' text).drop 5).dropLast.dropLast).map fun line =>
    (readFields widths line).map String.ofList

/-- The rows of a plain table are read back from its text. -/
theorem readRows_unlines {title : String} {widths : List Nat} {headers : List String}
    {rows : List (List String)} (htitle : '\n' ∉ title.toList)
    (hheaders : ∀ s ∈ headers, '\n' ∉ s.toList)
    (hrows : ∀ row ∈ rows, Separable widths (row.map String.toList))
    (hlines : ∀ row ∈ rows, ∀ s ∈ row, '\n' ∉ s.toList) :
    readRows widths (Text.unlines (plainLines title widths headers rows)) = rows := by
  have hrule : ∀ c : Char, c ≠ '\n' → '\n' ∉ (rule c).toList := by
    intro c hc hmem
    rw [rule, String.toList_ofList] at hmem
    exact hc (List.eq_of_mem_replicate hmem).symm
  have hrow : ∀ row : List String, (∀ s ∈ row, '\n' ∉ s.toList) →
      '\n' ∉ (plainRow widths row).toList := by
    intro row hs hmem
    rw [plainRow, String.toList_ofList] at hmem
    obtain hc | ⟨field, hfield, hc⟩ := mem_plainFields hmem
    · exact absurd hc (by decide)
    · obtain ⟨s, hmem, rfl⟩ := List.mem_map.mp hfield
      exact hs s hmem hc
  have hall : ∀ line ∈ plainLines title widths headers rows, '\n' ∉ line := by
    intro line hline
    simp only [plainLines, List.cons_append, List.mem_cons, List.mem_append, List.mem_map,
      List.not_mem_nil, or_false] at hline
    obtain rfl | rfl | rfl | rfl | rfl | ⟨row, hmem, rfl⟩ | rfl := hline
    · exact List.not_mem_nil
    · exact htitle
    · exact hrule '=' (by decide)
    · exact hrow headers hheaders
    · exact hrule '-' (by decide)
    · exact hrow row (hlines row hmem)
    · exact List.not_mem_nil
  have hread : ∀ row ∈ rows,
      (readFields widths (plainRow widths row).toList).map String.ofList = row := by
    intro row hmem
    rw [plainRow, String.toList_ofList, readFields_plainFields (hrows row hmem), List.map_map]
    simp [Function.comp_def]
  rw [readRows, Text.splitAtChar_unlines hall, plainLines]
  simp only [List.cons_append, List.drop_succ_cons, List.drop_zero, List.dropLast_concat,
    List.map_map]
  exact (List.map_congr_left hread).trans (List.map_id _)

end NamedConstants.Table
