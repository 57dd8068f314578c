import NamedConstants.Diagnostics
import NamedConstants.Listing
import NamedConstants.Proofs.Run

/-!
# Printers

Tables, messages and diagnoses go to the standard error, and if they fail, it is because of the
markup, or of a value that a table cannot show (`Run.Prints`).
-/

namespace NamedConstants

open Run (Prints)

/-! ## Messages -/

theorem Failure.isForeign_markup (fault : Markup.Fault) : (Failure.markup fault).IsForeign := by
  cases fault <;> rfl

theorem Console.isForeign_of_renderMarkup {d : Markup.Dialect} {s : String} {f : Failure}
    (h : renderMarkup d s = .error f) : f.IsForeign := by
  unfold renderMarkup at h
  cases hrender : Markup.render d s.toList with
  | ok t => rw [hrender] at h; cases h
  | error fault =>
      rw [hrender] at h
      obtain rfl := Except.error.inj h
      exact Failure.isForeign_markup fault

theorem Console.isForeign_of_renderBlocks {d : Markup.Dialect} {row : List (List Char)}
    {values : List Value} {f : Failure} (h : renderBlocks d row values = .error f) :
    f.IsForeign := by
  induction values generalizing row with
  | nil => cases h
  | cons v rest ih =>
      obtain hvalue | ⟨shown, -, h⟩ := cases_of_bind_error h
      · unfold renderValue at hvalue
        split at hvalue
        · exact isForeign_of_renderMarkup hvalue
        · cases hvalue
      · split at h
        · obtain hrest | ⟨blocks, -, h⟩ := cases_of_bind_error h
          · exact ih hrest
          · cases h
        · exact ih h

theorem Console.prints_print (host : Host) (values : List Value) :
    Prints (fun _ => True) (print host values) := by
  unfold print
  split
  · split
    · rename_i failure hblocks
      exact Run.prints_fail (isForeign_of_renderBlocks hblocks)
    · exact Run.prints_err _
    · exact Run.prints_err _
  · exact Run.prints_err _

/-! ## Tables -/

namespace Table

theorem isForeign_of_rowSources {values : List Value} {f : Failure}
    (h : rowSources values = .error f) : f.IsForeign := by
  induction values with
  | nil => cases h
  | cons v rest ih =>
      obtain hcell | hrest := cases_of_items_error h
      · unfold cellSource at hcell
        split at hcell
        · cases hcell
        · split at hcell
          · cases hcell
          · obtain rfl := Except.error.inj hcell
            rfl
      · exact ih hrest

theorem isForeign_of_tableSources {rows : List (List Value)} {f : Failure}
    (h : tableSources rows = .error f) : f.IsForeign := by
  induction rows with
  | nil => cases h
  | cons row rest ih =>
      obtain hrow | hrest := cases_of_items_error h
      · exact isForeign_of_rowSources hrow
      · exact ih hrest

theorem isForeign_of_renderCells {d : Markup.Dialect} {sources : List String} {f : Failure}
    (h : renderCells d sources = .error f) : f.IsForeign := by
  induction sources with
  | nil => cases h
  | cons s rest ih =>
      obtain hcell | hrest := cases_of_items_error h
      · exact Console.isForeign_of_renderMarkup hcell
      · exact ih hrest

theorem isForeign_of_renderColumns {d : Markup.Dialect} {columns : List Column}
    {rows : List (List String)} {f : Failure} (h : renderColumns d columns rows = .error f) :
    f.IsForeign := by
  induction columns generalizing rows with
  | nil => cases h
  | cons column rest ih =>
      obtain hcells | hrest := cases_of_items_error h
      · exact isForeign_of_renderCells hcells
      · exact ih hrest

theorem isForeign_of_fieldTexts {values : List Value} {f : Failure}
    (h : fieldTexts values = .error f) : f.IsForeign := by
  induction values with
  | nil => cases h
  | cons v rest ih =>
      obtain hfield | hrest := cases_of_items_error h
      · unfold fieldText at hfield
        split at hfield
        all_goals cases hfield
        all_goals rfl
      · exact ih hrest

theorem prints_printRuled (host : Host) (title : String) (columns : List Column)
    (rows : List (List Value)) :
    Prints (fun _ => True) (printRuled host title columns rows) := by
  unfold printRuled
  refine Run.prints_bind (Run.prints_ofExcept fun _ => isForeign_of_tableSources) fun _ _ => ?_
  refine Run.prints_bind (Console.prints_print host []) fun _ _ => ?_
  refine Run.prints_bind (Run.prints_ofExcept fun _ => isForeign_of_renderColumns) fun _ _ => ?_
  refine Run.prints_bind (Run.prints_each (fun _ => Run.prints_err _) _) fun _ _ => ?_
  exact Console.prints_print host []

theorem prints_plainHead (title : String) (widths : List Nat) (headers : List String) :
    Prints (fun _ => True) (plainHead title widths headers) := by
  unfold plainHead
  refine Run.prints_bind (Run.prints_err _) fun _ _ => ?_
  refine Run.prints_bind (Run.prints_err _) fun _ _ => ?_
  exact Run.prints_bind (Run.prints_err _) fun _ _ => Run.prints_err _

end Table

/-! ## Commands -/

theorem Listing.prints_printTable (host : Host) (entries : List Entry) :
    Prints (fun _ => True) (printTable host entries) := by
  unfold printTable
  split
  · exact Table.prints_printRuled host _ _ _
  · unfold printPlain
    refine Run.prints_bind (Table.prints_plainHead _ _ _) fun _ _ => ?_
    refine Run.prints_bind (Run.prints_each (fun e => ?_) entries) fun _ _ => Run.prints_err _
    refine Run.prints_bind (Run.prints_ofExcept fun _ => ?_) fun _ _ => Run.prints_err _
    exact Table.isForeign_of_fieldTexts

/-- The table of groups that are found returns the code of success if it does not fail. -/
theorem Listing.prints_list (host : Host) {r : Registry} {selection : Option Value}
    {groups : List Group} (hsel : r.select selection = .ok groups) :
    Prints (fun code => code = 0) (list host r selection false) := by
  have hfound : ∀ f, r.select selection = .error f → f.IsForeign := by
    intro f hf
    cases hsel.symm.trans hf
  refine Run.prints_bind (Run.prints_ofExcept hfound) fun groups _ => ?_
  exact Run.prints_bind (prints_printTable host _) fun _ _ => Run.prints_pure rfl

namespace Diagnostics

theorem prints_printTable (host : Host) (checks : List Check) :
    Prints (fun _ => True) (printTable host checks) := by
  unfold printTable
  split
  · exact Table.prints_printRuled host _ _ _
  · unfold printPlain
    refine Run.prints_bind (Table.prints_plainHead _ _ _) fun _ _ => ?_
    exact Run.prints_bind (Run.prints_each (fun _ => Run.prints_err _) _) fun _ _ =>
      Run.prints_err _

theorem prints_printProblem (host : Host) (problem : String) :
    Prints (fun _ => True) (printProblem host problem) := by
  unfold printProblem
  split
  · exact Console.prints_print host _
  · exact Run.prints_err _

theorem prints_printVerdict (host : Host) (failed : Bool) :
    Prints (fun _ => True) (printVerdict host failed) := by
  unfold printVerdict
  split
  · exact Console.prints_print host _
  · exact Run.prints_err _

/-- A diagnosis returns the code of its verdict if it does not fail. -/
theorem prints_run (host : Host) (r : Registry) :
    Prints (fun code => code = 0 ∨ code = 1) (run host r) := by
  unfold run report
  refine Run.prints_bind (prints_printTable host _) fun _ _ => ?_
  refine Run.prints_bind (Run.prints_each (prints_printProblem host) _) fun _ _ => ?_
  refine Run.prints_bind (prints_printVerdict host _) fun _ _ => Run.prints_pure ?_
  split
  · exact Or.inr rfl
  · exact Or.inl rfl

end Diagnostics

end NamedConstants
