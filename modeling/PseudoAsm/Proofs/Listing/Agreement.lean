import PseudoAsm.Proofs.Listing.Lines
import PseudoAsm.Proofs.Statement.Tokens
import PseudoAsm.Proofs.Table.Select
import PseudoAsm.Table.Builtin

/-!
# A listing and its statements one by one

A listing chooses the forms of its statements before the labels are known, and keeps of each line
only the words before the comment, with single blanks between them. Neither matters in the end:
every item is what the text that was kept of its line is expanded to, on its own, at the address of
the item and with all labels of the listing in scope. Statements that were passed through are those
that would be refused.
-/

namespace PseudoAsm.Listing

variable {expander : Expander} {wanted : Option Variant}

/-- Whether more than blanks stands between the labels of a line and its comment. -/
def hasStatement (line : Text) : Bool :=
  (Statement.code (codeOf line)).any (!Text.isBlank ·)

/-- An item gives the same as the statement of its line when this is expanded on its own. -/
structure Agrees (expander : Expander) (wanted : Option Variant) (scope : Scope) (line : Text)
    (item : Item) : Prop where
  source : item.source = Statement.source (codeOf line)
  tokens : Statement.tokenize item.source = Statement.tokenize (codeOf line)
  expanded : item.isPseudo = true →
    expander.expand wanted scope item.address item.source = .ok item.expansion
  passedThrough : item.isPseudo = false → item.expansion.statements = [item.source] ∧
    ∃ statement error, Statement.read? item.source = some statement ∧
      Table.Refusal statement error ∧ ∀ (wanted : Option Variant) (scope : Scope) (pc : Int),
        expander.expand wanted scope pc item.source = .error error

theorem hasStatement_eq_false_iff {line : Text} :
    hasStatement line = false ↔ Statement.read? (codeOf line) = none := by
  simp [hasStatement, Statement.read?_eq_none_iff]

theorem hasStatement_of_read? {line : Text} {statement : Statement}
    (read : Statement.read? (codeOf line) = some statement) : hasStatement line = true := by
  rw [← Bool.not_eq_false, hasStatement_eq_false_iff, read]
  exact Option.some_ne_none statement

/-- What is kept of a line is read as the same statement, so it meets the same form. -/
theorem agrees_of_lineItem {scope : Scope} {line : Text} {item : Item}
    (lineItem : LineItem expander wanted scope line (some item)) :
    hasStatement line = true ∧ Agrees expander wanted scope line item := by
  cases lineItem with
  | @basic statement error address read refused =>
      have kept : Statement.read? (Statement.source (codeOf line)) = some statement := by
        rw [Statement.read?_source, read]
      refine ⟨hasStatement_of_read? read, rfl, Statement.tokenize_source _, by simp, ?_⟩
      intro _
      refine ⟨rfl, statement, error, kept, Table.refusal_of_select_eq_error refused, ?_⟩
      intro wanted scope pc
      exact Expander.expand_eq_error_of_select kept refused
  | @pseudo statement form expansion address read selected expanded =>
      have kept : Statement.read? (Statement.source (codeOf line)) = some statement := by
        rw [Statement.read?_source, read]
      refine ⟨hasStatement_of_read? read, rfl, Statement.tokenize_source _, ?_, by simp⟩
      intro _
      exact (Expander.expand_eq_ok_iff kept).2 ⟨form, selected, expanded⟩

/-- Line by line, the items agree with their statements. -/
theorem forall₂_agrees_of_lineItems {scope : Scope} {lines : List Text}
    {contributions : List (Option Item)}
    (lineItems : List.Forall₂ (LineItem expander wanted scope) lines contributions) :
    List.Forall₂ (Agrees expander wanted scope) (lines.filter hasStatement)
      contributions.reduceOption := by
  induction lineItems with
  | nil => exact .nil
  | @cons line contribution lines contributions lineItem _ ih =>
      cases contribution with
      | none =>
          have blank : hasStatement line = false := by
            cases lineItem with
            | blank unread => exact hasStatement_eq_false_iff.2 unread
          rw [List.filter_cons_of_neg (by simp [blank]), List.reduceOption_cons_of_none]
          exact ih
      | some item =>
          rcases agrees_of_lineItem lineItem with ⟨statement, agrees⟩
          rw [List.filter_cons_of_pos statement, List.reduceOption_cons_of_some]
          exact .cons agrees ih

/-- The labels of placed lines, in the order of the lines, each at the address of its line. -/
def placedSymbols (placed : List PlacedLine) : List Symbol :=
  placed.flatMap fun line => line.labels.map fun label => ⟨label, Word.ofInt line.address⟩

/-- The table of a listing holds the labels where they were placed. -/
theorem symbols_of_labels_eq_ok {placed : List PlacedLine} {table : SymbolTable}
    (labelsOk : labels placed = .ok table) : table.symbols = placedSymbols placed := by
  rw [SymbolTable.symbols_of_ofDefinitions_eq_ok labelsOk, placedSymbols, List.map_flatMap]
  simp only [PlacedLine.definitions, List.map_map]
  rfl

/-- The items of a listing are its statements, in order, each expanded as if it stood alone where
its item stands, in the scope of all labels of the listing. -/
theorem items_agree_with_statements {outer : Scope} {start : Option Int} {lines : List Text}
    {items : List Item}
    (success : (ofLines expander wanted outer start lines).result = .ok items) :
    ∃ table : SymbolTable,
      table.symbols =
        placedSymbols (layout expander wanted (start.getD expander.textBase) lines) ∧
      List.Forall₂ (Agrees expander wanted (table :: outer)) (lines.filter hasStatement) items := by
  rcases exists_linesExpanded_of_ofLines_eq_ok success with
    ⟨table, contributions, labelsOk, expanded, rfl⟩
  exact ⟨table, symbols_of_labels_eq_ok labelsOk, forall₂_agrees_of_lineItems expanded.lineItems⟩

/-- A listing with comments and blanks, a label that hides one from outside, and a statement that
is no pseudo-instruction. -/
def countdown : Listing :=
  ofLines ⟨Table.builtin, .standard, 0x400000⟩ none
    [⟨SymbolTable.globalName, [⟨"end".toList, 0x100⟩], by decide⟩] none
    ["# count".toList, "loop:\tla  t0 , end # ahead".toList, "  addi\tt0 ,t0, -1# kept".toList,
      "".toList, "end: BNEZ t0, loop".toList]

theorem items_agree_with_statements_countdown :
    ∃ items, countdown.result = .ok items ∧
      items.map (fun item => (item.source, item.isPseudo)) =
        [("la t0 , end".toList, true), ("addi t0 ,t0, -1".toList, false),
          ("BNEZ t0, loop".toList, true)] ∧
      ∃ table : SymbolTable,
        table.symbols = [⟨"loop".toList, 0x400000⟩, ⟨"end".toList, 0x40000c⟩] ∧
        List.Forall₂
          (Agrees ⟨Table.builtin, .standard, 0x400000⟩ none
            [table, ⟨SymbolTable.globalName, [⟨"end".toList, 0x100⟩], by decide⟩])
          ["loop:\tla  t0 , end # ahead".toList, "  addi\tt0 ,t0, -1# kept".toList,
            "end: BNEZ t0, loop".toList] items := by
  have sources : countdown.result.map (List.map fun item => (item.source, item.isPseudo)) =
      .ok [("la t0 , end".toList, true), ("addi t0 ,t0, -1".toList, false),
        ("BNEZ t0, loop".toList, true)] := rfl
  rcases Outcome.map_eq_ok_iff.1 sources with ⟨items, success, kept⟩
  rcases items_agree_with_statements success with ⟨table, symbols, agree⟩
  exact ⟨items, success, kept, table, symbols, agree⟩

end PseudoAsm.Listing
