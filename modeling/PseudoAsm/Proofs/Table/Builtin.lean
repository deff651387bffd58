import PseudoAsm.Proofs.Table.Select
import PseudoAsm.Table.Builtin

/-!
# The mnemonics of the built-in table

All mnemonics of the built-in table are in lower case, and all but the load of an immediate belong
to a single form. For these mnemonics a form is selected whenever it accepts the operands.
-/

namespace PseudoAsm.Table

/-- The mnemonics of the built-in forms, in the order of the forms. -/
def builtinMnemonics : List Text :=
  ["nop", "mv", "not", "neg", "seqz", "snez", "sltz", "sgtz", "beqz", "bnez", "bgez", "bltz",
    "bgtz", "blez", "bgt", "ble", "bgtu", "bleu", "b", "j", "jal", "jr", "jalr", "ret", "call",
    "tail", "li", "li", "la", "lb", "lh", "lw", "lbu", "lhu", "sb", "sh", "sw"].map String.toList

theorem map_mnemonic_builtinForms : builtinForms.map Form.mnemonic = builtinMnemonics := by
  decide +kernel

theorem lowercase_of_mem_builtinMnemonics :
    ∀ mnemonic ∈ builtinMnemonics, Text.lowercase mnemonic = mnemonic := by
  decide +kernel

variable {form : Form} {statement : Statement} {mnemonic : Text}

theorem formsOf_builtin :
    builtin.formsOf mnemonic =
      builtinForms.filter fun form => form.mnemonic = Text.lowercase mnemonic := by
  rw [formsOf_eq_filter]
  apply List.filter_congr
  intro form member
  have known : form.mnemonic ∈ builtinMnemonics := by
    rw [← map_mnemonic_builtinForms]
    exact List.mem_map_of_mem member
  rw [lowercase_of_mem_builtinMnemonics _ known]

/-- The built-in forms of a mnemonic, in any case. -/
theorem mem_formsOf_builtin_iff :
    form ∈ builtin.formsOf mnemonic ↔
      form ∈ builtinForms ∧ form.mnemonic = Text.lowercase mnemonic := by
  rw [formsOf_builtin, List.mem_filter, decide_eq_true_eq]

theorem length_formsOf_builtin :
    (builtin.formsOf mnemonic).length = builtinMnemonics.count (Text.lowercase mnemonic) := by
  rw [formsOf_builtin, ← List.countP_eq_length_filter, ← map_mnemonic_builtinForms,
    List.count_eq_countP, List.countP_map]
  apply List.countP_congr
  intro form _
  simp

/-- A form whose mnemonic stands only once in the table is selected if it accepts the operands. -/
theorem select_builtin_eq_ok (member : form ∈ builtin.formsOf statement.mnemonic)
    (once : builtinMnemonics.count (Text.lowercase statement.mnemonic) = 1)
    (accepted : form.accepts statement.operands = true) :
    builtin.select statement = .ok form := by
  rw [← length_formsOf_builtin, List.length_eq_one_iff] at once
  rcases once with ⟨only, equal⟩
  rw [equal, List.mem_singleton] at member
  subst member
  simp [select_eq_ok_iff, equal, accepted]

end PseudoAsm.Table
