import PseudoAsm.Table.Basic

/-!
# The built-in table

The pseudo-instructions of the base instruction set. Of the forms that share a mnemonic the more
special one comes first, since the first form that accepts the operands is selected: an immediate
of twelve bits is loaded by one instruction, any other by two.

The compact recipes take it that labels lie in the first or the last 2 KiB of the address space, so
that an address fits the low field of one instruction.
-/

namespace PseudoAsm.Table

/-- A form that has a standard recipe only. -/
def plainForm (usage : String) (recipe : List String) (description : String) : Form :=
  ⟨usage.toList, some (recipe.map String.toList), none, description.toList⟩

/-- A load from the address of a label. -/
def loadForm (mnemonic : String) : Form :=
  ⟨(mnemonic ++ " t1,label").toList,
    some ["auipc RG1, PCH2".toList, (mnemonic ++ " RG1, PCL2(RG1)").toList],
    some [(mnemonic ++ " RG1, LL2(x0)").toList],
    ("Load from label : " ++ mnemonic ++ " t1 from the address of label").toList⟩

/-- A store at the address of a label, with a register for the address. -/
def storeForm (mnemonic : String) : Form :=
  ⟨(mnemonic ++ " t1,label,t2").toList,
    some ["auipc RG3, PCH2".toList, (mnemonic ++ " RG1, PCL2(RG3)").toList],
    some [(mnemonic ++ " RG1, LL2(x0)").toList],
    ("Store to label : " ++ mnemonic ++
      " t1 at the address of label, using t2 as scratch").toList⟩

/-- A load of the address of a label. -/
def loadAddressForm : Form :=
  ⟨"la t1,label".toList,
    some ["auipc RG1, PCH2".toList, "addi RG1, RG1, PCL2".toList],
    some ["addi RG1, x0, LL2".toList],
    "Load Address : Set t1 to label's address".toList⟩

/-- The built-in forms, the more special ones first. -/
def builtinForms : List Form := [
  plainForm "nop" ["addi x0, x0, 0"] "NO OPeration",
  plainForm "mv t1,t2" ["add RG1, x0, RG2"] "MoVe : Set t1 to contents of t2",
  plainForm "not t1,t2" ["xori RG1, RG2, -1"]
    "Bitwise NOT : Set t1 to bitwise complement of t2",
  plainForm "neg t1,t2" ["sub RG1, x0, RG2"] "NEGate : Set t1 to negation of t2",
  plainForm "seqz t1,t2" ["sltiu RG1, RG2, 1"] "Set EQual to Zero : t1 = (t2 == 0)",
  plainForm "snez t1,t2" ["sltu RG1, x0, RG2"] "Set Not Equal to Zero : t1 = (t2 != 0)",
  plainForm "sltz t1,t2" ["slt RG1, RG2, x0"] "Set Less Than Zero : t1 = (t2 < 0)",
  plainForm "sgtz t1,t2" ["slt RG1, x0, RG2"] "Set Greater Than Zero : t1 = (t2 > 0)",
  plainForm "beqz t1,label" ["beq RG1, x0, LAB"] "Branch if EQual Zero",
  plainForm "bnez t1,label" ["bne RG1, x0, LAB"] "Branch if Not Equal Zero",
  plainForm "bgez t1,label" ["bge RG1, x0, LAB"] "Branch if Greater than or Equal to Zero",
  plainForm "bltz t1,label" ["blt RG1, x0, LAB"] "Branch if Less Than Zero",
  plainForm "bgtz t1,label" ["blt x0, RG1, LAB"] "Branch if Greater Than Zero",
  plainForm "blez t1,label" ["bge x0, RG1, LAB"] "Branch if Less than or Equal to Zero",
  plainForm "bgt t1,t2,label" ["blt RG2, RG1, LAB"] "Branch if Greater Than",
  plainForm "ble t1,t2,label" ["bge RG2, RG1, LAB"] "Branch if Less than or Equal",
  plainForm "bgtu t1,t2,label" ["bltu RG2, RG1, LAB"] "Branch if Greater Than, Unsigned",
  plainForm "bleu t1,t2,label" ["bgeu RG2, RG1, LAB"] "Branch if Less than or Equal, Unsigned",
  plainForm "b label" ["jal x0, LAB"] "Branch unconditionally to label",
  plainForm "j label" ["jal x0, LAB"] "Jump to label",
  plainForm "jal label" ["jal x1, LAB"] "Jump And Link to label, return address in ra",
  plainForm "jr t0" ["jalr x0, RG1, 0"] "Jump Register : jump to address in t0",
  plainForm "jalr t0" ["jalr x1, RG1, 0"] "Jump And Link Register, return address in ra",
  plainForm "ret" ["jalr x0, x1, 0"] "RETurn from subroutine",
  plainForm "call label" ["auipc x1, PCH1", "jalr x1, x1, PCL1"] "CALL a far-away subroutine",
  plainForm "tail label" ["auipc x6, PCH1", "jalr x0, x6, PCL1"]
    "TAIL call a far-away subroutine, clobbers t1",
  plainForm "li t1,-100" ["addi RG1, x0, VL2"]
    "Load Immediate : Set t1 to 12-bit immediate (sign-extended)",
  plainForm "li t1,10000000" ["lui RG1, VH2", "addi RG1, RG1, VL2"]
    "Load Immediate : Set t1 to 32-bit immediate",
  loadAddressForm,
  loadForm "lb",
  loadForm "lh",
  loadForm "lw",
  loadForm "lbu",
  loadForm "lhu",
  storeForm "sb",
  storeForm "sh",
  storeForm "sw"]

/-- The table of the built-in forms. -/
def builtin : Table :=
  ofForms builtinForms

end PseudoAsm.Table
