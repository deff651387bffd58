import PseudoAsm.Diagnostic
import PseudoAsm.Word

/-!
# Why an expansion fails

The causes that stop the expansion of a statement or of a listing, and the diagnostic of each.

A pseudo-instruction may be written out in two ways: the standard one, which works for every
address, and a compact one, which works for addresses near zero. An expansion fails if the variant
that is asked for is missing.
-/

namespace PseudoAsm

/-- Which way of writing out a pseudo-instruction is meant. -/
inductive Variant where
  | standard
  | compact
  deriving DecidableEq, Repr

namespace Variant

/-- The word for a variant in messages. -/
def name : Variant → Text
  | .standard => "default".toList
  | .compact => "compact".toList

end Variant

/-- Why a statement or a listing cannot be expanded. -/
inductive ExpansionError where
  /-- No form of the table has the mnemonic; some of its mnemonics resemble it. -/
  | unknownMnemonic (mnemonic : Text) (similar : List Text)
  /-- No form of the mnemonic accepts the operands; the usages of all of them are given. -/
  | operandMismatch (mnemonic : Text) (operands usages : List Text)
  /-- A label is defined nowhere in scope; some of the labels there resemble it. -/
  | undefinedSymbol (symbol : Text) (similar : List Text)
  /-- A label is defined twice in one table; the address is that of the first definition. -/
  | duplicateSymbol (symbol : Text) (address : Option Word)
  /-- The form has no recipe for the variant. -/
  | noRecipe (mnemonic : Text) (variant : Variant)
  deriving DecidableEq, Repr

namespace ExpansionError

/-- A hint that offers the first three of the given names. -/
def didYouMean (similar : List Text) : Option Text :=
  if similar.isEmpty then none
  else
    some ("did you mean ".toList ++
      Text.join ", " ((similar.take 3).map Text.inApostrophes) ++ "?".toList)

/-- What the user is told. -/
def diagnostic : ExpansionError → Diagnostic
  | .unknownMnemonic mnemonic similar =>
    { message := "unknown pseudo-instruction ".toList ++ Text.inApostrophes mnemonic
      hint := didYouMean similar }
  | .operandMismatch mnemonic operands usages =>
    let shown := if operands.isEmpty then "no operands".toList else Text.join ", " operands
    { message :=
        Text.inApostrophes mnemonic ++ " does not accept operands (".toList ++ shown ++ [')']
      hint :=
        if usages.isEmpty then none
        else some ("valid forms: ".toList ++ Text.join "; " usages) }
  | .undefinedSymbol symbol similar =>
    { message := "undefined symbol ".toList ++ Text.inApostrophes symbol
      hint := didYouMean similar }
  | .duplicateSymbol symbol address =>
    { message := "duplicate symbol ".toList ++ Text.inApostrophes symbol
      hint := address.map fun address =>
        Text.inApostrophes symbol ++ " is already defined at ".toList ++ address.address }
  | .noRecipe mnemonic variant =>
    { message :=
        Text.inApostrophes mnemonic ++ " has no ".toList ++ variant.name ++
          " translation".toList }

end ExpansionError

end PseudoAsm
