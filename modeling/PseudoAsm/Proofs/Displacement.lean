import PseudoAsm.Proofs.Operand
import PseudoAsm.Proofs.Related
import PseudoAsm.Proofs.Symbol.Displacement
import PseudoAsm.Proofs.Table.Markers

/-!
# Sites at a distance

Two sites are at a distance if one has everything that belongs to an address farther on: the program
counter, the labels, and the words that stand for labels. Registers are the same at both, and so are
the values of immediates, whatever their spelling. A marker that fits its operand stands for the
same text at both sites: for a register it is the register, for a constant a part of the constant,
for a target a part of its distance from the program counter, and for a label the name, which moved
along.
Only a part of an absolute address tells the sites apart, unless their distance is zero.
-/

namespace PseudoAsm

/-- Words of two statements that stand for an operand of a shape. -/
inductive MovedWord (distance : Word) : Shape → Text → Text → Prop
  | delimiter (word : Text) : MovedWord distance .delimiter word word
  | register (word : Text) : MovedWord distance .register word word
  | immediate {expected value : Word} {word moved : Text} (spelt : Numeral.word? word = some value)
      (movedSpelt : Numeral.word? moved = some value) :
      MovedWord distance (.immediate expected) word moved
  | label {address : Word} {word moved : Text} (spelt : Numeral.word? word = some address)
      (movedSpelt : Numeral.word? moved = some (address + distance)) :
      MovedWord distance .label word moved

/-- A word stands for the same operand where nothing is moved, and so does one for no label. -/
theorem movedWord_self {distance : Word} {scope : Scope} {sample operand word : Text}
    (accepted : Operand.accepts sample operand = true)
    (resolved : Statement.resolveOperand scope operand = .ok word)
    (still : Operand.shape sample = .label → distance = 0) :
    MovedWord distance (Operand.shape sample) word word := by
  cases sampleShape : Operand.shape sample with
  | delimiter => exact .delimiter word
  | register => exact .register word
  | immediate expected =>
      rcases (Operand.accepts_iff_of_immediate sampleShape).1 accepted with ⟨given, immediate, _⟩
      rw [Statement.resolveOperand_of_ne_label (by simp [immediate]), Except.ok.injEq] at resolved
      subst resolved
      have spelt := Operand.shape_eq_immediate_iff.1 immediate
      exact .immediate spelt spelt
  | label =>
      rcases Statement.exists_word?_of_resolveOperand sampleShape accepted resolved with
        ⟨address, spelt⟩
      rw [still sampleShape]
      exact .label spelt (by rwa [add_zero])

/-- A site and the same site a distance farther on, for operands of the given shapes. -/
structure SitesApart (distance : Word) (shapes : List Shape) (site moved : Site) : Prop where
  words : ∃ (mnemonic movedMnemonic : Text) (pairs : List (Text × Text)),
    site.words = mnemonic :: pairs.map Prod.fst ∧
      moved.words = movedMnemonic :: pairs.map Prod.snd ∧
      List.Forall₂ (fun shape pair => MovedWord distance shape pair.1 pair.2) shapes pairs
  pc : Word.ofInt moved.pc = Word.ofInt site.pc + distance
  labels : ∀ address, (moved.scope.labelAt? (address + distance)).map Symbol.name =
    (site.scope.labelAt? address).map Symbol.name

namespace SitesApart

variable {distance : Word} {shapes : List Shape} {site moved : Site}

theorem exists_words_of_shapeAt? (apart : SitesApart distance shapes site moved) {position : Nat}
    {shape : Shape} (atPosition : Marker.shapeAt? shapes position = some shape) :
    ∃ word movedWord, site.words[position]? = some word ∧
      moved.words[position]? = some movedWord ∧ MovedWord distance shape word movedWord := by
  rcases apart.words with ⟨mnemonic, movedMnemonic, pairs, words, movedWords, each⟩
  cases position with
  | zero => cases atPosition
  | succ position =>
      rcases exists_getElem?_of_forall₂ each atPosition with ⟨pair, found, related⟩
      exact ⟨pair.1, pair.2, by simp [words, found], by simp [movedWords, found], related⟩

theorem exists_words_of_getLast? (apart : SitesApart distance shapes site moved) {shape : Shape}
    (last : shapes.getLast? = some shape) :
    2 ≤ site.words.length ∧ 2 ≤ moved.words.length ∧
      ∃ word movedWord, site.words.getLast? = some word ∧
        moved.words.getLast? = some movedWord ∧ MovedWord distance shape word movedWord := by
  rcases apart.words with ⟨mnemonic, movedMnemonic, pairs, words, movedWords, each⟩
  rcases exists_getLast?_of_forall₂ each last with ⟨pair, found, related⟩
  rcases List.getLast?_eq_some_iff.1 found with ⟨front, rfl⟩
  refine ⟨by simp [words], by simp [movedWords], pair.1, pair.2, ?_, ?_, related⟩
  · simp [words, List.getLast?_cons]
  · simp [movedWords, List.getLast?_cons]

/-- The distance between the target and the program counter stays the same. -/
theorem sub_pc (apart : SitesApart distance shapes site moved) (address : Word) :
    address + distance - Word.ofInt moved.pc = address - Word.ofInt site.pc := by
  rw [apart.pc, add_sub_add_right_eq_sub]

theorem valueOf_relative (apart : SitesApart distance shapes site moved) (address : Word) :
    valueOf (address + distance) moved.pc .relative = valueOf address site.pc .relative := by
  simp only [valueOf, ← Word.toInt_sub_ofInt, apart.sub_pc]

theorem rendering_operand (apart : SitesApart distance shapes site moved) {position : Nat}
    (fits : (Marker.operand position).fits shapes = true) :
    site.rendering (.operand position) = moved.rendering (.operand position) := by
  have atPosition : Marker.shapeAt? shapes position = some .register := by
    simpa [Marker.fits] using fits
  rcases apart.exists_words_of_shapeAt? atPosition with ⟨word, movedWord, found, movedFound, same⟩
  cases same with
  | register => simp [Site.rendering, Site.rendered?, found, movedFound]

/-- A field stays the same unless it is one of an address that is moved. -/
theorem rendering_part (apart : SitesApart distance shapes site moved) {source : Source}
    {half : Half} {position : Nat} (fits : (Marker.part source half position).fits shapes = true)
    (absolute : source = .label → distance = 0) :
    site.rendering (.part source half position) = moved.rendering (.part source half position) := by
  have ofWords : ∀ {word movedWord : Text} {value movedValue : Word},
      site.words[position]? = some word → moved.words[position]? = some movedWord →
      Numeral.word? word = some value → Numeral.word? movedWord = some movedValue →
      valueOf movedValue moved.pc source = valueOf value site.pc source →
      site.rendering (.part source half position) =
        moved.rendering (.part source half position) := by
    intro word movedWord value movedValue found movedFound spelt movedSpelt same
    simp [Site.rendering, Site.rendered?, found, movedFound, spelt, movedSpelt, same]
  cases source with
  | value =>
      simp only [Marker.fits, Option.any_eq_true, Shape.isImmediate_iff] at fits
      rcases fits with ⟨_, atPosition, expected, rfl⟩
      rcases apart.exists_words_of_shapeAt? atPosition with
        ⟨word, movedWord, found, movedFound, same⟩
      cases same with
      | immediate spelt movedSpelt => exact ofWords found movedFound spelt movedSpelt rfl
  | label =>
      have atPosition : Marker.shapeAt? shapes position = some .label := by
        simpa [Marker.fits] using fits
      rcases apart.exists_words_of_shapeAt? atPosition with
        ⟨word, movedWord, found, movedFound, same⟩
      cases same with
      | label spelt movedSpelt =>
          rw [absolute rfl, add_zero] at movedSpelt
          exact ofWords found movedFound spelt movedSpelt rfl
  | relative =>
      have atPosition : Marker.shapeAt? shapes position = some .label := by
        simpa [Marker.fits] using fits
      rcases apart.exists_words_of_shapeAt? atPosition with
        ⟨word, movedWord, found, movedFound, same⟩
      cases same with
      | label spelt movedSpelt =>
          exact ofWords found movedFound spelt movedSpelt (apart.valueOf_relative _)

theorem rendering_label (apart : SitesApart distance shapes site moved)
    (fits : Marker.label.fits shapes = true) : site.rendering .label = moved.rendering .label := by
  have last : shapes.getLast? = some .label := by
    simpa [Marker.fits] using fits
  rcases apart.exists_words_of_getLast? last with
    ⟨long, movedLong, word, movedWord, found, movedFound, same⟩
  cases same with
  | @label address _ _ spelt movedSpelt =>
      simp [Site.rendering, Site.rendered?, Nat.not_lt.2 long, Nat.not_lt.2 movedLong, found,
        movedFound, Scope.labelAtText?, spelt, movedSpelt, apart.labels]

/-- A marker that fits its operand does not tell sites apart, except for absolute addresses. -/
theorem rendering_eq (apart : SitesApart distance shapes site moved) {marker : Marker}
    (fits : marker.fits shapes = true) (absolute : marker.isAbsolute = true → distance = 0) :
    site.rendering marker = moved.rendering marker := by
  cases marker with
  | operand position => exact apart.rendering_operand fits
  | part source half position =>
      refine apart.rendering_part fits ?_
      rintro rfl
      exact absolute rfl
  | label => exact apart.rendering_label fits

end SitesApart

section Expansion

variable {distance : Word} {scope movedScope : Scope} {A R : Text → Text → Prop}

/-- Whether what operands are resolved to is at a distance is seen operand by operand. -/
theorem exists_movedWords {samples operands others words : List Text}
    (carries : ∀ sample operand other word, A sample operand → R operand other →
      Statement.resolveOperand scope operand = .ok word →
      ∃ moved, Statement.resolveOperand movedScope other = .ok moved ∧
        MovedWord distance (Operand.shape sample) word moved)
    (accepted : List.Forall₂ A samples operands) (related : List.Forall₂ R operands others)
    (resolved : List.Forall₂ (fun operand word => Statement.resolveOperand scope operand = .ok word)
      operands words) :
    ∃ pairs : List (Text × Text), words = pairs.map Prod.fst ∧
      List.Forall₂ (fun other moved => Statement.resolveOperand movedScope other = .ok moved)
        others (pairs.map Prod.snd) ∧
      List.Forall₂ (fun shape pair => MovedWord distance shape pair.1 pair.2)
        (samples.map Operand.shape) pairs := by
  induction accepted generalizing others words with
  | nil =>
      cases related
      cases resolved
      exact ⟨[], rfl, .nil, .nil⟩
  | @cons sample operand samples operands accepts _ ih =>
      cases related with
      | cons relates related =>
          cases resolved with
          | @cons _ word _ words resolves resolved =>
              rcases carries _ _ _ _ accepts relates resolves with ⟨moved, movedOk, movedWord⟩
              rcases ih related resolved with ⟨pairs, rfl, movedResolved, movedWords⟩
              exact ⟨(word, moved) :: pairs, rfl, .cons movedOk movedResolved,
                .cons movedWord movedWords⟩

/-- A built-in form whose operands lead to words at a distance is expanded to the same lines. -/
theorem exists_expandForm_apart {expander : Expander} {wanted : Option Variant} {pc movedPc : Int}
    {form : Form} {statement other : Statement} {expansion : Expansion}
    (member : form ∈ Table.builtinForms)
    (movesPc : Word.ofInt movedPc = Word.ofInt pc + distance)
    (movesLabels : ∀ address, (movedScope.labelAt? (address + distance)).map Symbol.name =
      (scope.labelAt? address).map Symbol.name)
    (absolute : ∀ marker ∈ form.markers (expander.variant wanted form),
      marker.isAbsolute = true → distance = 0)
    (carries : ∀ sample operand another word, A sample operand → R operand another →
      Statement.resolveOperand scope operand = .ok word →
      ∃ moved, Statement.resolveOperand movedScope another = .ok moved ∧
        MovedWord distance (Operand.shape sample) word moved)
    (accepted : List.Forall₂ A form.operands statement.operands)
    (related : List.Forall₂ R statement.operands other.operands)
    (success : expander.expandForm wanted scope pc form statement = .ok expansion) :
    ∃ moved, expander.expandForm wanted movedScope movedPc form other = .ok moved ∧
      moved.statements = expansion.statements := by
  rcases Expander.expandForm_eq_ok_iff.1 success with ⟨words, resolved, expanded⟩
  rcases Statement.resolve_eq_ok_iff.1 resolved with ⟨operandWords, rfl, each⟩
  rcases Form.statements_of_expand_eq_ok expanded with ⟨recipe, found, statements⟩
  rcases exists_movedWords carries accepted related each with
    ⟨pairs, rfl, movedEach, movedWords⟩
  have movedResolved : other.resolve movedScope = .ok (other.mnemonic :: pairs.map Prod.snd) :=
    Statement.resolve_eq_ok_iff.2 ⟨_, rfl, movedEach⟩
  have apart : SitesApart distance form.shapes
      ⟨statement.mnemonic :: pairs.map Prod.fst, pc, scope⟩
      ⟨other.mnemonic :: pairs.map Prod.snd, movedPc, movedScope⟩ :=
    ⟨⟨_, _, pairs, rfl, rfl, movedWords⟩, movesPc, movesLabels⟩
  rcases Expander.exists_expandForm_eq_ok movedResolved found with
    ⟨moved, movedOk, movedStatements⟩
  refine ⟨moved, movedOk, ?_⟩
  rw [movedStatements, statements]
  symm
  apply Form.filledLines_congr found
  intro marker inRecipe
  exact apart.rendering_eq (Table.fits_of_mem_markers member inRecipe) (absolute marker inRecipe)

end Expansion

end PseudoAsm
