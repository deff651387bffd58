import PseudoAsm.CommandLine.Request
import PseudoAsm.Proofs.Distinct
import PseudoAsm.Proofs.Outcome

/-!
# Requests with and without a listing

The values of parameters are read one after another, and each one is put in a field of its own. So
the path of a listing among the switches of a command line, wherever it stands, changes the field
for this path and nothing else in the request.
-/

namespace PseudoAsm.CommandLine

/-- Switches among which no listing is named. -/
def NoListing (switches : List GivenSwitch) : Prop :=
  ∀ path, GivenSwitch.parameter .input path ∉ switches

namespace Words

variable {switches before after : List GivenSwitch} {statements leftover : List Text} {path : Text}

/-- The parameters among the switches, with their values. -/
def givenParameters (switches : List GivenSwitch) : List (Parameter × Text) :=
  switches.filterMap GivenSwitch.parameter?

theorem ne_input_of_mem_givenParameters (noListing : NoListing switches)
    {given : Parameter × Text} (member : given ∈ givenParameters switches) :
    given.1 ≠ .input := by
  rintro isInput
  rcases List.mem_filterMap.1 member with ⟨switch, switchMem, reads⟩
  cases switch with
  | flag flag => simp [GivenSwitch.parameter?] at reads
  | parameter parameter value =>
      obtain rfl : (parameter, value) = given := Option.some.inj reads
      obtain rfl : parameter = .input := isInput
      exact noListing value switchMem

theorem input_not_mem_of_noListing (noListing : NoListing switches) :
    Parameter.input ∉ (givenParameters switches).map Prod.fst := by
  intro member
  rcases List.mem_map.1 member with ⟨given, givenMem, isInput⟩
  exact ne_input_of_mem_givenParameters noListing givenMem isInput

variable (before after statements leftover path)

theorem flags_insert :
    (⟨before ++ .parameter .input path :: after, leftover⟩ : Words).flags =
      (⟨before ++ after, statements⟩ : Words).flags := by
  simp [flags, List.filterMap_cons, GivenSwitch.flag?]

/-- A listing among the switches changes no other value. -/
theorem values_insert (parameter : Parameter) (other : parameter ≠ .input) :
    (⟨before ++ .parameter .input path :: after, leftover⟩ : Words).values parameter =
      (⟨before ++ after, statements⟩ : Words).values parameter := by
  simp [values, GivenSwitch.parameter?, other.symm]

/-- The listing that is given is the one that counts. -/
theorem value?_input_insert (noListing : NoListing (before ++ after)) :
    (⟨before ++ .parameter .input path :: after, leftover⟩ : Words).value? .input = some path := by
  have noneAfter : (givenParameters after).filter (·.1 == .input) = [] := by
    apply List.filter_eq_nil_iff.2
    intro given member
    have notInAfter : NoListing after :=
      fun other inAfter => noListing other (List.mem_append_right _ inAfter)
    simpa using ne_input_of_mem_givenParameters notInAfter member
  rw [givenParameters] at noneAfter
  simp [value?, values, GivenSwitch.parameter?, noneAfter]

/-- A listing is read in one place, and the parameters around it are read as before. -/
theorem exists_parameters_insert (noListing : NoListing (before ++ after)) :
    ∃ front back, (⟨before ++ after, statements⟩ : Words).parameters = front ++ back ∧
      (⟨before ++ .parameter .input path :: after, leftover⟩ : Words).parameters =
        front ++ .input :: back ∧ Parameter.input ∉ front ∧ Parameter.input ∉ back := by
  have notGiven : Parameter.input ∉
      (givenParameters before).map Prod.fst ++ (givenParameters after).map Prod.fst := by
    simpa [givenParameters] using input_not_mem_of_noListing noListing
  rcases exists_eraseDups_append_cons notGiven with
    ⟨front, back, without, withInput, notFront, notBack⟩
  refine ⟨front, back, ?_, ?_, notFront, notBack⟩
  · rw [← without]
    simp [parameters, givenParameters]
  · rw [← withInput]
    simp [parameters, givenParameters, GivenSwitch.parameter?]

end Words

namespace Request

variable {files : FileSystem} {words otherWords : Words} {parameter : Parameter}

theorem readParameter_pc_eq_ok {request next : Request}
    (read : readParameter files words request .pc = .ok next) :
    (words.value? .pc).mapM readStart = .ok next.start := by
  rcases Outcome.bind_eq_ok_iff.1 read with ⟨start, startRead, made⟩
  rw [startRead, ← Except.ok.inj made]

theorem start_of_readParameter_eq_ok {request next : Request} (other : parameter ≠ .pc)
    (read : readParameter files words request parameter = .ok next) :
    next.start = request.start := by
  cases parameter with
  | pc => exact absurd rfl other
  | input | table | symbol =>
      rcases Outcome.bind_eq_ok_iff.1 read with ⟨value, _, made⟩
      rw [← Except.ok.inj made]

/-- The start is read if it is among the parameters, and otherwise it is left. -/
theorem start_of_foldlM_eq_ok {parameters : List Parameter} {request result : Request}
    (folded : parameters.foldlM (readParameter files words) request = .ok result) :
    (Parameter.pc ∈ parameters → (words.value? .pc).mapM readStart = .ok result.start) ∧
      (Parameter.pc ∉ parameters → result.start = request.start) := by
  induction parameters generalizing request with
  | nil =>
      have same : request = result := Except.ok.inj folded
      simp [same]
  | cons parameter parameters ih =>
      rw [List.foldlM_cons] at folded
      rcases Outcome.bind_eq_ok_iff.1 folded with ⟨next, read, later⟩
      rcases ih later with ⟨readLater, left⟩
      by_cases inLater : Parameter.pc ∈ parameters
      · exact ⟨fun _ => readLater inLater, fun absent => absurd (.tail _ inLater) absent⟩
      · by_cases isStart : parameter = .pc
        · subst isStart
          simp [left inLater, readParameter_pc_eq_ok read]
        · have notHere : Parameter.pc ≠ parameter := fun same => isStart same.symm
          simp [inLater, notHere, left inLater, start_of_readParameter_eq_ok isStart read]

/-- The start of a request is its last value on the command line, if there is any. -/
theorem start_of_ofWords_eq_ok {request : Request} (asked : ofWords files words = .ok request) :
    (words.value? .pc).mapM readStart = .ok request.start := by
  rcases start_of_foldlM_eq_ok asked with ⟨read, left⟩
  by_cases given : Parameter.pc ∈ words.parameters
  · exact read given
  · have noValues : words.values .pc = [] := by
      rw [Words.values, List.map_eq_nil_iff, List.filter_eq_nil_iff]
      intro value member isStart
      rw [Words.parameters, List.mem_eraseDups] at given
      exact given (List.mem_map.2 ⟨value, member, by simpa using isStart⟩)
    rw [left given, Words.value?, noValues]
    rfl

/-- The request with other statements and another listing, or none. -/
def withSource (statements : List Text) (input : Option Text) (request : Request) : Request :=
  { request with statements, input }

/-- The values of other parameters than the listing are read without a look at the source. -/
theorem readParameter_withSource (statements : List Text) (input : Option Text)
    (request : Request) (other : parameter ≠ .input)
    (sameValues : otherWords.values parameter = words.values parameter) :
    readParameter files otherWords (withSource statements input request) parameter =
      (readParameter files words request parameter).map (withSource statements input) := by
  cases parameter with
  | input => exact absurd rfl other
  | table =>
      simp only [readParameter, Words.value?, sameValues]
      cases ((words.values .table).getLast?).mapM (readPath files .table) <;> rfl
  | pc =>
      simp only [readParameter, Words.value?, sameValues]
      cases ((words.values .pc).getLast?).mapM readStart <;> rfl
  | symbol =>
      simp only [readParameter, sameValues]
      change ((words.values .symbol).foldlM addLabel request.symbols >>= _) = _
      cases (words.values .symbol).foldlM addLabel request.symbols <;> rfl

/-- Other parameters are read alike with another source. -/
theorem foldlM_readParameter_withSource {parameters : List Parameter} (statements : List Text)
    (input : Option Text) (request : Request) (others : Parameter.input ∉ parameters)
    (sameValues : ∀ parameter, parameter ≠ .input →
      otherWords.values parameter = words.values parameter) :
    parameters.foldlM (readParameter files otherWords) (withSource statements input request) =
      (parameters.foldlM (readParameter files words) request).map
        (withSource statements input) := by
  apply Outcome.foldlM_map_of_commutes
  intro parameter member request
  have other : parameter ≠ .input := by
    rintro rfl
    exact others member
  exact readParameter_withSource statements input request other (sameValues parameter other)

variable {before after : List GivenSwitch} {statements leftover : List Text}

/-- Without a listing, other statements change the source of the request only. -/
theorem ofWords_withSource {switches : List GivenSwitch} (statements leftover : List Text)
    (noListing : NoListing switches) :
    ofWords files ⟨switches, leftover⟩ =
      (ofWords files ⟨switches, statements⟩).map (withSource leftover none) := by
  have notGiven : Parameter.input ∉ (⟨switches, statements⟩ : Words).parameters := by
    rw [Words.parameters, List.mem_eraseDups]
    exact Words.input_not_mem_of_noListing noListing
  exact foldlM_readParameter_withSource leftover none (ofFlags ⟨switches, statements⟩) notGiven
    fun _ _ => rfl

/-- Without a listing, the source of a request is what the words leave. -/
theorem withSource_of_ofWords_eq_ok {switches : List GivenSwitch} {request : Request}
    (noListing : NoListing switches)
    (asked : ofWords files ⟨switches, statements⟩ = .ok request) :
    withSource statements none request = request := by
  have kept : ofWords files ⟨switches, statements⟩ =
      (ofWords files ⟨switches, statements⟩).map (withSource statements none) :=
    ofWords_withSource statements statements noListing
  rw [asked] at kept
  exact (Except.ok.inj kept).symm

/-- The path of a listing among the switches changes the source of the request only. -/
theorem ofWords_insert {path : Text} {bytes : List UInt8} (statements leftover : List Text)
    (noListing : NoListing (before ++ after)) (readable : files path = .ok bytes) :
    ofWords files ⟨before ++ .parameter .input path :: after, leftover⟩ =
      (ofWords files ⟨before ++ after, statements⟩).map (withSource leftover (some path)) := by
  rcases Words.exists_parameters_insert before after statements leftover path noListing with
    ⟨front, back, without, withInput, notFront, notBack⟩
  have sameValues := Words.values_insert before after statements leftover path
  have sameFlags : ofFlags ⟨before ++ .parameter .input path :: after, leftover⟩ =
      withSource leftover none (ofFlags ⟨before ++ after, statements⟩) := by
    simp only [ofFlags, withSource, Words.flags_insert before after statements leftover path]
  -- The parameters before the listing are read without one, and those after it with it.
  simp only [ofWords, without, withInput, List.foldlM_append, List.foldlM_cons, sameFlags,
    foldlM_readParameter_withSource leftover none _ notFront sameValues]
  cases front.foldlM (readParameter files ⟨before ++ after, statements⟩)
    (ofFlags ⟨before ++ after, statements⟩) with
  | error fault => rfl
  | ok request =>
      have listingRead : readParameter files ⟨before ++ .parameter .input path :: after, leftover⟩
          (withSource leftover none request) .input =
            .ok (withSource leftover (some path) request) := by
        simp only [readParameter, Words.value?_input_insert before after leftover path noListing,
          Option.mapM_some, readPath, readable]
        rfl
      simp only [Except.map, bind, Except.bind, listingRead]
      exact foldlM_readParameter_withSource leftover (some path) request notBack sameValues

end Request

/-- A request is made of words that ask no question. -/
theorem Command.ofWords_eq_ok_expand_iff {files : FileSystem} {words : Words} {request : Request} :
    ofWords files words = .ok (.expand request) ↔
      words.flags.findSome? Flag.question? = none ∧ Request.ofWords files words = .ok request := by
  unfold ofWords
  cases question : words.flags.findSome? Flag.question? with
  | some answer =>
      have noRequest : answer ≠ .expand request := by
        rintro rfl
        rcases List.exists_of_findSome?_eq_some question with ⟨flag, _, answers⟩
        cases flag <;> cases answers
      simp [noRequest]
  | none => simp

theorem Command.ofWords_eq_ok_expand {files : FileSystem} {words : Words} {request : Request}
    (asked : ofWords files words = .ok (.expand request)) :
    Request.ofWords files words = .ok request :=
  (ofWords_eq_ok_expand_iff.1 asked).2

/-- Without a listing, a request is made with other statements as well. -/
theorem Command.ofWords_withSource {files : FileSystem} {switches : List GivenSwitch}
    {statements : List Text} {request : Request} (noListing : NoListing switches)
    (asked : ofWords files ⟨switches, statements⟩ = .ok (.expand request))
    (leftover : List Text) :
    ofWords files ⟨switches, leftover⟩ = .ok (.expand (request.withSource leftover none)) := by
  rcases ofWords_eq_ok_expand_iff.1 asked with ⟨noQuestion, requested⟩
  refine ofWords_eq_ok_expand_iff.2 ⟨noQuestion, ?_⟩
  rw [Request.ofWords_withSource statements leftover noListing, requested]
  rfl

/-- A listing among the switches changes the source of a request, but no answer to a question. -/
theorem Command.exists_ofWords_insert {files : FileSystem} {before after : List GivenSwitch}
    {statements leftover : List Text} {path : Text} {bytes : List UInt8} {command : Command}
    (noListing : NoListing (before ++ after)) (readable : files path = .ok bytes)
    (asked : ofWords files ⟨before ++ after, statements⟩ = .ok command) :
    ofWords files ⟨before ++ .parameter .input path :: after, leftover⟩ = .ok command ∨
      ∃ request, command = .expand request ∧ request.statements = statements ∧
        request.input = none ∧
        ofWords files ⟨before ++ .parameter .input path :: after, leftover⟩ =
          .ok (.expand (request.withSource leftover (some path))) := by
  unfold ofWords at asked ⊢
  rw [Words.flags_insert before after statements leftover path]
  cases question : (⟨before ++ after, statements⟩ : Words).flags.findSome? Flag.question? with
  | some answer =>
      rw [question] at asked
      exact .inl asked
  | none =>
      simp only [question, Outcome.map_eq_ok_iff] at asked
      rcases asked with ⟨request, requested, rfl⟩
      have source := Request.withSource_of_ofWords_eq_ok noListing requested
      refine .inr ⟨request, rfl, ?_, ?_, ?_⟩
      · rw [← source]
        rfl
      · rw [← source]
        rfl
      · rw [Request.ofWords_insert statements leftover noListing readable, requested]
        rfl

end PseudoAsm.CommandLine
