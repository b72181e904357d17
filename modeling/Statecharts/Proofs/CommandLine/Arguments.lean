import Statecharts.CommandLine.Invocation
import Statecharts.Proofs.Resolution.Sweep
import Mathlib.Tactic

/-!
# Accepting arguments

An argument stays pending until the next one is understood.  On a line that is
accepted in the end the delay makes no difference: whatever is read next, the
pending argument is accepted first.  So what such a line gives may be told from
readings in which nothing is pending.
-/

namespace Statecharts.CommandLine

namespace Reading

variable {reading settled next accepted : Reading} {argument : Argument}
  {name : OptionName} {text value : String} {words later : List String}
  {next? : Option (String × List String)}

/-! ## Refusals -/

@[simp] theorem misuse_ne_ok {α : Type} {result : α} {fault : UsageFault}
    {usage : Option String} : reading.misuse fault usage ≠ .ok result := by
  intro hmisuse
  cases hmisuse

@[simp] theorem misuseWithUsage_ne_ok {α : Type} {result : α} {fault : UsageFault} :
    reading.misuseWithUsage fault ≠ .ok result :=
  misuse_ne_ok

@[simp] theorem invalidValue_ne_ok : reading.invalidValue argument value ≠ .ok next :=
  misuse_ne_ok

@[simp] theorem unknownLong_ne_ok : reading.unknownLong text later ≠ .ok next := by
  unfold unknownLong
  dsimp only
  split <;> exact misuse_ne_ok

@[simp] theorem misplaced_ne_ok {isTrailing : Bool} :
    reading.misplaced isTrailing text ≠ .ok next := by
  unfold misplaced
  dsimp only
  split
  · exact misuseWithUsage_ne_ok
  · split <;> exact misuseWithUsage_ne_ok

/-! ## Settling -/

theorem settle_of_free (hfree : reading.pending = none) :
    reading.settle = .ok reading := by
  unfold settle
  rw [hfree]

theorem setValue_ok (hset : reading.setValue argument value = .ok next) :
    next.pending = reading.pending ∧ next.given = reading.given ∧
      next.grammar = reading.grammar := by
  unfold setValue at hset
  split at hset
  · split at hset <;> cases hset <;> exact ⟨rfl, rfl, rfl⟩
  · split at hset
    · cases hset
    · split at hset <;> cases hset <;> exact ⟨rfl, rfl, rfl⟩

theorem settle_ok_iff :
    reading.settle = .ok settled ↔
      reading.pending = none ∧ reading = settled ∨
      ∃ argument value, reading.pending = some (argument, some value) ∧
        argument ∉ reading.given ∧
        setValue { reading with
          pending := none
          given := reading.given ++ [argument] } argument value = .ok settled := by
  rcases hpending : reading.pending with _ | ⟨argument, _ | value⟩
  · simp [settle, hpending]
  · simp [settle, hpending]
  · by_cases hgiven : argument ∈ reading.given
    · simp [settle, hpending, hgiven]
    · simp [settle, hpending, hgiven, countPending]

theorem settle_ok (hsettle : reading.settle = .ok settled) :
    settled.pending = none ∧ settled.grammar = reading.grammar ∧
      settled.hasOperand = reading.hasOperand := by
  rcases settle_ok_iff.mp hsettle with ⟨hfree, rfl⟩ | ⟨argument, value, hpending, -, hset⟩
  · exact ⟨hfree, rfl, rfl⟩
  · obtain ⟨hfree, hgiven, hgrammar⟩ := setValue_ok hset
    refine ⟨hfree, hgrammar, ?_⟩
    simp [hasOperand, hgiven, hfree, hpending, eq_comm]

theorem settle_settled (hsettle : reading.settle = .ok settled) :
    settled.settle = .ok settled :=
  settle_of_free (settle_ok hsettle).1

theorem awaitsValue_iff :
    reading.awaitsValue = true ↔ ∃ argument, reading.pending = some (argument, none) := by
  rcases hpending : reading.pending with _ | ⟨argument, _ | value⟩ <;>
    simp [awaitsValue, hpending]

theorem not_awaitsValue_of_settle (hsettle : reading.settle = .ok settled) :
    reading.awaitsValue = false := by
  rw [← Bool.not_eq_true, awaitsValue_iff]
  intro hawaits
  obtain ⟨argument, hpending⟩ := hawaits
  unfold settle at hsettle
  rw [hpending] at hsettle
  cases hsettle

/-- Reading goes on from what is accepted of the pending argument. -/
def SettlesFirst (read : Reading → Except Halt Reading) (reading : Reading) : Prop :=
  ∀ next, read reading = .ok next ↔
    ∃ settled, reading.settle = .ok settled ∧ read settled = .ok next

/-- A reader settles first if it reads nothing where that fails, and otherwise the
same as where nothing is pending. -/
theorem settlesFirst_of_agrees {read : Reading → Except Halt Reading}
    (hsettles : ∀ next, read reading = .ok next →
      ∃ settled, reading.settle = .ok settled)
    (hagrees : ∀ settled, reading.settle = .ok settled →
      ∀ next, read reading = .ok next ↔ read settled = .ok next) :
    SettlesFirst read reading := by
  intro next
  constructor
  · intro hread
    obtain ⟨settled, hsettle⟩ := hsettles next hread
    exact ⟨settled, hsettle, (hagrees settled hsettle next).mp hread⟩
  · intro hread
    obtain ⟨settled, hsettle, hread⟩ := hread
    exact (hagrees settled hsettle next).mpr hread

/-! ## Flags -/

theorem takeFlag_ok_iff :
    reading.takeFlag name = .ok next ↔
      ∃ settled, reading.settle = .ok settled ∧ name ≠ .help ∧ name ≠ .version ∧
        (.option name ∉ settled.given ∧
          { settled with
            given := settled.given ++ [.option name]
            quiet := settled.quiet || name = .quiet } = next ∨
        .option name ∈ settled.given ∧ name.isRepeatable = true ∧ settled = next) := by
  unfold takeFlag
  rw [Except.bind_eq_ok_iff]
  refine exists_congr fun settled => and_congr_right fun _ => ?_
  by_cases hgiven : Argument.option name ∈ settled.given
  · cases name <;>
      simp [hgiven, OptionName.isRepeatable, throw, throwThe, MonadExceptOf.throw, pure,
        Except.pure]
  · cases name <;>
      simp [hgiven, throw, throwThe, MonadExceptOf.throw, pure, Except.pure]

theorem takeFlag_settled (hsettle : reading.settle = .ok settled) :
    settled.takeFlag name = reading.takeFlag name := by
  unfold takeFlag
  rw [hsettle, settle_settled hsettle]

theorem readShort_cons_ok_iff {c : Char} {rest : List Char} :
    reading.readShort (c :: rest) = .ok next ↔
      ∃ name, reading.grammar.shortOption? c = some name ∧
        ∃ middle, reading.takeFlag name = .ok middle ∧
          middle.readShort rest = .ok next := by
  rw [readShort]
  cases reading.grammar.shortOption? c with
  | none => simp
  | some name =>
      rw [Except.bind_eq_ok_iff]
      simp only [Option.some.injEq, exists_eq_left']

theorem settlesFirst_readShort (reading : Reading) (c : Char) (rest : List Char) :
    SettlesFirst (·.readShort (c :: rest)) reading := by
  apply settlesFirst_of_agrees
  · intro next hread
    obtain ⟨name, -, middle, htake, -⟩ := readShort_cons_ok_iff.mp hread
    obtain ⟨settled, hsettle, -⟩ := takeFlag_ok_iff.mp htake
    exact ⟨settled, hsettle⟩
  · intro settled hsettle next
    simp only [readShort_cons_ok_iff, (settle_ok hsettle).2.1, takeFlag_settled hsettle]

/-! ## Options -/

def longName (body : List Char) : String :=
  String.ofList (body.takeWhile (· ≠ '='))

def longValue? (body : List Char) : Option String :=
  (body.dropWhile (· ≠ '=')).tail?.map String.ofList

/-- What an option, with the value that is attached to it, makes of a reading in
which nothing is pending. -/
def Takes (settled : Reading) (name : OptionName) : Option String → Reading → Prop
  | none, next =>
    if name.takesValue then { settled with pending := some (.option name, none) } = next
    else settled.takeFlag name = .ok next
  | some value, next =>
    name.takesValue = true ∧
      settle { settled with pending := some (.option name, some value) } = .ok next

theorem readLong_ok_iff {body : List Char} :
    reading.readLong later body = .ok next ↔
      ∃ name, reading.grammar.option? (longName body) = some name ∧
        ∃ settled, reading.settle = .ok settled ∧
          settled.Takes name (longValue? body) next := by
  unfold readLong longName longValue?
  dsimp only
  generalize (body.dropWhile (· ≠ '=')).tail?.map String.ofList = value?
  cases reading.grammar.option? (String.ofList (body.takeWhile (· ≠ '='))) with
  | none => simp
  | some name =>
      simp only [Option.some.injEq, exists_eq_left']
      by_cases hvalued : name.takesValue = true
      · rw [if_pos hvalued, Except.bind_eq_ok_iff]
        cases value? with
        | none => simp [Takes, hvalued, pure, Except.pure]
        | some value => simp [Takes, hvalued]
      · rw [if_neg hvalued]
        cases value? with
        | none =>
            simp only [Takes, hvalued]
            constructor
            · intro htake
              obtain ⟨settled, hsettle, -⟩ := takeFlag_ok_iff.mp htake
              exact ⟨settled, hsettle, (takeFlag_settled hsettle).trans htake⟩
            · intro htake
              obtain ⟨settled, hsettle, htake⟩ := htake
              exact (takeFlag_settled hsettle).symm.trans htake
        | some value => simp [Takes, hvalued]

theorem settlesFirst_readLong (reading : Reading) (later : List String)
    (body : List Char) : SettlesFirst (·.readLong later body) reading := by
  apply settlesFirst_of_agrees
  · intro next hread
    obtain ⟨name, -, settled, hsettle, -⟩ := readLong_ok_iff.mp hread
    exact ⟨settled, hsettle⟩
  · intro settled hsettle next
    simp only [readLong_ok_iff, (settle_ok hsettle).2.1, hsettle, settle_settled hsettle]

/-! ## Operands and values -/

theorem readOperand_ok_iff {isTrailing : Bool} :
    readOperand isTrailing reading text = .ok next ↔
      reading.grammar.operand?.isSome = true ∧ reading.hasOperand = false ∧
        ∃ settled, reading.settle = .ok settled ∧
          { settled with pending := some (.operand, some text) } = next := by
  unfold readOperand
  by_cases hplace : reading.grammar.operand?.isSome = true ∧ reading.hasOperand = false
  · rw [if_pos (by simp [hplace]), Except.bind_eq_ok_iff]
    simp [hplace, pure, Except.pure]
  · rw [if_neg (by simpa using hplace)]
    constructor
    · intro hread
      exact absurd hread misplaced_ne_ok
    · intro hread
      exact absurd ⟨hread.1, hread.2.1⟩ hplace

theorem settlesFirst_readOperand (isTrailing : Bool) (text : String)
    (reading : Reading) : SettlesFirst (readOperand isTrailing · text) reading := by
  apply settlesFirst_of_agrees
  · intro next hread
    obtain ⟨-, -, settled, hsettle, -⟩ := readOperand_ok_iff.mp hread
    exact ⟨settled, hsettle⟩
  · intro settled hsettle next
    simp only [readOperand_ok_iff, (settle_ok hsettle).2, hsettle, settle_settled hsettle]

/-- Reads an argument that does not look like an option. -/
def readWord (reading : Reading) (text : String) : Except Halt Reading :=
  match reading.pending with
  | some (argument, none) => .ok { reading with pending := some (argument, some text) }
  | _ => reading.readOperand false text

theorem readWord_of_awaits (hpending : reading.pending = some (argument, none)) :
    reading.readWord text = .ok { reading with pending := some (argument, some text) } := by
  unfold readWord
  rw [hpending]

theorem readWord_of_not_awaits (hawaits : reading.awaitsValue = false) :
    reading.readWord text = reading.readOperand false text := by
  unfold readWord
  split
  next argument hpending =>
    rw [awaitsValue, hpending] at hawaits
    cases hawaits
  · rfl

theorem settlesFirst_readWord (hawaits : reading.awaitsValue = false) :
    SettlesFirst (·.readWord text) reading := by
  intro next
  simp only [readWord_of_not_awaits hawaits, settlesFirst_readOperand false text reading next]
  refine exists_congr fun settled => and_congr_right fun hsettle => ?_
  rw [readWord_of_not_awaits (not_awaitsValue_of_settle (settle_settled hsettle))]

/-- The dashes in front of an argument tell how it is read. -/
theorem readArgument_cases (text : String) :
    (∃ body, text.toList = '-' :: '-' :: body ∧
      ∀ reading later, readArgument reading text later = reading.readLong later body) ∨
    (∃ c rest, ∀ reading later,
      readArgument reading text later = reading.readShort (c :: rest)) ∨
    ∀ reading later, readArgument reading text later = reading.readWord text := by
  unfold readArgument
  split
  next body htext => exact Or.inl ⟨body, htext, fun _ _ => rfl⟩
  next c rest _ _ => exact Or.inr (Or.inl ⟨c, rest, fun _ _ => rfl⟩)
  next => exact Or.inr (Or.inr fun _ _ => rfl)

theorem settlesFirst_readArgument (hawaits : reading.awaitsValue = false) :
    SettlesFirst (·.readArgument text later) reading := by
  rcases readArgument_cases text with ⟨body, -, hread⟩ | ⟨c, rest, hread⟩ | hread
  · simp only [hread]
    exact settlesFirst_readLong reading later body
  · simp only [hread]
    exact settlesFirst_readShort reading c rest
  · simp only [hread]
    exact settlesFirst_readWord hawaits

/-! ## Lines -/

/-- What is read of some words up to a command, all of which is accepted. -/
def Accepts (reading : Reading) (words : List String) (accepted : Reading)
    (next? : Option (String × List String)) : Prop :=
  ∃ last, reading.readAll words = .ok (last, next?) ∧ last.settle = .ok accepted

def IsCommand (reading : Reading) (text : String) : Prop :=
  reading.awaitsValue = false ∧ text ∈ reading.grammar.commandNames

theorem accepts_nil_iff :
    reading.Accepts [] accepted next? ↔ reading.settle = .ok accepted ∧ next? = none := by
  simp [Accepts, readAll, and_comm, eq_comm]

theorem accepts_command_iff (hcommand : reading.IsCommand text) :
    reading.Accepts (text :: later) accepted next? ↔
      reading.settle = .ok accepted ∧ next? = some (text, later) := by
  have hread : (!reading.awaitsValue &&
      reading.grammar.commandNames.contains text) = true := by
    simpa [IsCommand] using hcommand
  unfold Accepts
  rw [readAll, if_pos hread]
  simp [pure, Except.pure, and_comm, eq_comm]

/-- What is read of the operands behind two dashes, all of which are accepted. -/
def AcceptsOperands (reading : Reading) (operands : List String)
    (accepted : Reading) : Prop :=
  ∃ last, operands.foldlM (readOperand true) reading = .ok last ∧
    last.settle = .ok accepted

theorem accepts_dashes_iff (hcommand : ¬ reading.IsCommand "--") :
    reading.Accepts ("--" :: later) accepted next? ↔
      reading.AcceptsOperands later accepted ∧ next? = none := by
  have hread : ¬ (!reading.awaitsValue &&
      reading.grammar.commandNames.contains "--") = true := by
    simpa [IsCommand] using hcommand
  unfold Accepts AcceptsOperands
  rw [readAll, if_neg hread, if_pos rfl]
  cases later.foldlM (readOperand true) reading with
  | error halt => simp [bind, Except.bind]
  | ok last => simp [bind, Except.bind, pure, Except.pure, and_comm, eq_comm]

theorem accepts_argument_iff (hcommand : ¬ reading.IsCommand text) (hdashes : text ≠ "--") :
    reading.Accepts (text :: later) accepted next? ↔
      ∃ middle, reading.readArgument text later = .ok middle ∧
        middle.Accepts later accepted next? := by
  have hread : ¬ (!reading.awaitsValue &&
      reading.grammar.commandNames.contains text) = true := by
    simpa [IsCommand] using hcommand
  unfold Accepts
  rw [readAll, if_neg hread, if_neg hdashes]
  cases reading.readArgument text later with
  | error halt => simp [bind, Except.bind]
  | ok middle => simp [bind, Except.bind]

theorem settle_iff_settled :
    reading.settle = .ok accepted ↔
      ∃ settled, reading.settle = .ok settled ∧ settled.settle = .ok accepted := by
  constructor
  · intro hsettle
    exact ⟨accepted, hsettle, settle_settled hsettle⟩
  · intro hsettle
    obtain ⟨settled, hsettle, hagain⟩ := hsettle
    rw [settle_settled hsettle] at hagain
    rwa [← hagain]

theorem SettlesFirst.exists_iff {read : Reading → Except Halt Reading}
    (hfirst : SettlesFirst read reading) (goal : Reading → Prop) :
    (∃ middle, read reading = .ok middle ∧ goal middle) ↔
      ∃ settled, reading.settle = .ok settled ∧
        ∃ middle, read settled = .ok middle ∧ goal middle := by
  constructor
  · intro hread
    obtain ⟨middle, hread, hgoal⟩ := hread
    obtain ⟨settled, hsettle, hread⟩ := (hfirst middle).mp hread
    exact ⟨settled, hsettle, middle, hread, hgoal⟩
  · intro hread
    obtain ⟨settled, hsettle, middle, hread, hgoal⟩ := hread
    exact ⟨middle, (hfirst middle).mpr ⟨settled, hsettle, hread⟩, hgoal⟩

theorem acceptsOperands_nil_iff :
    reading.AcceptsOperands [] accepted ↔ reading.settle = .ok accepted := by
  simp [AcceptsOperands, pure, Except.pure]

theorem acceptsOperands_cons_iff {operands : List String} :
    reading.AcceptsOperands (text :: operands) accepted ↔
      ∃ middle, readOperand true reading text = .ok middle ∧
        middle.AcceptsOperands operands accepted := by
  unfold AcceptsOperands
  rw [List.foldlM_cons]
  cases readOperand true reading text with
  | error halt => simp [bind, Except.bind]
  | ok middle => simp [bind, Except.bind]

theorem acceptsOperands_iff_settled {operands : List String} :
    reading.AcceptsOperands operands accepted ↔
      ∃ settled, reading.settle = .ok settled ∧
        settled.AcceptsOperands operands accepted := by
  cases operands with
  | nil =>
      simp only [acceptsOperands_nil_iff]
      exact settle_iff_settled
  | cons text operands =>
      simp only [acceptsOperands_cons_iff]
      exact (settlesFirst_readOperand true text reading).exists_iff _

theorem isCommand_settled (hsettle : reading.settle = .ok settled) :
    settled.IsCommand text ↔ reading.IsCommand text := by
  unfold IsCommand
  rw [not_awaitsValue_of_settle hsettle,
    not_awaitsValue_of_settle (settle_settled hsettle), (settle_ok hsettle).2.1]

/-- What is accepted of a line goes on from what is accepted of the pending
argument. -/
theorem accepts_iff_settled (hawaits : reading.awaitsValue = false) :
    reading.Accepts words accepted next? ↔
      ∃ settled, reading.settle = .ok settled ∧
        settled.Accepts words accepted next? := by
  cases words with
  | nil =>
      simp only [accepts_nil_iff, ← and_assoc, exists_and_right]
      rw [settle_iff_settled]
  | cons text later =>
      by_cases hcommand : reading.IsCommand text
      · rw [accepts_command_iff hcommand, settle_iff_settled, ← exists_and_right]
        refine exists_congr fun settled => ?_
        rw [and_assoc]
        refine and_congr_right fun hsettle => ?_
        rw [accepts_command_iff ((isCommand_settled hsettle).mpr hcommand)]
      · have hsettled {settled : Reading} (hsettle : reading.settle = .ok settled) :
            ¬ settled.IsCommand text := by
          rwa [isCommand_settled hsettle]
        by_cases hdashes : text = "--"
        · subst text
          rw [accepts_dashes_iff hcommand, acceptsOperands_iff_settled,
            ← exists_and_right]
          refine exists_congr fun settled => ?_
          rw [and_assoc]
          refine and_congr_right fun hsettle => ?_
          rw [accepts_dashes_iff (hsettled hsettle)]
        · rw [accepts_argument_iff hcommand hdashes,
            (settlesFirst_readArgument hawaits).exists_iff]
          refine exists_congr fun settled => and_congr_right fun hsettle => ?_
          rw [accepts_argument_iff (hsettled hsettle) hdashes]

theorem settle_ne_ok_of_awaits (hpending : reading.pending = some (argument, none)) :
    reading.settle ≠ .ok settled := by
  intro hsettle
  have hawaits : reading.awaitsValue = true := awaitsValue_iff.mpr ⟨argument, hpending⟩
  rw [not_awaitsValue_of_settle hsettle] at hawaits
  cases hawaits

/-- An argument that waits for its value takes the next word for it. -/
theorem readArgument_of_awaits (hpending : reading.pending = some (argument, none))
    (hread : reading.readArgument text later = .ok next) :
    next = { reading with pending := some (argument, some text) } := by
  rcases readArgument_cases text with ⟨body, -, hcase⟩ | ⟨c, rest, hcase⟩ | hcase
  · rw [hcase, settlesFirst_readLong reading later body next] at hread
    obtain ⟨settled, hsettle, -⟩ := hread
    exact absurd hsettle (settle_ne_ok_of_awaits hpending)
  · rw [hcase, settlesFirst_readShort reading c rest next] at hread
    obtain ⟨settled, hsettle, -⟩ := hread
    exact absurd hsettle (settle_ne_ok_of_awaits hpending)
  · rw [hcase, readWord_of_awaits hpending] at hread
    cases hread
    rfl

theorem accepts_awaiting (hpending : reading.pending = some (argument, none))
    (haccepts : reading.Accepts words accepted next?) :
    ∃ value later, words = value :: later ∧
      Accepts { reading with pending := some (argument, some value) } later accepted
        next? := by
  have hawaits : reading.awaitsValue = true := awaitsValue_iff.mpr ⟨argument, hpending⟩
  have hcommand (text : String) : ¬ reading.IsCommand text := by
    simp [IsCommand, hawaits]
  cases words with
  | nil =>
      rw [accepts_nil_iff] at haccepts
      exact absurd haccepts.1 (settle_ne_ok_of_awaits hpending)
  | cons text later =>
      refine ⟨text, later, rfl, ?_⟩
      by_cases hdashes : text = "--"
      · subst text
        rw [accepts_dashes_iff (hcommand "--"), acceptsOperands_iff_settled] at haccepts
        obtain ⟨⟨settled, hsettle, -⟩, -⟩ := haccepts
        exact absurd hsettle (settle_ne_ok_of_awaits hpending)
      · rw [accepts_argument_iff (hcommand text) hdashes] at haccepts
        obtain ⟨middle, hread, haccepts⟩ := haccepts
        rwa [readArgument_of_awaits hpending hread] at haccepts

end Reading

/-! ## Whole lines -/

def presentationOf (outer inner : Reading) : Presentation where
  format := (inner.output? <|> outer.output?).getD .text
  quiet := inner.quiet || outer.quiet

/-- What is accepted in front of the command and behind it gives the
invocation. -/
theorem parse_ok_iff {arguments : List String} {invocation : Invocation} :
    parse arguments = .ok invocation ↔
      ∃ outer name rest verb inner next?,
        Reading.Accepts { grammar := .root } arguments outer (some (name, rest)) ∧
        Verb.ofName? name = some verb ∧
        Reading.Accepts { grammar := .ofVerb verb } rest inner next? ∧
        commandOf verb inner = .ok invocation.command ∧
        presentationOf outer inner = invocation.presentation := by
  constructor
  · intro hparse
    unfold parse at hparse
    obtain ⟨⟨outer, next?⟩, houter, hparse⟩ := Except.bind_eq_ok_iff.mp hparse
    cases next? with
    | none =>
        obtain ⟨settled, -, hparse⟩ := Except.bind_eq_ok_iff.mp hparse
        exact absurd hparse Reading.misuseWithUsage_ne_ok
    | some next =>
        obtain ⟨name, rest⟩ := next
        dsimp only at hparse
        cases hverb : Verb.ofName? name with
        | none =>
            rw [hverb] at hparse
            cases hparse
        | some verb =>
            rw [hverb] at hparse
            obtain ⟨⟨inner, next?⟩, hinner, hparse⟩ := Except.bind_eq_ok_iff.mp hparse
            obtain ⟨inner', hinner', hparse⟩ := Except.bind_eq_ok_iff.mp hparse
            obtain ⟨command, hcommand, hparse⟩ := Except.bind_eq_ok_iff.mp hparse
            obtain ⟨outer', houter', hparse⟩ := Except.bind_eq_ok_iff.mp hparse
            cases hparse
            exact ⟨outer', name, rest, verb, inner', next?, ⟨outer, houter, houter'⟩,
              hverb, ⟨inner, hinner, hinner'⟩, hcommand, rfl⟩
  · intro hparts
    obtain ⟨outer', name, rest, verb, inner', next?, ⟨outer, houter, houter'⟩, hverb,
      ⟨inner, hinner, hinner'⟩, hcommand, hpresentation⟩ := hparts
    unfold parse
    refine Except.bind_eq_ok_iff.mpr ⟨_, houter, ?_⟩
    dsimp only
    rw [hverb]
    refine Except.bind_eq_ok_iff.mpr ⟨_, hinner, ?_⟩
    refine Except.bind_eq_ok_iff.mpr ⟨_, hinner', ?_⟩
    refine Except.bind_eq_ok_iff.mpr ⟨_, hcommand, ?_⟩
    refine Except.bind_eq_ok_iff.mpr ⟨_, houter', ?_⟩
    exact congrArg (fun presentation => Except.ok (Invocation.mk invocation.command presentation))
      hpresentation

end Statecharts.CommandLine
