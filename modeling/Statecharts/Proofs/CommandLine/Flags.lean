import Statecharts.Proofs.CommandLine.Arguments
import Statecharts.Proofs.Commands.Presentation

/-!
# Presentation flags

`--quiet` and `--output` may stand anywhere among the arguments.  When a line
is understood, so is the line without these flags, and it asks for the same
command.  Together with the presentation having no effect of its own this means
that the flags change neither the exit code nor the files.
-/

namespace Statecharts.CommandLine

/-- The arguments without the flags that choose the presentation.  Behind two
dashes there are no flags. -/
def withoutPresentation : List String → List String
  | [] => []
  | "--" :: operands => "--" :: operands
  | "--quiet" :: rest => withoutPresentation rest
  | "--output=text" :: rest => withoutPresentation rest
  | "--output=json" :: rest => withoutPresentation rest
  | "--output" :: "text" :: rest => withoutPresentation rest
  | "--output" :: "json" :: rest => withoutPresentation rest
  | text :: rest => text :: withoutPresentation rest

def Argument.isPresentation : Argument → Bool
  | .option .output | .option .quiet => true
  | _ => false

variable {reading settled next accepted : Reading} {argument : Argument}
  {name : OptionName} {text value : String} {words later : List String}
  {value? : Option String} {next? : Option (String × List String)}

/-! ## Places of the command line -/

namespace Grammar

variable {grammar : Grammar} {long : String} {short : Char}

/-- A place where options are understood. -/
def IsPlace (grammar : Grammar) : Prop :=
  grammar = .root ∨ ∃ verb, grammar = .ofVerb verb

theorem long_of_option? (hoption : grammar.option? long = some name) :
    name.long = long := by
  unfold option? at hoption
  simpa using List.find?_some hoption

theorem short?_of_shortOption? (hoption : grammar.shortOption? short = some name) :
    name.short? = some short := by
  unfold shortOption? at hoption
  simpa using List.find?_some hoption

theorem IsPlace.option?_quiet (hplace : grammar.IsPlace) :
    grammar.option? "quiet" = some .quiet := by
  rcases hplace with rfl | ⟨verb, rfl⟩
  · rfl
  · cases verb <;> rfl

theorem IsPlace.option?_output (hplace : grammar.IsPlace) :
    grammar.option? "output" = some .output := by
  rcases hplace with rfl | ⟨verb, rfl⟩
  · rfl
  · cases verb <;> rfl

theorem IsPlace.undashed_of_command (hplace : grammar.IsPlace)
    (hcommand : text ∈ grammar.commandNames) (rest : List Char) :
    text.toList ≠ '-' :: rest := by
  have hundashed : ∀ text ∈ grammar.commandNames, text.toList.head? ≠ some '-' := by
    rcases hplace with rfl | ⟨verb, rfl⟩
    · decide
    · cases verb <;> decide
  intro htext
  apply hundashed text hcommand
  rw [htext]
  rfl

end Grammar

/-! ## Readings without the flags -/

namespace Reading

/-- A reading as if no presentation flag had been given. -/
def plain (reading : Reading) : Reading :=
  { reading with
    given := reading.given.filter (!·.isPresentation)
    output? := none
    quiet := false }

/-- No presentation flag is pending. -/
def HoldsNoFlag (reading : Reading) : Prop :=
  ∀ argument value?, reading.pending = some (argument, value?) →
    argument.isPresentation = false

theorem holdsNoFlag_of_free (hfree : reading.pending = none) : reading.HoldsNoFlag := by
  intro argument value? hpending
  rw [hfree] at hpending
  cases hpending

theorem holdsNoFlag_of_pending (hpending : reading.pending = some (argument, value?))
    (hown : argument.isPresentation = false) : reading.HoldsNoFlag := by
  intro argument' value?' hpending'
  rw [hpending] at hpending'
  cases hpending'
  exact hown

/-- What the simulation asks of a reading: it is at a place where options are
understood, and no flag that is dropped is pending. -/
structure IsOrdinary (reading : Reading) : Prop where
  place : reading.grammar.IsPlace
  own : reading.HoldsNoFlag

theorem isOrdinary_of_free (hplace : reading.grammar.IsPlace)
    (hfree : reading.pending = none) : reading.IsOrdinary :=
  ⟨hplace, holdsNoFlag_of_free hfree⟩

theorem IsOrdinary.of_settle (hordinary : reading.IsOrdinary)
    (hsettle : reading.settle = .ok settled) : settled.IsOrdinary := by
  obtain ⟨hfree, hgrammar, -⟩ := settle_ok hsettle
  apply isOrdinary_of_free _ hfree
  rw [hgrammar]
  exact hordinary.place

theorem mem_plain_given_iff (hown : argument.isPresentation = false) :
    argument ∈ reading.plain.given ↔ argument ∈ reading.given := by
  simp [plain, hown]

theorem hasOperand_plain : reading.plain.hasOperand = reading.hasOperand := by
  have hown : Argument.operand.isPresentation = false := rfl
  have hgiven : reading.plain.given.contains .operand =
      reading.given.contains .operand := by
    simp only [List.contains_eq_mem, mem_plain_given_iff hown]
  unfold hasOperand
  rw [hgiven]
  rfl

theorem setValue_plain (hown : argument.isPresentation = false)
    (hset : reading.setValue argument value = .ok next) :
    reading.plain.setValue argument value = .ok next.plain := by
  unfold setValue at hset ⊢
  split at hset
  · cases hown
  · split at hset
    · cases hset
    next hvalue =>
      rw [if_neg hvalue]
      by_cases hoperand : argument = .operand
      · rw [if_pos hoperand] at hset ⊢
        cases hset
        rfl
      · rw [if_neg hoperand] at hset ⊢
        cases hset
        rfl

theorem settle_plain (hown : reading.HoldsNoFlag)
    (hsettle : reading.settle = .ok settled) :
    reading.plain.settle = .ok settled.plain := by
  rcases settle_ok_iff.mp hsettle with ⟨hfree, rfl⟩ | ⟨argument, value, hpending, hnew, hset⟩
  · exact settle_of_free hfree
  · have hown := hown argument _ hpending
    refine settle_ok_iff.mpr (Or.inr ⟨argument, value, hpending, ?_, ?_⟩)
    · rwa [mem_plain_given_iff hown]
    · rw [← setValue_plain hown hset]
      simp [plain, hown]

/-! ## Arguments that are kept -/

theorem takeFlag_plain (hown : (Argument.option name).isPresentation = false)
    (hfree : reading.pending = none) (htake : reading.takeFlag name = .ok next) :
    reading.plain.takeFlag name = .ok next.plain ∧ next.pending = none ∧
      next.grammar = reading.grammar := by
  have hquiet : name ≠ .quiet := by
    intro hquiet
    rw [hquiet] at hown
    cases hown
  have hplain : reading.plain.settle = .ok reading.plain := settle_of_free hfree
  rw [takeFlag_ok_iff, settle_of_free hfree] at htake
  obtain ⟨settled, hsettled, hhelp, hversion, htake⟩ := htake
  cases hsettled
  rw [takeFlag_ok_iff]
  rcases htake with ⟨hnew, rfl⟩ | ⟨hgiven, hrepeats, rfl⟩
  · refine ⟨⟨_, hplain, hhelp, hversion, Or.inl ⟨?_, ?_⟩⟩, hfree, rfl⟩
    · rwa [mem_plain_given_iff hown]
    · simp [plain, hown, hquiet]
  · refine ⟨⟨_, hplain, hhelp, hversion, Or.inr ⟨?_, hrepeats, rfl⟩⟩, hfree, rfl⟩
    rwa [mem_plain_given_iff hown]

theorem readShort_plain (letters : List Char) (hfree : reading.pending = none)
    (hread : reading.readShort letters = .ok next) :
    reading.plain.readShort letters = .ok next.plain ∧ next.pending = none ∧
      next.grammar = reading.grammar := by
  induction letters generalizing reading with
  | nil =>
      cases hread
      exact ⟨rfl, hfree, rfl⟩
  | cons c rest ih =>
      rw [readShort_cons_ok_iff] at hread ⊢
      obtain ⟨name, hname, middle, htake, hrest⟩ := hread
      -- Neither of the presentation flags has a letter.
      have hown : (Argument.option name).isPresentation = false := by
        have hshort := Grammar.short?_of_shortOption? hname
        cases name <;> first | rfl | cases hshort
      obtain ⟨htake, hfree, hgrammar⟩ := takeFlag_plain hown hfree htake
      obtain ⟨hrest, hfree, hgrammar'⟩ := ih hfree hrest
      exact ⟨⟨name, hname, _, htake, hrest⟩, hfree, hgrammar'.trans hgrammar⟩

theorem Takes.plain (hown : (Argument.option name).isPresentation = false)
    (hfree : reading.pending = none) (htakes : reading.Takes name value? next) :
    reading.plain.Takes name value? next.plain ∧ next.grammar = reading.grammar ∧
      next.HoldsNoFlag := by
  cases value? with
  | none =>
      by_cases hvalued : name.takesValue = true
      · simp only [Takes, hvalued, if_true] at htakes ⊢
        subst next
        exact ⟨rfl, rfl, holdsNoFlag_of_pending rfl hown⟩
      · simp only [Takes, hvalued] at htakes ⊢
        obtain ⟨htake, hfree, hgrammar⟩ := takeFlag_plain hown hfree htakes
        exact ⟨htake, hgrammar, holdsNoFlag_of_free hfree⟩
  | some value =>
      obtain ⟨hvalued, hset⟩ := htakes
      obtain ⟨hfree, hgrammar, -⟩ := settle_ok hset
      have hset := settle_plain (holdsNoFlag_of_pending rfl hown) hset
      exact ⟨⟨hvalued, hset⟩, hgrammar, holdsNoFlag_of_free hfree⟩

theorem readOperand_plain {isTrailing : Bool} (hordinary : reading.IsOrdinary)
    (hread : readOperand isTrailing reading text = .ok next) :
    readOperand isTrailing reading.plain text = .ok next.plain ∧ next.IsOrdinary := by
  rw [readOperand_ok_iff] at hread ⊢
  obtain ⟨hplace, hnone, settled, hsettle, hnext⟩ := hread
  subst next
  refine ⟨⟨hplace, ?_, settled.plain, settle_plain hordinary.own hsettle, rfl⟩, ?_⟩
  · rwa [hasOperand_plain]
  · exact ⟨(hordinary.of_settle hsettle).place, holdsNoFlag_of_pending rfl rfl⟩

theorem acceptsOperands_plain {operands : List String} (hordinary : reading.IsOrdinary)
    (haccepts : reading.AcceptsOperands operands accepted) :
    reading.plain.AcceptsOperands operands accepted.plain := by
  induction operands generalizing reading with
  | nil =>
      rw [acceptsOperands_nil_iff] at haccepts ⊢
      exact settle_plain hordinary.own haccepts
  | cons text operands ih =>
      rw [acceptsOperands_cons_iff] at haccepts ⊢
      obtain ⟨middle, hread, haccepts⟩ := haccepts
      obtain ⟨hread, hordinary⟩ := readOperand_plain hordinary hread
      exact ⟨middle.plain, hread, ih hordinary haccepts⟩

theorem readWord_plain (hordinary : reading.IsOrdinary)
    (hread : reading.readWord text = .ok next) :
    reading.plain.readWord text = .ok next.plain ∧ next.IsOrdinary := by
  by_cases hawaits : reading.awaitsValue = true
  · obtain ⟨argument, hpending⟩ := awaitsValue_iff.mp hawaits
    have hpending' : reading.plain.pending = some (argument, none) := hpending
    rw [readWord_of_awaits hpending] at hread
    cases hread
    have hown := hordinary.own argument none hpending
    exact ⟨readWord_of_awaits hpending', hordinary.place, holdsNoFlag_of_pending rfl hown⟩
  · rw [Bool.not_eq_true] at hawaits
    have hawaits' : reading.plain.awaitsValue = false := hawaits
    rw [readWord_of_not_awaits hawaits] at hread
    rw [readWord_of_not_awaits hawaits']
    exact readOperand_plain hordinary hread

/-- The argument names one of the presentation flags. -/
def NamesPresentation (reading : Reading) (text : String) : Prop :=
  ∃ body name, text.toList = '-' :: '-' :: body ∧
    reading.grammar.option? (longName body) = some name ∧
    (Argument.option name).isPresentation = true

theorem readArgument_plain (hordinary : reading.IsOrdinary)
    (hnames : ¬ reading.NamesPresentation text)
    (hread : reading.readArgument text later = .ok next) (later' : List String) :
    reading.plain.readArgument text later' = .ok next.plain ∧ next.IsOrdinary := by
  rcases readArgument_cases text with ⟨body, htext, hcase⟩ | ⟨c, rest, hcase⟩ | hcase
  · rw [hcase, readLong_ok_iff] at hread
    rw [hcase, readLong_ok_iff]
    obtain ⟨name, hname, settled, hsettle, htakes⟩ := hread
    have hown : (Argument.option name).isPresentation = false := by
      rw [← Bool.not_eq_true]
      intro hpresentation
      exact hnames ⟨body, name, htext, hname, hpresentation⟩
    obtain ⟨htakes, hgrammar, hnext⟩ := htakes.plain hown (settle_ok hsettle).1
    refine ⟨⟨name, hname, _, settle_plain hordinary.own hsettle, htakes⟩, ?_, hnext⟩
    rw [hgrammar]
    exact (hordinary.of_settle hsettle).place
  · rw [hcase, settlesFirst_readShort reading c rest next] at hread
    rw [hcase, settlesFirst_readShort reading.plain c rest next.plain]
    obtain ⟨settled, hsettle, hread⟩ := hread
    obtain ⟨hread, hfree, hgrammar⟩ :=
      readShort_plain (c :: rest) (settle_ok hsettle).1 hread
    refine ⟨⟨settled.plain, settle_plain hordinary.own hsettle, hread⟩, ?_⟩
    apply isOrdinary_of_free _ hfree
    rw [hgrammar]
    exact (hordinary.of_settle hsettle).place
  · rw [hcase] at hread ⊢
    exact readWord_plain hordinary hread

/-! ## Arguments that are dropped -/

theorem text_of_long {body : List Char} (htext : text.toList = '-' :: '-' :: body) :
    text = "--" ++ longName body ++ (longValue? body).elim "" ("=" ++ ·) := by
  have hvalue : ((longValue? body).elim "" ("=" ++ ·)).toList =
      body.dropWhile (· ≠ '=') := by
    unfold longValue?
    cases hrest : body.dropWhile (· ≠ '=') with
    | nil => rfl
    | cons c rest =>
        have hc : c = '=' := by
          have hhead := List.head?_dropWhile_not (· ≠ '=') body
          rw [hrest] at hhead
          simpa using hhead
        simp [hc]
  have hlong : (longName body).toList = body.takeWhile (· ≠ '=') := String.toList_ofList
  rw [← String.toList_inj, htext, String.toList_append, String.toList_append, hlong,
    hvalue, List.append_assoc, List.takeWhile_append_dropWhile]
  rfl

theorem namesPresentation_of_mem (hplace : reading.grammar.IsPlace)
    (htext : text ∈ ["--quiet", "--output", "--output=text", "--output=json"]) :
    reading.NamesPresentation text := by
  simp only [List.mem_cons, List.not_mem_nil, or_false] at htext
  rcases htext with rfl | rfl | rfl | rfl
  · exact ⟨_, _, rfl, hplace.option?_quiet, rfl⟩
  · exact ⟨_, _, rfl, hplace.option?_output, rfl⟩
  · exact ⟨_, _, rfl, hplace.option?_output, rfl⟩
  · exact ⟨_, _, rfl, hplace.option?_output, rfl⟩

theorem withoutPresentation_cons (hplace : reading.grammar.IsPlace)
    (hnames : ¬ reading.NamesPresentation text) (hdashes : text ≠ "--") :
    withoutPresentation (text :: later) = text :: withoutPresentation later := by
  have hother : text ∉ ["--quiet", "--output", "--output=text", "--output=json"] := by
    intro htext
    exact hnames (namesPresentation_of_mem hplace htext)
  simp only [List.mem_cons, List.not_mem_nil, or_false, not_or] at hother
  obtain ⟨hquiet, houtput, houtputText, houtputJson⟩ := hother
  rw [withoutPresentation]
  · exact hdashes
  · exact hquiet
  · exact houtputText
  · exact houtputJson
  · intro _ htext
    exact absurd htext houtput
  · intro _ htext
    exact absurd htext houtput

theorem takeFlag_quiet (hplace : reading.grammar.IsPlace) (hfree : reading.pending = none)
    (htake : reading.takeFlag .quiet = .ok next) :
    next.plain = reading.plain ∧ next.IsOrdinary := by
  rw [takeFlag_ok_iff, settle_of_free hfree] at htake
  obtain ⟨settled, hsettled, -, -, htake⟩ := htake
  cases hsettled
  rcases htake with ⟨-, rfl⟩ | ⟨-, hrepeats, -⟩
  · refine ⟨?_, isOrdinary_of_free hplace hfree⟩
    simp [plain, Argument.isPresentation]
  · cases hrepeats

/-- An accepted format leaves no trace but in the presentation. -/
theorem settle_output (hplace : reading.grammar.IsPlace) (hfree : reading.pending = none)
    (hsettle : settle { reading with pending := some (.option .output, value?) } =
      .ok next) :
    next.plain = reading.plain ∧ next.IsOrdinary ∧
      (value? = some "text" ∨ value? = some "json") := by
  obtain ⟨hnext, hgrammar, -⟩ := settle_ok hsettle
  have hordinary : next.IsOrdinary := by
    apply isOrdinary_of_free _ hnext
    rwa [hgrammar]
  rcases settle_ok_iff.mp hsettle with ⟨hpending, -⟩ | ⟨argument, value, hpending, -, hset⟩
  · cases hpending
  · cases hpending
    unfold setValue at hset
    split at hset
    · split at hset <;> cases hset <;> simp [plain, Argument.isPresentation, hfree, hordinary]
    next hother => exact absurd rfl hother

theorem readArgument_of_long {body : List Char} (htext : text.toList = '-' :: '-' :: body) :
    reading.readArgument text later = reading.readLong later body := by
  unfold readArgument
  rw [htext]
  rfl

/-- A presentation flag, with its value, is dropped from the line, and reading goes
on as from what was accepted in front of it. -/
theorem exists_dropped (hordinary : reading.IsOrdinary)
    (hnames : reading.NamesPresentation text)
    (hread : reading.readArgument text later = .ok next)
    (haccepts : next.Accepts later accepted next?) :
    ∃ (start : Reading) (rest : List String), reading.plain.settle = .ok start.plain ∧
      start.IsOrdinary ∧ start.Accepts rest accepted next? ∧
      rest.length ≤ later.length ∧
      withoutPresentation (text :: later) = withoutPresentation rest := by
  obtain ⟨body, name, htext, hname, hpresentation⟩ := hnames
  rw [readArgument_of_long htext, readLong_ok_iff] at hread
  obtain ⟨name', hname', settled, hsettle, htakes⟩ := hread
  rw [hname] at hname'
  cases hname'
  have hfree := (settle_ok hsettle).1
  have hplain := settle_plain hordinary.own hsettle
  have hplace := (hordinary.of_settle hsettle).place
  have htext := text_of_long htext
  rw [← Grammar.long_of_option? hname] at htext
  cases name with
  | quiet =>
      cases hvalue : longValue? body with
      | none =>
          rw [hvalue] at htext htakes
          obtain ⟨hnext, hordinary⟩ := takeFlag_quiet hplace hfree htakes
          refine ⟨next, later, ?_, hordinary, haccepts, le_rfl, ?_⟩
          · rw [hnext, hplain]
          · subst text
            rfl
      | some value =>
          rw [hvalue] at htakes
          cases htakes.1
  | output =>
      cases hvalue : longValue? body with
      | none =>
          -- The flag is accepted only with a value behind it, which is dropped too.
          rw [hvalue] at htext htakes
          cases htakes
          obtain ⟨value, rest, hlater, haccepts⟩ := accepts_awaiting rfl haccepts
          rw [accepts_iff_settled rfl] at haccepts
          obtain ⟨start, hstart, haccepts⟩ := haccepts
          obtain ⟨hnext, hordinary, hvalue⟩ := settle_output hplace hfree hstart
          refine ⟨start, rest, ?_, hordinary, haccepts, ?_, ?_⟩
          · rw [hnext, hplain]
          · simp [hlater]
          · subst text
            subst later
            rcases hvalue with hvalue | hvalue <;> cases hvalue <;> rfl
      | some value =>
          rw [hvalue] at htext htakes
          obtain ⟨hnext, hordinary, hvalue⟩ := settle_output hplace hfree htakes.2
          refine ⟨next, later, ?_, hordinary, haccepts, le_rfl, ?_⟩
          · rw [hnext, hplain]
          · subst text
            rcases hvalue with hvalue | hvalue <;> cases hvalue <;> rfl
  | verbose | config | help | version => cases hpresentation

/-! ## Lines -/

/-- The name of a command looks like no flag. -/
theorem withoutPresentation_command (hordinary : reading.IsOrdinary)
    (hcommand : reading.IsCommand text) :
    withoutPresentation (text :: later) = text :: withoutPresentation later := by
  have hundashed := hordinary.place.undashed_of_command hcommand.2
  apply withoutPresentation_cons hordinary.place
  · intro hnames
    obtain ⟨body, name, htext, -, -⟩ := hnames
    exact hundashed _ htext
  · intro hdashes
    subst text
    exact hundashed _ rfl

/-- Words that are accepted are accepted without their presentation flags as well,
and nothing else is lost of what they give. -/
theorem accepts_plain (hordinary : reading.IsOrdinary)
    (haccepts : reading.Accepts words accepted next?) :
    reading.plain.Accepts (withoutPresentation words) accepted.plain
      (next?.map (Prod.map id withoutPresentation)) := by
  -- Not on the words one by one: a dropped flag may take its value with it.
  induction hlength : words.length using Nat.strong_induction_on
    generalizing words reading with
  | h length ih =>
      cases words with
      | nil =>
          rw [accepts_nil_iff] at haccepts
          obtain ⟨hsettle, rfl⟩ := haccepts
          exact accepts_nil_iff.mpr ⟨settle_plain hordinary.own hsettle, rfl⟩
      | cons text later =>
          by_cases hcommand : reading.IsCommand text
          · have hcommand' : reading.plain.IsCommand text := hcommand
            rw [accepts_command_iff hcommand] at haccepts
            obtain ⟨hsettle, rfl⟩ := haccepts
            rw [withoutPresentation_command hordinary hcommand,
              accepts_command_iff hcommand']
            exact ⟨settle_plain hordinary.own hsettle, rfl⟩
          · have hcommand' : ¬ reading.plain.IsCommand text := hcommand
            by_cases hdashes : text = "--"
            · subst text
              rw [accepts_dashes_iff hcommand] at haccepts
              obtain ⟨haccepts, rfl⟩ := haccepts
              exact (accepts_dashes_iff hcommand').mpr
                ⟨acceptsOperands_plain hordinary haccepts, rfl⟩
            · rw [accepts_argument_iff hcommand hdashes] at haccepts
              obtain ⟨middle, hread, haccepts⟩ := haccepts
              by_cases hnames : reading.NamesPresentation text
              · obtain ⟨start, rest, hstart, hordinary, haccepts, hrest, hdropped⟩ :=
                  exists_dropped hordinary hnames hread haccepts
                have hshorter : rest.length < length := by
                  rw [← hlength, List.length_cons]
                  omega
                rw [hdropped, accepts_iff_settled (not_awaitsValue_of_settle hstart)]
                exact ⟨start.plain, hstart, ih _ hshorter hordinary haccepts rfl⟩
              · rw [withoutPresentation_cons hordinary.place hnames hdashes,
                  accepts_argument_iff hcommand' hdashes]
                obtain ⟨hread, hordinary⟩ := readArgument_plain hordinary hnames hread
                  (withoutPresentation later)
                have hshorter : later.length < length := by
                  rw [← hlength, List.length_cons]
                  omega
                exact ⟨middle.plain, hread, ih _ hshorter hordinary haccepts rfl⟩

end Reading

/-! ## Whole lines -/

theorem Reading.requireOperand_ok_iff :
    reading.requireOperand = .ok value ↔ reading.operand? = some value := by
  unfold requireOperand
  cases reading.operand? <;> simp

theorem commandOf_plain {verb : Verb} {command : Command}
    (hcommand : commandOf verb reading = .ok command) :
    commandOf verb reading.plain = .ok command := by
  unfold commandOf at hcommand ⊢
  cases verb with
  | build | test => exact hcommand
  | lex | elaborate | check | validate =>
      obtain ⟨operand, hrequire, hcommand⟩ := Except.map_eq_ok_iff.mp hcommand
      rw [Reading.requireOperand_ok_iff] at hrequire
      exact Except.map_eq_ok_iff.mpr
        ⟨operand, Reading.requireOperand_ok_iff.mpr hrequire, hcommand⟩

/-- A line that is understood asks for the same command without its presentation
flags. -/
theorem parse_withoutPresentation {arguments : List String} {invocation : Invocation}
    (hparse : parse arguments = .ok invocation) :
    parse (withoutPresentation arguments) = .ok ⟨invocation.command, {}⟩ := by
  rw [parse_ok_iff] at hparse ⊢
  obtain ⟨outer, word, rest, verb, inner, next?, houter, hverb, hinner, hcommand, -⟩ :=
    hparse
  have hroot : Grammar.root.IsPlace := Or.inl rfl
  have hbehind : (Grammar.ofVerb verb).IsPlace := Or.inr ⟨verb, rfl⟩
  have houter := Reading.accepts_plain (Reading.isOrdinary_of_free hroot rfl) houter
  have hinner := Reading.accepts_plain (Reading.isOrdinary_of_free hbehind rfl) hinner
  exact ⟨outer.plain, word, withoutPresentation rest, verb, inner.plain, _, houter, hverb,
    hinner, commandOf_plain hcommand, rfl⟩

theorem run_of_parse {arguments : List String} {invocation : Invocation}
    (hparse : parse arguments = .ok invocation) :
    (run arguments : StateM FileTree Outcome) =
      invocation.command.run invocation.presentation := by
  unfold run
  rw [hparse]
  rfl

/-- The exit code and the files that a command leaves do not depend on how it
presents its result, and two lines that differ only in presentation flags have the
same command. -/
theorem presentation_keeps_effect :
    (∀ (command : Command) (presentation presentation' : Presentation),
      SameEffect (command.run presentation) (command.run presentation')) ∧
    ∀ (arguments arguments' : List String) (invocation invocation' : Invocation),
      parse arguments = .ok invocation → parse arguments' = .ok invocation' →
      withoutPresentation arguments = withoutPresentation arguments' →
      invocation.command = invocation'.command ∧
        SameEffect (run arguments) (run arguments') := by
  refine ⟨Command.sameEffect_run, ?_⟩
  intro arguments arguments' invocation invocation' hparse hparse' hequal
  have hcommand : invocation.command = invocation'.command := by
    have hplain := parse_withoutPresentation hparse
    rw [hequal, parse_withoutPresentation hparse'] at hplain
    injection hplain with hplain
    injection hplain with hcommand
    exact hcommand.symm
  refine ⟨hcommand, ?_⟩
  rw [run_of_parse hparse, run_of_parse hparse', hcommand]
  exact Command.sameEffect_run _ _ _

theorem quiet_and_format_keep_build :
    parse ["--quiet", "build", "--config", "p.toml"] =
      .ok ⟨.build "p.toml", ⟨.text, true⟩⟩ ∧
    parse ["build", "--output", "json", "--config", "p.toml"] =
      .ok ⟨.build "p.toml", ⟨.json, false⟩⟩ ∧
    SameEffect (run ["--quiet", "build", "--config", "p.toml"])
      (run ["build", "--output", "json", "--config", "p.toml"]) := by
  have hquiet : parse ["--quiet", "build", "--config", "p.toml"] =
      .ok ⟨.build "p.toml", ⟨.text, true⟩⟩ := rfl
  have hformat : parse ["build", "--output", "json", "--config", "p.toml"] =
      .ok ⟨.build "p.toml", ⟨.json, false⟩⟩ := rfl
  exact ⟨hquiet, hformat,
    (presentation_keeps_effect.2 _ _ _ _ hquiet hformat rfl).2⟩

end Statecharts.CommandLine
