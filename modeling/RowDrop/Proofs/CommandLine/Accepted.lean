import RowDrop.Proofs.CommandLine.Spelling

/-!
# Which arguments are accepted

Arguments are accepted exactly if they spell options of which none stands twice and none is empty
that must not be (`parse_eq_ok_iff`). Arguments that are not accepted are refused with a message
about the use of the command line, unless one of them asks for the help or the version
(`isUsage_of_parse`).
-/

namespace RowDrop.CommandLine

/-- Letters behind one dash ask for a text: one of them is the letter of an option that prints one,
and in front of it are letters of options without values. -/
inductive AsksLetters : List Char → Prop
  | here {flag : Flag} {letter : Char} {letters : List Char} : flag.letter? = some letter →
      flag.prints → AsksLetters (letter :: letters)
  | behind {flag : Flag} {letter : Char} {letters : List Char} : flag.letter? = some letter →
      flag.takesValue = false → AsksLetters letters → AsksLetters (letter :: letters)

/-- An argument asks for the help or the version. -/
inductive Asks : String → Prop
  | word {flag : Flag} {word : String} : flag.word? = some word → flag.prints → Asks ("--" ++ word)
  | letters {letters : List Char} : AsksLetters letters → Asks (String.ofList ('-' :: letters))

variable {argument word : String} {arguments : List String} {letters : List Char}
variable {given front result : List (Flag × String)} {flag : Flag} {waits : Option Flag}
variable {reading after : Reading} {value : Option String} {stop : Stop}

/-! ## Arguments that ask for a text -/

theorem AsksLetters.ne_dash {letter : Char} (h : AsksLetters (letter :: letters)) :
    letter ≠ '-' := by
  cases h with
  | here spelled | behind spelled => exact Flag.letter_ne_dash spelled

theorem SpellsLetters.not_asks (h : SpellsLetters given waits letters) : ¬AsksLetters letters := by
  -- the option of the first letter is known, so it takes a value and prints as this option does
  have same {flag other : Flag} {letter : Char} (spelled : flag.letter? = some letter)
      (spelled' : other.letter? = some letter) : flag = other :=
    Option.some.inj ((Flag.ofLetter?_letter spelled).symm.trans (Flag.ofLetter?_letter spelled'))
  induction h with
  | nil => nofun
  | switch spelled _ quiet _ ih =>
    intro asks
    cases asks with
    | here spelled' prints =>
      obtain rfl := same spelled spelled'
      exact absurd prints (by simp [quiet])
    | behind _ _ others => exact ih others
  | attached spelled takes | equals spelled takes | waits spelled takes =>
    intro asks
    cases asks with
    | here spelled' prints =>
      obtain rfl := same spelled spelled'
      exact absurd prints (by simp [Flag.not_prints_of_takesValue takes])
    | behind spelled' switch =>
      obtain rfl := same spelled spelled'
      exact absurd takes (by simp [switch])

/-- An argument that asks for a text is a word or letters. -/
theorem Asks.token (h : Asks argument) :
    (∃ (flag : Flag) (word : String), Token.ofArgument argument = .word word none ∧
        flag.word? = some word ∧ flag.prints) ∨
      ∃ letters, Token.ofArgument argument = .letters letters ∧ AsksLetters letters := by
  cases h with
  | word spelled prints =>
    obtain ⟨noEquals, full⟩ := Flag.word_spec spelled
    exact .inl ⟨_, _, Token.ofArgument_alone noEquals full, spelled, prints⟩
  | @letters letters asks =>
    cases letters with
    | nil => cases asks
    | cons => exact .inr ⟨_, Token.ofArgument_letters asks.ne_dash, asks⟩

theorem SpellsArgument.not_asks (h : SpellsArgument given waits argument) : ¬Asks argument := by
  intro asks
  cases h with
  | @word flag word spelled takes =>
    obtain ⟨noEquals, full⟩ := Flag.word_spec spelled
    have token := Token.ofArgument_alone noEquals full
    rcases asks.token with ⟨other, _, token', spelled', prints⟩ | ⟨_, token', -⟩
    · obtain ⟨rfl, -⟩ := Token.word.inj (token.symm.trans token')
      obtain rfl : flag = other := Option.some.inj
        ((Flag.ofWord?_word spelled).symm.trans (Flag.ofWord?_word spelled'))
      exact absurd prints (by simp [Flag.not_prints_of_takesValue takes])
    · cases token.symm.trans token'
  | @equals _ word value spelled takes =>
    have token := @Token.ofArgument_attached word value (Flag.word_spec spelled).1
    rcases asks.token with ⟨_, _, token', -⟩ | ⟨_, token', -⟩ <;> cases token.symm.trans token'
  | letters some spelled =>
    rcases asks.token with ⟨_, _, token', -⟩ | ⟨_, token', asks⟩
    · cases (spelled.token some).symm.trans token'
    · obtain rfl := Token.letters.inj ((spelled.token some).symm.trans token')
      exact spelled.not_asks asks

theorem IsValue.not_asks (h : IsValue argument) : ¬Asks argument := by
  intro asks
  have token := Token.ofArgument_eq_plain_iff.mpr h
  rcases asks.token with ⟨_, _, token', -⟩ | ⟨_, token', -⟩ <;> cases token.symm.trans token'

/-- Arguments that spell options ask for no text. -/
theorem Spells.silent (h : Spells given arguments) : ∀ argument ∈ arguments, ¬Asks argument := by
  induction h with
  | nil => simp
  | separator =>
    have separated : Token.ofArgument "--" = .separator := rfl
    intro argument member asks
    obtain rfl := List.mem_singleton.mp member
    rcases asks.token with ⟨_, _, token, -⟩ | ⟨_, token, -⟩ <;> cases separated.symm.trans token
  | whole first _ ih => exact List.forall_mem_cons.mpr ⟨first.not_asks, ih⟩
  | next first plain _ ih =>
    exact List.forall_mem_cons.mpr
      ⟨first.not_asks, List.forall_mem_cons.mpr ⟨plain.not_asks, ih⟩⟩

/-! ## What is accepted is spelled -/

namespace Reading

/-- What waits is settled, and the option at the end of what was read waits for its value or none
does. -/
def Follows (reading : Reading) (waits : Option Flag) (after : Reading) : Prop :=
  (∃ front, reading.settled = .ok front) ∧ after.waiting = waits.map (·, none)

theorem follows_of_acceptNow (h : reading.acceptNow flag value = .ok after) :
    reading.Follows none after ∧ flag.prints = false := by
  refine ⟨?_, ?_⟩
  · cases acceptNow_ok h with
    | now settled => exact ⟨⟨_, settled⟩, rfl⟩
  · obtain ⟨front, -, rest⟩ := bind_eq_ok.mp h
    cases flag with
    | help | version => simp at rest
    | path | undo | config | endpoint | stagingPath => rfl

theorem follows_of_await (h : reading.await flag = .ok after) :
    reading.Follows (some flag) after := by
  obtain ⟨front, settled, rest⟩ := bind_eq_ok.mp h
  obtain rfl := Except.ok.inj rest
  exact ⟨⟨front, settled⟩, rfl⟩

/-- Letters that are read spell options. -/
theorem spells_of_readLetters (h : reading.readLetters letters = .ok after) :
    ∃ given waits, SpellsLetters given waits letters ∧
      (letters ≠ [] → reading.Follows waits after) := by
  induction letters generalizing reading with
  | nil => exact ⟨[], none, .nil, absurd rfl⟩
  | cons letter rest ih =>
    rw [readLetters] at h
    cases known : Flag.ofLetter? letter with
    | none =>
      rw [known] at h
      cases h
    | some flag =>
      have spelled := Flag.letter?_of_ofLetter? known
      rw [known] at h
      dsimp only at h
      split_ifs at h with takes
      · cases rest with
        | nil => exact ⟨_, _, .waits spelled takes, fun _ => follows_of_await h⟩
        | cons c value =>
          by_cases mark : c = '='
          · subst mark
            exact ⟨_, _, .equals spelled takes, fun _ => (follows_of_acceptNow h).1⟩
          · have full : c :: value ≠ [] := List.cons_ne_nil _ _
            have plain : (c :: value).head? ≠ some '=' := by simpa using mark
            rw [attached_of_plain full plain] at h
            exact ⟨_, _, .attached spelled takes full plain, fun _ => (follows_of_acceptNow h).1⟩
      · cases accepted : reading.acceptNow flag none with
        | error stop =>
          rw [accepted] at h
          cases h
        | ok next =>
          rw [accepted] at h
          obtain ⟨first, quiet⟩ := follows_of_acceptNow accepted
          obtain ⟨given, waits, others, follows⟩ := ih h
          refine ⟨_, waits, .switch spelled (by simpa using takes) quiet others, fun _ => ?_⟩
          cases rest with
          | nil =>
            cases others
            obtain rfl := Except.ok.inj h
            exact first
          | cons => exact ⟨first.1, (follows (List.cons_ne_nil _ _)).2⟩

/-- A word that is read spells an option. -/
theorem spells_of_readWord (token : Token.ofArgument argument = .word word value)
    (h : reading.readWord word value = .ok after) :
    ∃ given waits, SpellsArgument given waits argument ∧ reading.Follows waits after := by
  rw [readWord] at h
  cases known : Flag.ofWord? word with
  | none =>
    rw [known] at h
    cases h
  | some flag =>
    have spelled := Flag.word?_of_ofWord? known
    have written := Token.eq_of_ofArgument token
    rw [known] at h
    dsimp only at h
    split_ifs at h with takes
    · cases value with
      | none =>
        obtain rfl : argument = "--" ++ word := by simpa using written
        exact ⟨_, _, .word spelled takes, follows_of_await h⟩
      | some value =>
        obtain rfl : argument = "--" ++ word ++ "=" ++ value := by
          simpa [String.append_assoc] using written
        exact ⟨_, _, .equals spelled takes, (follows_of_acceptNow h).1⟩
    · -- an option with a word and no value prints a text, so it is not accepted
      cases value with
      | some value => cases h
      | none =>
        have quiet := (follows_of_acceptNow h).2
        cases flag with
        | path | config | endpoint | stagingPath => exact absurd rfl takes
        | help | version => cases quiet
        | undo => cases spelled

/-- What can stand behind what was read: options, or first the value of the option that waits. -/
inductive GoesOn (reading : Reading) : List String → Prop
  | options {given : List (Flag × String)} {arguments : List String} :
      (∀ flag, reading.waiting ≠ some (flag, none)) → Spells given arguments →
      GoesOn reading arguments
  | value {given : List (Flag × String)} {flag : Flag} {held : String} {arguments : List String} :
      reading.waiting = some (flag, none) → IsValue held → Spells given arguments →
      GoesOn reading (held :: arguments)

/-- Only options that take a value wait for one. -/
def WaitsWell (reading : Reading) : Prop :=
  ∀ flag, reading.waiting = some (flag, none) → flag.takesValue

theorem WaitsWell.not_waiting (h : reading.WaitsWell) (settled : reading.settled = .ok front) :
    ∀ flag, reading.waiting ≠ some (flag, none) := by
  intro flag waiting
  have complete := (accept_ok ((settled_waiting waiting).mp settled)).2.2 (h flag waiting)
  cases complete

theorem Follows.waitsWell (h : reading.Follows waits after)
    (spelled : SpellsArgument given waits argument) : after.WaitsWell := by
  intro flag waiting
  rw [h.2] at waiting
  cases waits with
  | none => cases waiting
  | some other =>
    obtain rfl : other = flag := by simpa using waiting
    exact spelled.takesValue

theorem Follows.spells (h : reading.Follows waits after)
    (spelled : SpellsArgument given waits argument) (rest : after.GoesOn arguments) :
    ∃ given, Spells given (argument :: arguments) := by
  cases waits with
  | none =>
    cases rest with
    | options _ others => exact ⟨_, .whole spelled others⟩
    | value waiting =>
      rw [h.2] at waiting
      cases waiting
  | some flag =>
    cases rest with
    | options idle => exact absurd h.2 (idle flag)
    | value _ plain others => exact ⟨_, .next spelled plain others⟩

/-- Arguments that are read can stand behind what was read before. -/
theorem goesOn_of_readAll (h : reading.readAll arguments = .ok result)
    (well : reading.WaitsWell) : reading.GoesOn arguments := by
  induction arguments generalizing reading with
  | nil => exact .options (well.not_waiting h) .nil
  | cons argument arguments ih =>
    rw [readAll.eq_def] at h
    dsimp only at h
    cases token : Token.ofArgument argument with
    | separator =>
      rw [token] at h
      obtain rfl := Token.eq_of_separator token
      cases arguments with
      | nil => exact .options (well.not_waiting h) .separator
      | cons => cases h
    | word word value =>
      rw [token] at h
      obtain ⟨after, read, rest⟩ := bind_eq_ok.mp h
      obtain ⟨given, waits, spelled, follows⟩ := spells_of_readWord token read
      obtain ⟨whole, spelled'⟩ := follows.spells spelled (ih rest (follows.waitsWell spelled))
      exact .options (well.not_waiting follows.1.choose_spec) spelled'
    | letters letters =>
      rw [token] at h
      have some := Token.letters_ne_nil token
      obtain rfl := Token.eq_of_letters token
      obtain ⟨after, read, rest⟩ := bind_eq_ok.mp h
      obtain ⟨given, waits, spelled, follows⟩ := spells_of_readLetters read
      have argument := SpellsArgument.letters some spelled
      have follows := follows some
      obtain ⟨whole, spelled'⟩ := follows.spells argument (ih rest (follows.waitsWell argument))
      exact .options (well.not_waiting follows.1.choose_spec) spelled'
    | plain =>
      rw [token] at h
      obtain ⟨after, read, rest⟩ := bind_eq_ok.mp h
      rw [readPlain] at read
      split at read
      · next flag waiting =>
        obtain rfl := Except.ok.inj read
        cases ih rest (by simp [WaitsWell]) with
        | options _ others =>
          exact .value waiting (Token.ofArgument_eq_plain_iff.mp token) others
        | value waits => simp at waits
      · cases read

end Reading

/-- Arguments are accepted exactly if they spell proper options, and then choose what these say. -/
theorem parse_eq_ok_iff {options : Options} :
    parse arguments = .ok options ↔
      ∃ given, Spells given arguments ∧ Proper given ∧ options = .ofGiven given := by
  constructor
  · intro accepted
    obtain ⟨result, read, -⟩ := bind_eq_ok.mp accepted
    cases Reading.goesOn_of_readAll read nofun with
    | options _ spelled => exact ⟨_, spelled, (parse_eq_ok_of_spells spelled).mp accepted⟩
    | value waiting => cases waiting
  · rintro ⟨given, spelled, chosen⟩
    exact (parse_eq_ok_of_spells spelled).mpr chosen

/-! ## Arguments that are refused -/

/-- Reading stops with a message about the use of the command line. -/
def Stop.IsUsage (stop : Stop) : Prop := ∃ error, stop = .usage error

namespace Reading

theorem isUsage_of_settled (h : reading.settled = .error stop) : stop.IsUsage := by
  rw [settled] at h
  split at h
  · cases h
  · exact ⟨_, (Except.error.inj h).symm⟩

theorem isUsage_of_acceptNow (h : reading.acceptNow flag value = .error stop) :
    stop.IsUsage ∨ flag.prints := by
  rcases bind_eq_error.mp h with unsettled | ⟨front, -, rest⟩
  · exact .inl (isUsage_of_settled unsettled)
  · split_ifs at rest with help version
    · exact .inr (help ▸ rfl)
    · exact .inr (version ▸ rfl)
    · left
      split at rest
      · cases rest
      · exact ⟨_, (Except.error.inj rest).symm⟩

theorem isUsage_of_acceptValue (takes : flag.takesValue)
    (h : reading.acceptValue flag value = .error stop) : stop.IsUsage := by
  cases value with
  | some value =>
    refine (isUsage_of_acceptNow h).resolve_right ?_
    simp [Flag.not_prints_of_takesValue takes]
  | none =>
    rcases bind_eq_error.mp h with unsettled | ⟨front, -, rest⟩
    · exact isUsage_of_settled unsettled
    · cases rest

theorem isUsage_of_readLetters (h : reading.readLetters letters = .error stop) :
    stop.IsUsage ∨ AsksLetters letters := by
  induction letters generalizing reading with
  | nil => cases h
  | cons letter rest ih =>
    rw [readLetters] at h
    cases known : Flag.ofLetter? letter with
    | none =>
      rw [known] at h
      exact .inl ⟨_, (Except.error.inj h).symm⟩
    | some flag =>
      have spelled := Flag.letter?_of_ofLetter? known
      rw [known] at h
      dsimp only at h
      split_ifs at h with takes
      · exact .inl (isUsage_of_acceptValue takes h)
      · cases accepted : reading.acceptNow flag none with
        | ok next =>
          rw [accepted] at h
          exact (ih h).imp_right (.behind spelled (by simpa using takes))
        | error other =>
          rw [accepted] at h
          obtain rfl := Except.error.inj h
          exact (isUsage_of_acceptNow accepted).imp_right (.here spelled)

theorem isUsage_of_readWord (token : Token.ofArgument argument = .word word value)
    (h : reading.readWord word value = .error stop) : stop.IsUsage ∨ Asks argument := by
  rw [readWord] at h
  cases known : Flag.ofWord? word with
  | none =>
    rw [known] at h
    exact .inl ⟨_, (Except.error.inj h).symm⟩
  | some flag =>
    have spelled := Flag.word?_of_ofWord? known
    have written := Token.eq_of_ofArgument token
    rw [known] at h
    dsimp only at h
    split_ifs at h with takes
    · exact .inl (isUsage_of_acceptValue takes h)
    · cases value with
      | some value => exact .inl ⟨_, (Except.error.inj h).symm⟩
      | none =>
        obtain rfl : argument = "--" ++ word := by simpa using written
        exact (isUsage_of_acceptNow h).imp_right (.word spelled)

theorem isUsage_of_readAll (silent : ∀ argument ∈ arguments, ¬Asks argument)
    (h : reading.readAll arguments = .error stop) : stop.IsUsage := by
  induction arguments generalizing reading with
  | nil => exact isUsage_of_settled h
  | cons argument arguments ih =>
    obtain ⟨here, others⟩ := List.forall_mem_cons.mp silent
    rw [readAll.eq_def] at h
    dsimp only at h
    cases token : Token.ofArgument argument with
    | separator =>
      rw [token] at h
      cases arguments with
      | nil => exact isUsage_of_settled h
      | cons => exact ⟨_, (Except.error.inj h).symm⟩
    | word word value =>
      rw [token] at h
      rcases bind_eq_error.mp h with refused | ⟨after, -, rest⟩
      · exact (isUsage_of_readWord token refused).resolve_right here
      · exact ih others rest
    | letters letters =>
      rw [token] at h
      obtain rfl := Token.eq_of_letters token
      rcases bind_eq_error.mp h with refused | ⟨after, -, rest⟩
      · exact (isUsage_of_readLetters refused).resolve_right fun asks => here (.letters asks)
      · exact ih others rest
    | plain =>
      rw [token] at h
      rcases bind_eq_error.mp h with refused | ⟨after, -, rest⟩
      · rw [readPlain] at refused
        split at refused
        · cases refused
        · exact ⟨_, (Except.error.inj refused).symm⟩
      · exact ih others rest

end Reading

/-- Arguments that ask for no text are accepted or refused with a message about their use. -/
theorem isUsage_of_parse (silent : ∀ argument ∈ arguments, ¬Asks argument)
    (h : parse arguments = .error stop) : stop.IsUsage := by
  rcases bind_eq_error.mp h with refused | ⟨given, -, chosen⟩
  · exact Reading.isUsage_of_readAll silent refused
  · cases chosen

end RowDrop.CommandLine
