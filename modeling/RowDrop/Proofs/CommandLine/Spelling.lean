import RowDrop.Proofs.CommandLine.Choices

/-!
# How options are spelled

The grammar of a command line (`Spells`): an option stands behind two dashes as a word or behind one
dash as a letter, letters of options without values may stand together, and a value is attached to
its option or is the next argument. Arguments that spell options are accepted exactly if none of the
options stands twice or is empty that must not be (`parse_eq_ok_of_spells`), and what they choose
does not depend on the order (`Options.ofGiven_perm`).
-/

namespace RowDrop.CommandLine

/-- Letters behind one dash spell options with their values. The value of the last option may be
left to the next argument, for which this option waits. -/
inductive SpellsLetters : List (Flag × String) → Option Flag → List Char → Prop
  | nil : SpellsLetters [] none []
  | switch {flag : Flag} {letter : Char} {given : List (Flag × String)} {waits : Option Flag}
      {letters : List Char} : flag.letter? = some letter → flag.takesValue = false →
      flag.prints = false → SpellsLetters given waits letters →
      SpellsLetters ((flag, "") :: given) waits (letter :: letters)
  | attached {flag : Flag} {letter : Char} {value : List Char} : flag.letter? = some letter →
      flag.takesValue → value ≠ [] → value.head? ≠ some '=' →
      SpellsLetters [(flag, String.ofList value)] none (letter :: value)
  | equals {flag : Flag} {letter : Char} {value : List Char} : flag.letter? = some letter →
      flag.takesValue → SpellsLetters [(flag, String.ofList value)] none (letter :: '=' :: value)
  | waits {flag : Flag} {letter : Char} : flag.letter? = some letter → flag.takesValue →
      SpellsLetters [] (some flag) [letter]

/-- An argument spells options. The value of the last one may be left to the next argument. -/
inductive SpellsArgument : List (Flag × String) → Option Flag → String → Prop
  | word {flag : Flag} {word : String} : flag.word? = some word → flag.takesValue →
      SpellsArgument [] (some flag) ("--" ++ word)
  | equals {flag : Flag} {word value : String} : flag.word? = some word → flag.takesValue →
      SpellsArgument [(flag, value)] none ("--" ++ word ++ "=" ++ value)
  | letters {given : List (Flag × String)} {waits : Option Flag} {letters : List Char} :
      letters ≠ [] → SpellsLetters given waits letters →
      SpellsArgument given waits (String.ofList ('-' :: letters))

/-- An argument that can be the value of the option in front of it: a single dash, or one that does
not begin with a dash. -/
def IsValue (argument : String) : Prop :=
  argument = "-" ∨ argument.toList.head? ≠ some '-'

/-- Arguments spell options with their values. Two dashes may end them. -/
inductive Spells : List (Flag × String) → List String → Prop
  | nil : Spells [] []
  | separator : Spells [] ["--"]
  | whole {given more : List (Flag × String)} {argument : String} {arguments : List String} :
      SpellsArgument given none argument → Spells more arguments →
      Spells (given ++ more) (argument :: arguments)
  | next {given more : List (Flag × String)} {flag : Flag} {argument value : String}
      {arguments : List String} : SpellsArgument given (some flag) argument → IsValue value →
      Spells more arguments →
      Spells (given ++ (flag, value) :: more) (argument :: value :: arguments)

/-- No option stands twice, and none that needs a value has an empty one. -/
structure Proper (given : List (Flag × String)) : Prop where
  single : Reading.Single given
  filled : ∀ flag value, (flag, value) ∈ given → ¬(value = "" ∧ flag.refusesEmpty)

variable {argument word : String} {arguments : List String} {letters : List Char}
variable {given given' front more result : List (Flag × String)} {flag : Flag} {waits : Option Flag}
variable {reading after : Reading} {value : Option String} {held : String}

/-! ## Words and letters as arguments -/

namespace Flag

theorem refusesEmpty_of_not_takesValue (h : flag.takesValue = false) :
    flag.refusesEmpty = false := by
  cases flag <;> first | rfl | cases h

theorem ofLetter?_letter {letter : Char} (h : flag.letter? = some letter) :
    ofLetter? letter = some flag := by
  cases flag <;> cases h <;> rfl

theorem not_prints_of_takesValue (h : flag.takesValue) : flag.prints = false := by
  cases flag <;> first | rfl | cases h

theorem letter_ne_dash {letter : Char} (h : flag.letter? = some letter) : letter ≠ '-' := by
  cases flag <;> cases h <;> decide

/-- A word is not empty, and no equals sign is in it. -/
theorem word_spec (h : flag.word? = some word) : '=' ∉ word.toList ∧ word ≠ "" := by
  cases flag <;> cases h <;> decide

end Flag

namespace Token

theorem ofArgument_eq_plain_iff : ofArgument argument = .plain ↔ IsValue argument := by
  rw [IsValue, ← String.toList_inj, ofArgument]
  split
  case h_1 dashes => simp [dashes]
  case h_2 rest _ dashes =>
    have more : rest ≠ [] := by
      rintro rfl
      simp_all
    simp only [dashes, List.head?_cons, ne_eq, not_true, or_false]
    constructor
    · intro same
      split at same <;> cases same
    · intro same
      simp at same
  case h_3 c rest _ dash => simp [dash]
  case h_4 other =>
    simp only [true_iff]
    cases found : argument.toList with
    | nil => simp
    | cons c rest =>
      by_cases dash : c = '-'
      · subst dash
        cases rest with
        | nil => exact .inl rfl
        | cons d rest => exact absurd found (other d rest)
      · simp [dash]

theorem ofArgument_letters {letter : Char} (h : letter ≠ '-') :
    ofArgument (String.ofList ('-' :: letter :: letters)) = .letters (letter :: letters) := by
  rw [ofArgument, String.toList_ofList]
  split
  case h_1 dashes => exact absurd (List.cons.inj (List.cons.inj dashes).2).1 h
  case h_2 dashes => exact absurd (List.cons.inj (List.cons.inj dashes).2).1 h
  case h_3 same =>
    obtain ⟨-, rfl, rfl⟩ := (List.cons.inj same).imp_right List.cons.inj
    rfl
  case h_4 other => exact absurd rfl (other _ _)

theorem eq_of_letters (h : ofArgument argument = .letters letters) :
    argument = String.ofList ('-' :: letters) := by
  rw [ofArgument] at h
  split at h
  case h_1 => cases h
  case h_2 =>
    dsimp only at h
    split at h <;> cases h
  case h_3 dash =>
    obtain rfl := Token.letters.inj h
    rw [← dash, String.ofList_toList]
  case h_4 => cases h

theorem eq_of_separator (h : ofArgument argument = .separator) : argument = "--" := by
  rw [ofArgument] at h
  split at h
  case h_1 dashes => rw [← String.toList_inj, dashes]; rfl
  case h_2 =>
    dsimp only at h
    split at h <;> cases h
  case h_3 => cases h
  case h_4 => cases h

end Token

theorem SpellsLetters.takesValue (h : SpellsLetters given (some flag) letters) :
    flag.takesValue := by
  generalize same : some flag = waits at h
  induction h with
  | nil | attached | equals => cases same
  | switch _ _ _ _ ih => exact ih same
  | waits _ takes =>
    obtain rfl := Option.some.inj same
    exact takes

theorem SpellsArgument.takesValue (h : SpellsArgument given (some flag) argument) :
    flag.takesValue := by
  cases h with
  | word _ takes => exact takes
  | letters _ spelled => exact spelled.takesValue

theorem SpellsLetters.token (h : SpellsLetters given waits letters) (some : letters ≠ []) :
    Token.ofArgument (String.ofList ('-' :: letters)) = .letters letters := by
  cases h with
  | nil => exact absurd rfl some
  | switch spelled | attached spelled | equals spelled | waits spelled =>
    exact Token.ofArgument_letters (Flag.letter_ne_dash spelled)

/-! ## Options that are accepted -/

theorem proper_concat : Proper (given ++ [(flag, held)]) ↔
    Proper given ∧ flag ∉ given.map (·.1) ∧ ¬(held = "" ∧ flag.refusesEmpty) := by
  constructor
  · rintro ⟨single, filled⟩
    rw [Reading.Single, List.map_append, List.nodup_append'] at single
    refine ⟨⟨single.1, fun flag value member => filled flag value (by simp [member])⟩, ?_,
      filled flag held (by simp)⟩
    simpa [List.disjoint_singleton] using single.2.2
  · rintro ⟨⟨single, filled⟩, fresh, full⟩
    refine ⟨single.append fresh held, fun other value member => ?_⟩
    rcases List.mem_append.mp member with member | member
    · exact filled other value member
    · obtain ⟨rfl, rfl⟩ := Prod.mk.inj (List.mem_singleton.mp member)
      exact full

theorem proper_nil : Proper [] :=
  ⟨List.nodup_nil, fun _ _ member => absurd member List.not_mem_nil⟩

theorem Proper.left (h : Proper (front ++ given)) : Proper front := by
  refine ⟨?_, fun flag value member => h.filled flag value (by simp [member])⟩
  have single := h.single
  rw [Reading.Single, List.map_append] at single
  exact (List.nodup_append'.mp single).1

namespace Reading

/-- An option is settled if its value has come and does not make the options improper. -/
theorem accept_eq_ok_iff (proper : Proper given) : accept given flag value = .ok result ↔
    (value = none → flag.takesValue = false) ∧ result = given ++ [(flag, value.getD "")] ∧
      Proper result := by
  have standing : given.any (·.1 = flag) = true ↔ flag ∈ given.map (·.1) := by simp
  constructor
  · intro h
    obtain ⟨rfl, fresh, complete⟩ := accept_ok h
    have came : value = none → flag.takesValue = false := by
      rintro rfl
      simpa using complete
    refine ⟨came, rfl, proper_concat.mpr ⟨proper, fresh, ?_⟩⟩
    cases value with
    | none => simp [Flag.refusesEmpty_of_not_takesValue (came rfl)]
    | some value =>
      simp only [accept] at h
      split_ifs at h with stands empty
      exact empty
  · rintro ⟨came, rfl, proper'⟩
    obtain ⟨-, fresh, full⟩ := proper_concat.mp proper'
    cases value with
    | none =>
      rw [accept, if_neg (by simp [came rfl]), if_neg (mt standing.mp fresh)]
      rfl
    | some value =>
      dsimp only [Option.getD_some] at full ⊢
      rw [accept, if_neg (mt standing.mp fresh), if_neg full]

theorem settled_eq_ok (h : reading.waiting = none) : reading.settled = .ok reading.given := by
  rw [settled, settle, h]

theorem settled_waiting (h : reading.waiting = some (flag, value)) :
    reading.settled = .ok result ↔ accept reading.given flag value = .ok result := by
  rw [settled, settle, h]
  dsimp only
  cases accept reading.given flag value with
  | ok given => simp
  | error failure => simp

theorem proper_of_settled (proper : Proper reading.given) (h : reading.settled = .ok front) :
    Proper front := by
  cases waiting : reading.waiting with
  | none =>
    obtain rfl := Except.ok.inj ((settled_eq_ok waiting).symm.trans h)
    exact proper
  | some waits =>
    exact ((accept_eq_ok_iff proper).mp ((settled_waiting waiting).mp h)).2.2

/-- What waits is settled, then options are settled, and maybe another one waits for its value. -/
def Takes (reading : Reading) (given : List (Flag × String)) (waits : Option Flag)
    (after : Reading) : Prop :=
  ∃ front, reading.settled = .ok front ∧ Proper (front ++ given) ∧
    after = ⟨front ++ given, waits.map (·, none)⟩

theorem acceptNow_iff (proper : Proper reading.given) (quiet : flag.prints = false)
    (came : value = none → flag.takesValue = false) :
    reading.acceptNow flag value = .ok after ↔
      reading.Takes [(flag, value.getD "")] none after := by
  have noText : flag ≠ .help ∧ flag ≠ .version := by
    refine ⟨?_, ?_⟩ <;> rintro rfl <;> cases quiet
  rw [acceptNow, bind_eq_ok]
  refine exists_congr fun front => and_congr_right fun settled => ?_
  rw [if_neg noText.1, if_neg noText.2]
  have accepts : ∀ result, accept front flag value = .ok result ↔ _ ∧ _ ∧ _ := fun result =>
    accept_eq_ok_iff (proper_of_settled proper settled)
  constructor
  · intro h
    split at h
    case h_1 accepted =>
      obtain rfl := Except.ok.inj h
      obtain ⟨-, rfl, proper'⟩ := (accepts _).mp accepted
      exact ⟨proper', rfl⟩
    case h_2 => cases h
  · rintro ⟨proper', rfl⟩
    rw [(accepts _).mpr ⟨came, rfl, proper'⟩]
    rfl

theorem await_iff (proper : Proper reading.given) :
    reading.await flag = .ok after ↔ reading.Takes [] (some flag) after := by
  rw [await, bind_eq_ok]
  refine exists_congr fun front => and_congr_right fun settled => ?_
  rw [List.append_nil]
  constructor
  · intro h
    exact ⟨proper_of_settled proper settled, (Except.ok.inj h).symm⟩
  · rintro ⟨-, rfl⟩
    rfl

/-- Options that are taken one after the other are taken together. -/
theorem takes_append_iff : reading.Takes (given ++ more) waits after ↔
    ∃ next, reading.Takes given none next ∧ next.Takes more waits after := by
  constructor
  · rintro ⟨front, settled, proper, rfl⟩
    rw [← List.append_assoc] at proper ⊢
    exact ⟨_, ⟨front, settled, proper.left, rfl⟩, _, rfl, proper, rfl⟩
  · rintro ⟨_, ⟨front, settled, -, rfl⟩, _, rest, proper, rfl⟩
    obtain rfl := Except.ok.inj ((settled_eq_ok rfl).symm.trans rest)
    rw [List.append_assoc] at proper ⊢
    exact ⟨front, settled, proper, rfl⟩

theorem Takes.proper (h : reading.Takes given waits after) : Proper after.given := by
  obtain ⟨front, -, proper, rfl⟩ := h
  exact proper

theorem Takes.idle (h : reading.Takes given none after) : after.waiting = none := by
  obtain ⟨front, -, -, rfl⟩ := h
  rfl

theorem attached_of_plain (full : letters ≠ []) (plain : letters.head? ≠ some '=') :
    attached letters = some (String.ofList letters) := by
  cases letters with
  | nil => exact absurd rfl full
  | cons c rest =>
    rw [attached]
    · nofun
    · rintro _ ⟨⟩
      exact plain rfl

/-- Letters are read exactly if the options that they spell can be taken. -/
theorem readLetters_iff (spelled : SpellsLetters given waits letters)
    (proper : Proper reading.given) (settles : letters ≠ [] ∨ reading.waiting = none) :
    reading.readLetters letters = .ok after ↔ reading.Takes given waits after := by
  induction spelled generalizing reading with
  | nil =>
    have idle := settles.resolve_left (not_not_intro rfl)
    obtain ⟨front, waiting⟩ := reading
    obtain rfl : waiting = none := idle
    constructor
    · intro h
      obtain rfl := Except.ok.inj h
      exact ⟨front, rfl, by simpa using proper, by simp⟩
    · rintro ⟨_, settled, -, rfl⟩
      obtain rfl := Except.ok.inj settled
      simp [readLetters]
  | @switch flag letter given waits letters spelled takes quiet _ ih =>
    rw [readLetters, Flag.ofLetter?_letter spelled]
    dsimp only
    rw [if_neg (by simp [takes])]
    have now : ∀ next, reading.acceptNow flag none = .ok next ↔
        reading.Takes [(flag, "")] none next := fun _ => acceptNow_iff proper quiet fun _ => takes
    rw [← List.singleton_append, takes_append_iff]
    cases accepted : reading.acceptNow flag none with
    | error stop => simp [← now, accepted]
    | ok next =>
      have first := (now next).mp accepted
      have step := ih first.proper (.inr first.idle)
      simp [← now, accepted, step]
  | @attached flag letter value spelled takes full plain =>
    rw [readLetters, Flag.ofLetter?_letter spelled]
    dsimp only
    rw [if_pos takes, attached_of_plain full plain]
    exact acceptNow_iff proper (Flag.not_prints_of_takesValue takes) (by simp)
  | equals spelled takes =>
    rw [readLetters, Flag.ofLetter?_letter spelled]
    dsimp only
    rw [if_pos takes]
    exact acceptNow_iff proper (Flag.not_prints_of_takesValue takes) (by simp)
  | waits spelled takes =>
    rw [readLetters, Flag.ofLetter?_letter spelled]
    dsimp only
    rw [if_pos takes]
    exact await_iff proper

/-- An argument that spells options is read exactly if they can be taken. -/
theorem readAll_argument_iff (spelled : SpellsArgument given waits argument)
    (proper : Proper reading.given) :
    reading.readAll (argument :: arguments) = .ok result ↔
      ∃ after, reading.Takes given waits after ∧ after.readAll arguments = .ok result := by
  rw [readAll.eq_def]
  dsimp only
  cases spelled with
  | @word flag word spelled takes =>
    obtain ⟨noEquals, full⟩ := Flag.word_spec spelled
    rw [Token.ofArgument_alone noEquals full]
    dsimp only
    rw [bind_eq_ok]
    refine exists_congr fun after => and_congr_left fun _ => ?_
    rw [readWord, Flag.ofWord?_word spelled]
    dsimp only
    rw [if_pos takes]
    exact await_iff proper
  | @equals flag word value spelled takes =>
    obtain ⟨noEquals, -⟩ := Flag.word_spec spelled
    rw [Token.ofArgument_attached noEquals]
    dsimp only
    rw [bind_eq_ok]
    refine exists_congr fun after => and_congr_left fun _ => ?_
    rw [readWord, Flag.ofWord?_word spelled]
    dsimp only
    rw [if_pos takes]
    exact acceptNow_iff proper (Flag.not_prints_of_takesValue takes) (by simp)
  | letters some spelled =>
    rw [spelled.token some]
    dsimp only
    rw [bind_eq_ok]
    refine exists_congr fun after => and_congr_left fun _ => ?_
    exact readLetters_iff spelled proper (.inl some)

/-- The value that an option waits for is the next argument. -/
theorem readAll_value (h : IsValue held) :
    readAll ⟨front, some (flag, none)⟩ (held :: arguments) =
      readAll ⟨front, some (flag, some held)⟩ arguments := by
  rw [readAll.eq_def]
  dsimp only
  rw [Token.ofArgument_eq_plain_iff.mpr h]
  rfl

theorem settled_iff (proper : Proper reading.given) : reading.settled = .ok result ↔
    ∃ front, reading.settled = .ok front ∧ result = front ++ [] ∧ Proper result := by
  simp only [List.append_nil]
  constructor
  · intro settled
    exact ⟨result, settled, rfl, proper_of_settled proper settled⟩
  · rintro ⟨front, settled, rfl, -⟩
    exact settled

/-- Arguments that spell options are read exactly if none of the options stands twice or is empty
that must not be. -/
theorem readAll_iff (spelled : Spells given arguments) (proper : Proper reading.given) :
    reading.readAll arguments = .ok result ↔
      ∃ front, reading.settled = .ok front ∧ result = front ++ given ∧ Proper result := by
  induction spelled generalizing reading with
  | nil => exact settled_iff proper
  | separator => exact settled_iff proper
  | whole first _ ih =>
    rw [readAll_argument_iff first proper]
    constructor
    · rintro ⟨_, ⟨front, settled, proper', rfl⟩, rest⟩
      obtain ⟨_, settled', rfl, whole⟩ := (ih proper').mp rest
      obtain rfl := Except.ok.inj ((settled_eq_ok rfl).symm.trans settled')
      exact ⟨front, settled, List.append_assoc _ _ _, whole⟩
    · rintro ⟨front, settled, rfl, whole⟩
      rw [← List.append_assoc] at whole
      refine ⟨_, ⟨front, settled, whole.left, rfl⟩, (ih whole.left).mpr ⟨_, rfl, ?_, ?_⟩⟩
      · rw [List.append_assoc]
      · rwa [← List.append_assoc]
  | @next given more flag argument held arguments first plain _ ih =>
    rw [readAll_argument_iff first proper]
    have accepted : ∀ front, Proper (front ++ given) → ∀ result,
        (⟨front ++ given, some (flag, some held)⟩ : Reading).settled = .ok result ↔
          result = front ++ given ++ [(flag, held)] ∧ Proper result := by
      intro front proper' result
      rw [settled_waiting rfl, accept_eq_ok_iff proper']
      simp
    constructor
    · rintro ⟨_, ⟨front, settled, proper', rfl⟩, rest⟩
      obtain ⟨_, settled', rfl, whole⟩ := (ih proper').mp ((readAll_value plain).symm.trans rest)
      obtain ⟨rfl, -⟩ := (accepted front proper' _).mp settled'
      exact ⟨front, settled, by simp, whole⟩
    · rintro ⟨front, settled, rfl, whole⟩
      have split : front ++ (given ++ (flag, held) :: more) =
          front ++ given ++ [(flag, held)] ++ more := by simp
      have parts := whole
      rw [split] at parts
      refine ⟨_, ⟨front, settled, parts.left.left, rfl⟩, ?_⟩
      refine (readAll_value plain).trans ((ih parts.left.left).mpr ⟨_, ?_, split, whole⟩)
      exact (accepted front parts.left.left _).mpr ⟨rfl, parts.left⟩

end Reading

/-! ## Arguments as a whole -/

/-- Arguments that spell options are accepted exactly if the options are proper. -/
theorem parse_eq_ok_of_spells {options : Options} (spelled : Spells given arguments) :
    parse arguments = .ok options ↔ Proper given ∧ options = .ofGiven given := by
  have proper : Proper Reading.start.given := proper_nil
  rw [parse, bind_eq_ok]
  constructor
  · rintro ⟨result, read, chosen⟩
    obtain ⟨_, started, rfl, proper'⟩ := (Reading.readAll_iff spelled proper).mp read
    obtain rfl := Except.ok.inj started
    exact ⟨proper', (Except.ok.inj chosen).symm⟩
  · rintro ⟨proper', rfl⟩
    exact ⟨given, (Reading.readAll_iff spelled proper).mpr ⟨[], rfl, rfl, proper'⟩, rfl⟩

/-- Options in another order make the same choices. -/
theorem Options.ofGiven_perm (proper : Proper given) (same : given.Perm given') :
    Proper given' ∧ Options.ofGiven given' = .ofGiven given := by
  have single : Reading.Single given' := (same.map _).nodup_iff.mp proper.single
  refine ⟨⟨single, fun flag value member => proper.filled flag value (same.mem_iff.mpr member)⟩, ?_⟩
  have found : ∀ flag, given'.lookup flag = given.lookup flag := by
    intro flag
    ext value
    rw [single.lookup_eq_some_iff, proper.single.lookup_eq_some_iff, same.mem_iff]
  simp only [Options.ofGiven, found]

end RowDrop.CommandLine
