import Mathlib.Data.List.Nodup
import RowDrop.CommandLine.Arguments
import RowDrop.Proofs.Files.Calls

/-!
# Which arguments choose an option

In arguments that are accepted, an option without a letter has a value exactly if one argument is
its word with the value behind an equals sign, or two arguments that follow each other are its word
and the value (`of_parse`). An option that waits for its value is settled before
anything else is, so at every point the options that are settled or wait with a value are those
that the arguments so far give.
-/

namespace RowDrop.CommandLine

/-- The arguments give the option of a word a value. -/
inductive Gives (arguments : List String) (word value : String) : Prop
  | attached (h : "--" ++ word ++ "=" ++ value ∈ arguments)
  | next {before behind : List String} (h : arguments = before ++ ("--" ++ word) :: value :: behind)

namespace Token

variable {argument word value name : String} {rest : List Char}

/-- Two dashes with something behind them make a word, which ends at an equals sign. -/
theorem ofArgument_word (h : argument.toList = '-' :: '-' :: rest) (hne : rest ≠ []) :
    ofArgument argument = match rest.dropWhile (· ≠ '=') with
      | _ :: value => .word (String.ofList (rest.takeWhile (· ≠ '='))) (some (String.ofList value))
      | [] => .word (String.ofList (rest.takeWhile (· ≠ '='))) none := by
  rw [ofArgument, h]
  cases rest with
  | nil => exact absurd rfl hne
  | cons c rest => rfl

/-- Every word is read off an argument with two dashes. -/
theorem exists_of_word {given : Option String} (h : ofArgument argument = .word name given) :
    ∃ rest, argument.toList = '-' :: '-' :: rest ∧ rest ≠ [] := by
  rw [ofArgument] at h
  split at h
  · cases h
  · next rest hnot heq =>
    refine ⟨rest, heq, ?_⟩
    rintro rfl
    exact hnot rfl
  · cases h
  · cases h

theorem takeWhile_word (h : '=' ∉ word.toList) (value : List Char) :
    (word.toList ++ '=' :: value).takeWhile (· ≠ '=') = word.toList ∧
      (word.toList ++ '=' :: value).dropWhile (· ≠ '=') = '=' :: value := by
  have hword : ∀ c ∈ word.toList, decide (c ≠ '=') = true := by
    intro c hc
    simpa using fun heq : c = '=' => h (heq ▸ hc)
  rw [List.takeWhile_append_of_pos hword, List.dropWhile_append_of_pos hword]
  simp

theorem ofArgument_attached (h : '=' ∉ word.toList) :
    ofArgument ("--" ++ word ++ "=" ++ value) = .word word (some value) := by
  have hlist : ("--" ++ word ++ "=" ++ value).toList
      = '-' :: '-' :: (word.toList ++ '=' :: value.toList) := by
    simp [String.toList_append]
  obtain ⟨htake, hdrop⟩ := takeWhile_word h value.toList
  rw [ofArgument_word hlist (by simp), htake, hdrop]
  simp

theorem ofArgument_alone (h : '=' ∉ word.toList) (hne : word ≠ "") :
    ofArgument ("--" ++ word) = .word word none := by
  have hlist : ("--" ++ word).toList = '-' :: '-' :: word.toList := by
    simp [String.toList_append]
  have hword : ∀ c ∈ word.toList, decide (c ≠ '=') = true := by
    intro c hc
    simpa using fun heq : c = '=' => h (heq ▸ hc)
  have hdrop : word.toList.dropWhile (· ≠ '=') = [] := by
    have hdropped := @List.dropWhile_append_of_pos _ _ _ [] hword
    simpa using hdropped
  have htake := List.takeWhile_append_dropWhile (p := (· ≠ '=')) (l := word.toList)
  rw [hdrop, List.append_nil] at htake
  rw [ofArgument_word hlist (by simpa using hne), hdrop, htake]
  simp

theorem eq_of_ofArgument {given : Option String} (h : ofArgument argument = .word name given) :
    argument = "--" ++ name ++ (given.map ("=" ++ ·)).getD "" := by
  obtain ⟨rest, hlist, hne⟩ := exists_of_word h
  rw [ofArgument_word hlist hne] at h
  have hrest := List.takeWhile_append_dropWhile (p := (· ≠ '=')) (l := rest)
  have hhead := List.head?_dropWhile_not (· ≠ '=') rest
  generalize rest.takeWhile (· ≠ '=') = front at h hrest
  generalize rest.dropWhile (· ≠ '=') = behind at h hrest hhead
  rw [← String.toList_inj, hlist, ← hrest]
  cases behind with
  | cons c value =>
    obtain ⟨rfl, rfl⟩ := Token.word.inj h
    obtain rfl : c = '=' := by simpa using hhead
    simp [String.toList_append]
  | nil =>
    obtain ⟨rfl, rfl⟩ := Token.word.inj h
    simp [String.toList_append]

theorem letters_ne_nil {letters : List Char} (h : ofArgument argument = .letters letters) :
    letters ≠ [] := by
  rw [ofArgument] at h
  split at h
  · cases h
  · dsimp only at h
    split at h <;> cases h
  · obtain rfl := Token.letters.inj h
    exact List.cons_ne_nil _ _
  · cases h

end Token

theorem gives_append_iff {arguments : List String} {word value argument : String} :
    Gives (arguments ++ [argument]) word value ↔
      Gives arguments word value ∨ argument = "--" ++ word ++ "=" ++ value ∨
        (arguments.getLast? = some ("--" ++ word) ∧ argument = value) := by
  constructor
  · rintro (h | @⟨before, behind, h⟩)
    · rcases List.mem_append.mp h with h | h
      · exact .inl (.attached h)
      · exact .inr (.inl (List.mem_singleton.mp h).symm)
    · rcases List.eq_nil_or_concat behind with rfl | ⟨behind, last, rfl⟩
      · have hends : arguments ++ [argument] = (before ++ ["--" ++ word]) ++ [value] := by
          simpa using h
        obtain ⟨rfl, hlast⟩ := List.append_inj' hends rfl
        exact .inr (.inr ⟨by simp, by simpa using hlast⟩)
      · have hends : arguments ++ [argument]
            = (before ++ ("--" ++ word) :: value :: behind) ++ [last] := by
          simpa using h
        obtain ⟨rfl, -⟩ := List.append_inj' hends rfl
        exact .inl (.next rfl)
  · rintro ((h | @⟨before, behind, h⟩) | rfl | ⟨hlast, rfl⟩)
    · exact .attached (List.mem_append_left _ h)
    · exact @Gives.next _ _ _ before (behind ++ [argument]) (by simp [h])
    · exact .attached (by simp)
    · obtain ⟨before, rfl⟩ := List.getLast?_eq_some_iff.mp hlast
      exact @Gives.next _ _ _ before [] (by simp)

/-- An option that takes a value and is chosen by its word alone. -/
structure Flag.ByWord (flag : Flag) (word : String) : Prop where
  spelled : flag.word? = some word
  unlettered : flag.letter? = none
  takesValue : flag.takesValue = true

namespace Flag

theorem endpoint_byWord : endpoint.ByWord "endpoint" := ⟨rfl, rfl, rfl⟩

theorem stagingPath_byWord : stagingPath.ByWord "staging-path" := ⟨rfl, rfl, rfl⟩

variable {flag other : Flag} {word : String}

theorem word?_of_ofWord? (h : ofWord? word = some flag) : flag.word? = some word := by
  simpa using List.find?_some h

theorem letter?_of_ofLetter? {letter : Char} (h : ofLetter? letter = some flag) :
    flag.letter? = some letter := by
  simpa using List.find?_some h

theorem ofWord?_word (h : flag.word? = some word) : ofWord? word = some flag := by
  cases flag <;> cases h <;> rfl

theorem ByWord.eq_iff (h : flag.ByWord word) {name : String} (hother : ofWord? name = some other) :
    other = flag ↔ name = word := by
  constructor
  · rintro rfl
    exact Option.some.inj ((word?_of_ofWord? hother).symm.trans h.spelled)
  · rintro rfl
    exact Option.some.inj (hother.symm.trans (ofWord?_word h.spelled))

theorem ByWord.not_mem (h : flag.ByWord word) : '=' ∉ word.toList := by
  have hword := h.spelled
  cases flag <;> cases hword <;> decide

theorem ByWord.ne_empty (h : flag.ByWord word) : word ≠ "" := by
  have hword := h.spelled
  cases flag <;> cases hword <;> decide

end Flag

namespace Reading

/-- An option has a value: it is settled with it, or waits with it. -/
def Has (reading : Reading) (flag : Flag) (value : String) : Prop :=
  (flag, value) ∈ reading.given ∨ reading.waiting = some (flag, some value)

/-- No option is settled twice. -/
def Single (given : List (Flag × String)) : Prop := (given.map (·.1)).Nodup

/-- What waits is settled, and then an option is settled with a value or waits for one. -/
inductive Adds (reading : Reading) (flag : Flag) : Option String → Reading → Prop
  | now {given : List (Flag × String)} {value : String} (settled : reading.settled = .ok given)
      (fresh : flag ∉ given.map (·.1)) : Adds reading flag (some value)
        ⟨given ++ [(flag, value)], none⟩
  | later {given : List (Flag × String)} (settled : reading.settled = .ok given) :
      Adds reading flag none ⟨given, some (flag, none)⟩

variable {reading after : Reading} {given settledGiven : List (Flag × String)} {flag other : Flag}
  {value : Option String} {word argument : String}

theorem accept_ok (h : accept given flag value = .ok settledGiven) :
    settledGiven = given ++ [(flag, value.getD "")] ∧ flag ∉ given.map (·.1) ∧
      (flag.takesValue = true → value.isSome = true) := by
  cases value with
  | none =>
    simp only [accept] at h
    split_ifs at h with htakes hany
    obtain rfl := Except.ok.inj h
    exact ⟨rfl, by simpa using hany, fun takes => absurd takes htakes⟩
  | some value =>
    simp only [accept] at h
    split_ifs at h with hany hempty
    obtain rfl := Except.ok.inj h
    exact ⟨rfl, by simpa using hany, fun _ => rfl⟩

theorem Single.append (h : Single given) (fresh : flag ∉ given.map (·.1)) (value : String) :
    Single (given ++ [(flag, value)]) := by
  rw [Single, List.map_append, List.map_singleton]
  exact List.Nodup.append h (List.nodup_singleton _) (by simpa using fresh)

/-- What waits is settled with its value, so an option that waits for its value is not accepted. -/
theorem settled_ok (flag : Flag) (h : reading.settled = .ok given) (single : Single reading.given) :
    Single given ∧ (flag.takesValue = true → reading.waiting ≠ some (flag, none) ∧
      ∀ value, (flag, value) ∈ given ↔ reading.Has flag value) := by
  rw [settled, settle] at h
  cases hwaiting : reading.waiting with
  | none =>
    rw [hwaiting] at h
    obtain rfl := Except.ok.inj h
    exact ⟨single, fun _ => ⟨nofun, fun value => by simp [Has, hwaiting]⟩⟩
  | some waits =>
    obtain ⟨other, held⟩ := waits
    rw [hwaiting] at h
    dsimp only at h
    cases haccept : accept reading.given other held with
    | error failure =>
      rw [haccept] at h
      cases h
    | ok settledGiven =>
      rw [haccept] at h
      obtain rfl := Except.ok.inj h
      obtain ⟨rfl, fresh, complete⟩ := accept_ok haccept
      refine ⟨single.append fresh _, fun takes => ⟨?_, fun value => ?_⟩⟩
      · rintro heq
        obtain ⟨rfl, rfl⟩ := Prod.mk.inj (Option.some.inj heq)
        exact absurd (complete takes) (by simp)
      · cases held with
        | none =>
          have hne : other ≠ flag := by
            rintro rfl
            exact absurd (complete takes) (by simp)
          simp [Has, hwaiting, hne, hne.symm]
        | some held => simp [Has, hwaiting, eq_comm]

theorem acceptNow_ok (h : reading.acceptNow flag value = .ok after) :
    reading.Adds flag (some (value.getD "")) after := by
  obtain ⟨given, hsettled, h⟩ := bind_eq_ok.mp h
  split_ifs at h
  cases haccept : accept given flag value with
  | error failure =>
    rw [haccept] at h
    cases h
  | ok settledGiven =>
    rw [haccept] at h
    obtain rfl := Except.ok.inj h
    obtain ⟨rfl, fresh, -⟩ := accept_ok haccept
    exact .now hsettled fresh

theorem acceptValue_ok (h : reading.acceptValue flag value = .ok after) :
    reading.Adds flag value after := by
  cases value with
  | some value => exact acceptNow_ok h
  | none =>
    obtain ⟨given, hsettled, h⟩ := bind_eq_ok.mp h
    obtain rfl := Except.ok.inj h
    exact .later hsettled

theorem readWord_ok (h : reading.readWord word value = .ok after) :
    ∃ flag added, Flag.ofWord? word = some flag ∧ reading.Adds flag added after ∧
      (flag.takesValue = true → added = value) := by
  rw [readWord] at h
  cases hflag : Flag.ofWord? word with
  | none =>
    rw [hflag] at h
    cases h
  | some flag =>
    rw [hflag] at h
    dsimp only at h
    split_ifs at h with takes
    · exact ⟨flag, value, rfl, acceptValue_ok h, fun _ => rfl⟩
    · cases value with
      | some value => cases h
      | none => exact ⟨flag, _, rfl, acceptNow_ok h, fun takes' => absurd takes' takes⟩

namespace Adds

theorem single (h : reading.Adds other value after) (single : Single reading.given) :
    Single after.given := by
  cases h with
  | now hsettled fresh => exact (settled_ok other hsettled single).1.append fresh _
  | later hsettled => exact (settled_ok other hsettled single).1

theorem waiting_iff (h : reading.Adds other value after) :
    after.waiting = some (flag, none) ↔ other = flag ∧ value = none := by
  cases h with
  | now => simp
  | later => simp

theorem not_waiting (h : reading.Adds other value after) (single : Single reading.given)
    (takes : flag.takesValue = true) : reading.waiting ≠ some (flag, none) := by
  cases h with
  | now hsettled => exact ((settled_ok flag hsettled single).2 takes).1
  | later hsettled => exact ((settled_ok flag hsettled single).2 takes).1

theorem has_iff (h : reading.Adds other value after) (single : Single reading.given)
    (takes : flag.takesValue = true) (held : String) :
    after.Has flag held ↔ reading.Has flag held ∨ other = flag ∧ value = some held := by
  cases h with
  | now hsettled =>
    rw [← ((settled_ok flag hsettled single).2 takes).2]
    simp [Has, eq_comm]
  | later hsettled =>
    rw [← ((settled_ok flag hsettled single).2 takes).2]
    simp [Has]

end Adds

/-- Letters leave an option alone that has none, but what waits is settled. -/
theorem readLetters_ok {letters : List Char} (h : reading.readLetters letters = .ok after)
    (hne : letters ≠ []) (byWord : flag.ByWord word) (single : Single reading.given) :
    Single after.given ∧ (∀ value, after.Has flag value ↔ reading.Has flag value) ∧
      reading.waiting ≠ some (flag, none) ∧ after.waiting ≠ some (flag, none) := by
  induction letters generalizing reading with
  | nil => exact absurd rfl hne
  | cons letter rest ih =>
    rw [readLetters] at h
    cases hother : Flag.ofLetter? letter with
    | none =>
      rw [hother] at h
      cases h
    | some other =>
      have hflag : other ≠ flag := by
        rintro rfl
        exact nomatch byWord.unlettered.symm.trans (Flag.letter?_of_ofLetter? hother)
      -- whatever one letter adds, it is another option
      have added {value : Option String} {next : Reading} (hadds : reading.Adds other value next) :
          Single next.given ∧ (∀ value, next.Has flag value ↔ reading.Has flag value) ∧
            reading.waiting ≠ some (flag, none) ∧ next.waiting ≠ some (flag, none) :=
        ⟨hadds.single single,
          fun value => by simp [hadds.has_iff single byWord.takesValue, hflag],
          hadds.not_waiting single byWord.takesValue,
          fun hwaiting => hflag (hadds.waiting_iff.mp hwaiting).1⟩
      rw [hother] at h
      dsimp only at h
      split_ifs at h with takes
      · exact added (acceptValue_ok h)
      · cases hnow : reading.acceptNow other none with
        | error stop =>
          rw [hnow] at h
          cases h
        | ok next =>
          rw [hnow] at h
          obtain ⟨nextSingle, next_iff, hwaiting, hnext⟩ := added (acceptNow_ok hnow)
          cases rest with
          | nil =>
            obtain rfl := Except.ok.inj h
            exact ⟨nextSingle, next_iff, hwaiting, hnext⟩
          | cons letter rest =>
            obtain ⟨afterSingle, after_iff, -, hafter⟩ := ih h (List.cons_ne_nil _ _) nextSingle
            exact ⟨afterSingle, fun value => (after_iff value).trans (next_iff value), hwaiting,
              hafter⟩

/-- What has been read agrees with the arguments so far on one option: the values that it has are
those that the arguments give it, and it waits for its value exactly behind its word. -/
structure Tracks (flag : Flag) (word : String) (arguments : List String) (reading : Reading) :
    Prop where
  has_iff : ∀ value, reading.Has flag value ↔ Gives arguments word value
  waiting_iff : reading.waiting = some (flag, none) ↔ arguments.getLast? = some ("--" ++ word)
  single : Single reading.given

namespace Tracks

variable {arguments : List String}

theorem start (flag : Flag) (word : String) : Tracks flag word [] start where
  has_iff value := by
    constructor
    · rintro (h | h) <;> cases h
    · rintro (h | @⟨before, _, h⟩)
      · cases h
      · simp at h
  waiting_iff := by simp [Reading.start]
  single := List.nodup_nil

/-- An argument that gives the option a value is its word with the value, or the value behind its
word; nothing else changes what the option has. -/
theorem gives_iff (h : Tracks flag word arguments reading) (value : String) :
    Gives (arguments ++ [argument]) word value ↔ reading.Has flag value ∨
      argument = "--" ++ word ++ "=" ++ value ∨
        (reading.waiting = some (flag, none) ∧ argument = value) := by
  rw [gives_append_iff, h.has_iff, h.waiting_iff]

/-- An option that is added stands in the argument as its word. -/
theorem adds (h : Tracks flag word arguments reading) (byWord : flag.ByWord word)
    (hadds : reading.Adds other value after)
    (attached : ∀ held, argument = "--" ++ word ++ "=" ++ held ↔ other = flag ∧ value = some held)
    (alone : argument = "--" ++ word ↔ other = flag ∧ value = none) :
    Tracks flag word (arguments ++ [argument]) after where
  has_iff held := by
    have hwaiting := hadds.not_waiting h.single byWord.takesValue
    rw [h.gives_iff, hadds.has_iff h.single byWord.takesValue, attached]
    simp [hwaiting]
  waiting_iff := by rw [hadds.waiting_iff, List.getLast?_concat, Option.some_inj, alone]
  single := hadds.single h.single

theorem word_step {name : String} (h : Tracks flag word arguments reading)
    (byWord : flag.ByWord word) (htoken : Token.ofArgument argument = .word name value)
    (hread : reading.readWord name value = .ok after) :
    Tracks flag word (arguments ++ [argument]) after := by
  obtain ⟨other, added, hother, hadds, whole⟩ := readWord_ok hread
  have hargument := Token.eq_of_ofArgument htoken
  refine h.adds byWord hadds (fun held => ?_) ?_
  · constructor
    · rintro rfl
      rw [Token.ofArgument_attached byWord.not_mem] at htoken
      obtain ⟨rfl, rfl⟩ := Token.word.inj htoken
      obtain rfl := (byWord.eq_iff hother).mpr rfl
      exact ⟨rfl, whole byWord.takesValue⟩
    · rintro ⟨rfl, rfl⟩
      obtain rfl := (byWord.eq_iff hother).mp rfl
      obtain rfl := whole byWord.takesValue
      rw [hargument]
      simp [String.append_assoc]
  · constructor
    · rintro rfl
      rw [Token.ofArgument_alone byWord.not_mem byWord.ne_empty] at htoken
      obtain ⟨rfl, rfl⟩ := Token.word.inj htoken
      obtain rfl := (byWord.eq_iff hother).mpr rfl
      exact ⟨rfl, whole byWord.takesValue⟩
    · rintro ⟨rfl, rfl⟩
      obtain rfl := (byWord.eq_iff hother).mp rfl
      obtain rfl := whole byWord.takesValue
      rw [hargument]
      simp

theorem letters_step {letters : List Char} (h : Tracks flag word arguments reading)
    (byWord : flag.ByWord word) (htoken : Token.ofArgument argument = .letters letters)
    (hread : reading.readLetters letters = .ok after) :
    Tracks flag word (arguments ++ [argument]) after := by
  have hne := Token.letters_ne_nil htoken
  obtain ⟨single, has_iff, hwaiting, hafter⟩ := readLetters_ok hread hne byWord h.single
  refine ⟨fun value => ?_, ?_, single⟩
  · have hattached : argument ≠ "--" ++ word ++ "=" ++ value := by
      rintro rfl
      rw [Token.ofArgument_attached byWord.not_mem] at htoken
      cases htoken
    rw [h.gives_iff, has_iff]
    simp [hwaiting, hattached]
  · have halone : argument ≠ "--" ++ word := by
      rintro rfl
      rw [Token.ofArgument_alone byWord.not_mem byWord.ne_empty] at htoken
      cases htoken
    simp [hafter, halone]

theorem plain_step (h : Tracks flag word arguments reading)
    (byWord : flag.ByWord word) (htoken : Token.ofArgument argument = .plain)
    (hread : reading.readPlain argument = .ok after) :
    Tracks flag word (arguments ++ [argument]) after := by
  have hattached : ∀ value, argument ≠ "--" ++ word ++ "=" ++ value := by
    rintro value rfl
    rw [Token.ofArgument_attached byWord.not_mem] at htoken
    cases htoken
  have halone : argument ≠ "--" ++ word := by
    rintro rfl
    rw [Token.ofArgument_alone byWord.not_mem byWord.ne_empty] at htoken
    cases htoken
  rw [readPlain] at hread
  split at hread
  · next other hwaiting =>
    obtain rfl := Except.ok.inj hread
    refine ⟨fun value => ?_, ?_, h.single⟩
    · rw [h.gives_iff]
      simp [Has, hwaiting, hattached]
    · simp [halone]
  · cases hread

/-- Two dashes end the options, and give none a value. -/
theorem gives_separator_iff (h : Tracks flag word arguments reading) (byWord : flag.ByWord word)
    (htoken : Token.ofArgument argument = .separator)
    (hwaiting : reading.waiting ≠ some (flag, none)) (value : String) :
    Gives (arguments ++ [argument]) word value ↔ reading.Has flag value := by
  have hattached : argument ≠ "--" ++ word ++ "=" ++ value := by
    rintro rfl
    rw [Token.ofArgument_attached byWord.not_mem] at htoken
    cases htoken
  rw [h.gives_iff]
  simp [hwaiting, hattached]

/-- The values of arguments that are accepted are those that the arguments give. -/
theorem of_readAll {rest : List String} (h : Tracks flag word arguments reading)
    (byWord : flag.ByWord word) (hread : reading.readAll rest = .ok given) :
    Single given ∧ ∀ value, (flag, value) ∈ given ↔ Gives (arguments ++ rest) word value := by
  induction rest generalizing arguments reading with
  | nil =>
    obtain ⟨single, settles⟩ := settled_ok flag hread h.single
    refine ⟨single, fun value => ?_⟩
    rw [(settles byWord.takesValue).2, h.has_iff, List.append_nil]
  | cons argument rest ih =>
    have happend : arguments ++ argument :: rest = arguments ++ [argument] ++ rest := by simp
    rw [Reading.readAll.eq_def] at hread
    dsimp only at hread
    rw [happend]
    cases htoken : Token.ofArgument argument with
    | separator =>
      rw [htoken] at hread
      cases rest with
      | nil =>
        obtain ⟨single, settles⟩ := settled_ok flag hread h.single
        obtain ⟨hwaiting, has_iff⟩ := settles byWord.takesValue
        refine ⟨single, fun value => ?_⟩
        rw [has_iff, List.append_nil, h.gives_separator_iff byWord htoken hwaiting]
      | cons => cases hread
    | word name value =>
      rw [htoken] at hread
      obtain ⟨after, hstep, hread⟩ := bind_eq_ok.mp hread
      exact ih (h.word_step byWord htoken hstep) hread
    | letters letters =>
      rw [htoken] at hread
      obtain ⟨after, hstep, hread⟩ := bind_eq_ok.mp hread
      exact ih (h.letters_step byWord htoken hstep) hread
    | plain =>
      rw [htoken] at hread
      obtain ⟨after, hstep, hread⟩ := bind_eq_ok.mp hread
      exact ih (h.plain_step byWord htoken hstep) hread

end Tracks

/-- Where no option is settled twice, the options that are settled are those that are found. -/
theorem Single.lookup_eq_some_iff (h : Single given) {value : String} :
    given.lookup flag = some value ↔ (flag, value) ∈ given := by
  induction given with
  | nil => simp
  | cons first given ih =>
    obtain ⟨other, held⟩ := first
    obtain ⟨fresh, single⟩ := List.nodup_cons.mp h
    rw [List.lookup_cons, List.mem_cons]
    by_cases heq : flag = other
    · subst heq
      have hrest : (flag, value) ∉ given := by
        intro hmem
        exact fresh (List.mem_map.mpr ⟨_, hmem, rfl⟩)
      simp [hrest, eq_comm]
    · rw [beq_false_of_ne heq]
      simp [heq, ih single]

end Reading

/-- The endpoint and the staging path of accepted arguments are those that the arguments give. -/
theorem of_parse {arguments : List String} {options : Options} (h : parse arguments = .ok options) :
    (∀ endpoint, options.endpoint = some endpoint ↔ Gives arguments "endpoint" endpoint) ∧
      ∀ path, options.stagingPath = some path ↔
        ∃ value, Gives arguments "staging-path" value ∧ path = .ofString value := by
  obtain ⟨given, hread, hoptions⟩ := bind_eq_ok.mp h
  obtain rfl := Except.ok.inj hoptions
  have values {flag : Flag} {word : String} (byWord : flag.ByWord word) (value : String) :
      given.lookup flag = some value ↔ Gives arguments word value := by
    obtain ⟨single, given_iff⟩ := (Reading.Tracks.start flag word).of_readAll byWord hread
    rw [single.lookup_eq_some_iff, given_iff, List.nil_append]
  refine ⟨values Flag.endpoint_byWord, fun path => ?_⟩
  simp only [Options.ofGiven, Option.map_eq_some_iff, values Flag.stagingPath_byWord, eq_comm]

end RowDrop.CommandLine
