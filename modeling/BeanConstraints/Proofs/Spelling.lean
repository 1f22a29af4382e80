/-
# How options are spelled

An option can be spelled in several ways: with one letter or with its long name, and
its value behind it in the same argument, with or without a sign of equality, or in
the next argument. Which spellings there are is said here without a state and without
looking at what values mean. Whatever list of arguments is accepted spells options,
and what is read is what they give, in their order.
-/

import BeanConstraints.CommandLine.Arguments
import BeanConstraints.Proofs.Outline

namespace BeanConstraints.CommandLine

/-- An option as it is given, with its value if it takes one. -/
inductive Given where
  | switch (switch : Switch)
  | value (option : Valued) (text : String)
  deriving DecidableEq

namespace Given

/-- The switch that is turned on. -/
def switch? : Given → Option Switch
  | switch turned => some turned
  | value _ _ => none

/-- The file that is listed. -/
def file? : Given → Option String
  | switch _ => none
  | value .properties path => some path
  | value .set _ => none

/-- The text of the setting that is made. -/
def setting? : Given → Option String
  | switch _ => none
  | value .properties _ => none
  | value .set text => some text

theorem contains_switches (given : List Given) (turned : Switch) :
    (given.filterMap switch?).contains turned = given.contains (switch turned) := by
  rw [Bool.eq_iff_iff, List.contains_iff_mem, List.contains_iff_mem, List.mem_filterMap]
  refine ⟨?_, fun listed => ⟨_, listed, rfl⟩⟩
  rintro ⟨_ | _, listed, same⟩ <;> cases same
  exact listed

/-- What options amount to for an inspection, those of the program and those of the command. -/
def inspection (outer given : List Given) : Except SettingFault Arguments := do
  let settings ← (given.filterMap setting?).mapM Setting.read
  return {
    verbose := (outer ++ given).contains (switch .verbose)
    colour := !(outer ++ given).contains (switch .noColour)
    command := .inspect (given.filterMap file?) settings (given.contains (switch .failFast))
      (given.contains (switch .json)) }

end Given

namespace Scope

variable (scope : Scope)

/-- Letters behind a dash spell switches, and at their end there may be an option with its value
or one that waits for it. -/
inductive Letters : List Char → List Given → Option Valued → Prop
  | done : Letters [] [] none
  | switch {letter : Char} {switch : Switch} {rest : List Char} {given : List Given}
      {waiting : Option Valued} (known : scope.short? letter = some (.switch switch))
      (later : Letters rest given waiting) :
      Letters (letter :: rest) (.switch switch :: given) waiting
  | attached {letter : Char} {option : Valued} {text : List Char}
      (known : scope.short? letter = some (.valued option)) (nonempty : text ≠ [])
      (bare : text.head? ≠ some '=') :
      Letters (letter :: text) [.value option (String.ofList text)] none
  | assigned {letter : Char} {option : Valued} {text : List Char}
      (known : scope.short? letter = some (.valued option)) :
      Letters (letter :: '=' :: text) [.value option (String.ofList text)] none
  | waiting {letter : Char} {option : Valued}
      (known : scope.short? letter = some (.valued option)) : Letters [letter] [] (some option)

/-- A long name behind two dashes spells a switch, an option with its value, or one that waits for
it. -/
inductive Long : List Char → List Given → Option Valued → Prop
  | switch {name : List Char} {switch : Switch} (plain : '=' ∉ name)
      (known : scope.long? (String.ofList name) = some (.switch switch)) :
      Long name [.switch switch] none
  | assigned {name text : List Char} {option : Valued} (plain : '=' ∉ name)
      (known : scope.long? (String.ofList name) = some (.valued option)) :
      Long (name ++ '=' :: text) [.value option (String.ofList text)] none
  | waiting {name : List Char} {option : Valued} (plain : '=' ∉ name)
      (known : scope.long? (String.ofList name) = some (.valued option)) :
      Long name [] (some option)

/-- An argument is the value that an option waits for, or it spells options, the last of which
may wait for its value in turn. -/
inductive Reads : Option Valued → String → List Given → Option Valued → Prop
  | value {option : Valued} {text : String}
      (plain : text.toList.head? = some '-' → text = "-") :
      Reads (some option) text [.value option text] none
  | long {name : List Char} {given : List Given} {waiting : Option Valued}
      (spelled : Long scope name given waiting) :
      Reads none (String.ofList ('-' :: '-' :: name)) given waiting
  | letters {letters : List Char} {given : List Given} {waiting : Option Valued}
      (spelled : Letters scope letters given waiting) (nonempty : letters ≠ []) :
      Reads none (String.ofList ('-' :: letters)) given waiting

/-- Arguments spell options one after the other, if the first one is read as the value that is
waited for. Two dashes may close them. -/
inductive Spells : Option Valued → List String → List Given → Prop
  | nothing : Spells none [] []
  | closed : Spells none ["--"] []
  | cons {waiting next : Option Valued} {argument : String} {rest : List String}
      {first later : List Given} (reads : Reads scope waiting argument first next)
      (spells : Spells next rest later) : Spells waiting (argument :: rest) (first ++ later)

/-- No option of the program itself takes a value. -/
theorem waiting_of_program {waiting next : Option Valued} {argument : String}
    {given : List Given} (reads : program.Reads waiting argument given next) : next = none := by
  have short (letter : Char) (option : Valued) : program.short? letter ≠ some (.valued option) := by
    unfold short?
    split <;> simp_all
  have long (name : String) (option : Valued) : program.long? name ≠ some (.valued option) := by
    unfold long?
    split <;> simp_all
  have letters {letters : List Char} {given : List Given} {last : Option Valued}
      (spelled : program.Letters letters given last) : last = none := by
    induction spelled with
    | switch _ _ ih => exact ih
    | waiting known => exact absurd known (short _ _)
    | _ => rfl
  cases reads with
  | value => rfl
  | long spelled =>
      cases spelled with
      | waiting _ known => exact absurd known (long _ _)
      | _ => rfl
  | letters spelled => exact letters spelled

end Scope

/-- The name of an argument ends at its first sign of equality, if it has one. -/
theorem splitAtEquals_eq_some {argument name text : List Char}
    (split : splitAtEquals argument = some (name, text)) :
    argument = name ++ '=' :: text ∧ '=' ∉ name := by
  induction argument generalizing name with
  | nil => cases split
  | cons c rest ih =>
      rw [splitAtEquals] at split
      split at split
      case _ sign =>
        cases split
        exact ⟨by rw [sign, List.nil_append], List.not_mem_nil⟩
      case _ other =>
        obtain ⟨⟨front, back⟩, later, same⟩ := Option.map_eq_some_iff.mp split
        cases same
        obtain ⟨rfl, plain⟩ := ih later
        exact ⟨rfl, List.not_mem_cons_of_ne_of_not_mem (Ne.symm other) plain⟩

theorem splitAtEquals_eq_none {argument : List Char} (split : splitAtEquals argument = none) :
    '=' ∉ argument := by
  induction argument with
  | nil => exact List.not_mem_nil
  | cons c rest ih =>
      rw [splitAtEquals] at split
      split at split
      · cases split
      case _ other =>
        exact List.not_mem_cons_of_ne_of_not_mem (Ne.symm other)
          (ih (Option.map_eq_none_iff.mp split))

namespace Line

/-- The option that waits for its value. -/
def waiting (line : Line) : Option Valued :=
  match line.pending with
  | some (option, none) => some option
  | _ => none

/-- The option whose value waits to be understood. -/
def held (line : Line) : List Given :=
  match line.pending with
  | some (option, some text) => [.value option text]
  | _ => []

/-- A line has the switches, files and settings of options that were given. -/
structure Understands (line : Line) (given : List Given) : Prop where
  switches : line.switches = given.filterMap Given.switch?
  files : line.files = given.filterMap Given.file?
  settings : (given.filterMap Given.setting?).mapM Setting.read = .ok line.settings

/-- A line comes of options that were given, the last of which may not be understood yet. -/
def Holds (line : Line) (given : List Given) : Prop :=
  ∃ understood, line.Understands understood ∧ given = understood ++ line.held

variable {scope : Scope} {line next : Line} {given : List Given}

theorem holds_start : Holds {} [] := ⟨[], ⟨rfl, rfl, rfl⟩, rfl⟩

theorem waiting_of_free (free : line.pending = none) : line.waiting = none := by
  rw [waiting, free]

theorem held_of_free (free : line.pending = none) : line.held = [] := by
  rw [held, free]

theorem Understands.holds (understands : line.Understands given) (unheld : line.held = []) :
    line.Holds given :=
  ⟨given, understands, by rw [unheld, List.append_nil]⟩

/-- No switch is held. -/
theorem Holds.switches (holds : line.Holds given) :
    line.switches = given.filterMap Given.switch? := by
  obtain ⟨earlier, understands, rfl⟩ := holds
  have valued : line.held.filterMap Given.switch? = [] := by
    unfold held
    split <;> rfl
  rw [List.filterMap_append, valued, List.append_nil, understands.switches]

/-- A value that is understood adds what its option gives. -/
theorem Understands.take (understands : line.Understands given) {option : Valued} {text : String}
    (taken : line.take option text = .ok next) :
    next.Understands (given ++ [.value option text]) ∧ next.pending = line.pending := by
  obtain ⟨switches, files, settings⟩ := understands
  unfold Line.take at taken
  cases option with
  | properties =>
      dsimp only at taken
      split at taken
      · cases taken
      · cases taken
        have same : (given ++ [Given.value .properties text]).filterMap Given.setting? =
            given.filterMap Given.setting? := by simp [List.filterMap_cons, Given.setting?]
        exact ⟨⟨by simp [switches, Given.switch?], by simp [files, Given.file?],
          same ▸ settings⟩, rfl⟩
  | set =>
      dsimp only at taken
      split at taken
      · cases taken
      case _ setting read =>
        cases taken
        have more : (given ++ [Given.value .set text]).filterMap Given.setting? =
            given.filterMap Given.setting? ++ [text] := by simp [Given.setting?]
        refine ⟨⟨by simp [switches, Given.switch?], by simp [files, Given.file?], ?_⟩, rfl⟩
        rw [more, List.mapM_append, settings, List.mapM_cons, read]
        rfl

/-- What was held is understood before anything else is read. -/
theorem Holds.settle (holds : line.Holds given) (settled : line.settle = .ok next) :
    next.Understands given ∧ next.pending = none ∧ line.waiting = none := by
  obtain ⟨earlier, understands, rfl⟩ := holds
  unfold Line.settle at settled
  split at settled
  case _ free =>
    cases settled
    rw [held_of_free free, List.append_nil]
    exact ⟨understands, free, waiting_of_free free⟩
  · cases settled
  case _ option text pending =>
    have without : ({ line with pending := none } : Line).Understands earlier :=
      ⟨understands.switches, understands.files, understands.settings⟩
    obtain ⟨understands, free⟩ := without.take settled
    rw [held, waiting, pending]
    exact ⟨understands, free, rfl⟩

/-- A switch that is turned on was given. -/
theorem Holds.turn (holds : line.Holds given) {switch : Switch}
    (turned : line.turn switch = .ok next) :
    next.Understands (given ++ [.switch switch]) ∧ next.pending = none ∧ line.waiting = none := by
  obtain ⟨settled, ended, turned⟩ := ok_of_bind turned
  obtain ⟨⟨switches, files, settings⟩, free, ready⟩ := holds.settle ended
  split at turned
  · cases turned
  · cases turned
  · split at turned
    · cases turned
    · cases turned
      have same : (given ++ [Given.switch switch]).filterMap Given.setting? =
          given.filterMap Given.setting? := by simp [List.filterMap_cons, Given.setting?]
      exact ⟨⟨by simp [switches, Given.switch?], by simp [files, Given.file?],
        same ▸ settings⟩, free, ready⟩

theorem Holds.assign (holds : line.Holds given) {option : Valued} {text : String}
    (assigned : line.assign option text = .ok next) :
    next.Understands (given ++ [.value option text]) ∧ next.pending = none ∧
      line.waiting = none := by
  obtain ⟨settled, ended, assigned⟩ := ok_of_bind assigned
  obtain ⟨understands, free, ready⟩ := holds.settle ended
  obtain ⟨understands, still⟩ := understands.take assigned
  exact ⟨understands, still.trans free, ready⟩

theorem Holds.await (holds : line.Holds given) {option : Valued}
    (awaited : line.await option = .ok next) :
    next.Holds given ∧ next.waiting = some option ∧ line.waiting = none := by
  obtain ⟨settled, ended, awaited⟩ := ok_of_bind awaited
  obtain ⟨⟨switches, files, settings⟩, _, ready⟩ := holds.settle ended
  cases awaited
  exact ⟨Understands.holds ⟨switches, files, settings⟩ rfl, rfl, ready⟩

/-- Letters are read as the options that they spell. -/
theorem Holds.shorts (holds : line.Holds given) {letters : List Char} (nonempty : letters ≠ [])
    (read : line.shorts scope letters = .ok next) :
    ∃ more, scope.Letters letters more next.waiting ∧ next.Holds (given ++ more) ∧
      line.waiting = none := by
  induction letters generalizing line given with
  | nil => exact absurd rfl nonempty
  | cons letter rest ih =>
      rw [Line.shorts] at read
      split at read
      · cases read
      case _ switch known =>
        obtain ⟨turned, ended, read⟩ := ok_of_bind read
        obtain ⟨understands, free, ready⟩ := holds.turn ended
        have holds := understands.holds (held_of_free free)
        cases rest with
        | nil =>
            cases read
            rw [waiting_of_free free]
            exact ⟨_, .switch known .done, holds, ready⟩
        | cons second others =>
            obtain ⟨more, spelled, holds, _⟩ := ih holds (List.cons_ne_nil _ _) read
            exact ⟨_, .switch known spelled, by simpa using holds, ready⟩
      case _ option known =>
        split at read
        · obtain ⟨holds, wanted, ready⟩ := holds.await read
          rw [wanted]
          exact ⟨[], .waiting known, by rwa [List.append_nil], ready⟩
        · obtain ⟨understands, free, ready⟩ := holds.assign read
          rw [waiting_of_free free]
          exact ⟨_, .assigned known, understands.holds (held_of_free free), ready⟩
        case _ nonempty bare =>
          obtain ⟨understands, free, ready⟩ := holds.assign read
          have unsigned : rest.head? ≠ some '=' := by
            intro first
            obtain ⟨value, rfl⟩ := List.head?_eq_some_iff.mp first
            exact bare value rfl
          rw [waiting_of_free free]
          exact ⟨_, .attached known nonempty unsigned, understands.holds (held_of_free free), ready⟩

/-- A long name is read as the option that it spells. -/
theorem Holds.long (holds : line.Holds given) {argument : List Char}
    (read : line.long scope argument = .ok next) :
    ∃ more, scope.Long argument more next.waiting ∧ next.Holds (given ++ more) ∧
      line.waiting = none := by
  unfold Line.long at read
  cases cut : splitAtEquals argument with
  | none =>
      have plain := splitAtEquals_eq_none cut
      simp only [cut] at read
      cases known : scope.long? (String.ofList argument) with
      | none =>
          rw [known] at read
          cases read
      | some option =>
          rw [known] at read
          cases option with
          | switch switch =>
              obtain ⟨understands, free, ready⟩ := holds.turn read
              rw [waiting_of_free free]
              exact ⟨_, .switch plain known, understands.holds (held_of_free free), ready⟩
          | valued option =>
              obtain ⟨holds, wanted, ready⟩ := holds.await read
              rw [wanted]
              exact ⟨[], .waiting plain known, by rwa [List.append_nil], ready⟩
  | some parts =>
      obtain ⟨name, text⟩ := parts
      obtain ⟨rfl, plain⟩ := splitAtEquals_eq_some cut
      simp only [cut] at read
      cases known : scope.long? (String.ofList name) with
      | none =>
          rw [known] at read
          cases read
      | some option =>
          rw [known] at read
          cases option with
          | switch switch => cases read
          | valued option =>
              obtain ⟨understands, free, ready⟩ := holds.assign read
              rw [waiting_of_free free]
              exact ⟨_, .assigned plain known, understands.holds (held_of_free free), ready⟩

/-- What is no option is the value that was waited for. -/
theorem Holds.plain (holds : line.Holds given) {argument : String}
    (read : line.plain scope argument = .ok next) :
    ∃ option, line.waiting = some option ∧ next.waiting = none ∧
      next.Holds (given ++ [.value option argument]) := by
  unfold Line.plain at read
  split at read
  case _ option pending =>
    cases read
    obtain ⟨earlier, ⟨switches, files, settings⟩, rfl⟩ := holds
    have unheld : line.held = [] := by rw [held, pending]
    rw [unheld, List.append_nil]
    exact ⟨option, by rw [waiting, pending], rfl, earlier, ⟨switches, files, settings⟩, rfl⟩
  · cases read

/-- An argument is the value that was waited for, or it spells options. -/
theorem Holds.argument (holds : line.Holds given) {argument : String}
    (read : line.argument scope argument = .ok next) :
    ∃ more, scope.Reads line.waiting argument more next.waiting ∧ next.Holds (given ++ more) := by
  have value (read : line.plain scope argument = .ok next)
      (plain : argument.toList.head? = some '-' → argument = "-") :
      ∃ more, scope.Reads line.waiting argument more next.waiting ∧
        next.Holds (given ++ more) := by
    obtain ⟨option, wanted, done, holds⟩ := holds.plain read
    rw [wanted, done]
    exact ⟨_, .value plain, holds⟩
  unfold Line.argument at read
  split at read
  case _ name begins =>
    obtain ⟨more, spelled, holds, ready⟩ := holds.long read
    rw [ready, ← String.ofList_toList (s := argument), begins]
    exact ⟨more, .long spelled, holds⟩
  case _ dash =>
    apply value read
    intro _
    rw [← String.ofList_toList (s := argument), dash]
  case _ letters _ nonempty begins =>
    obtain ⟨more, spelled, holds, ready⟩ := holds.shorts nonempty read
    rw [ready, ← String.ofList_toList (s := argument), begins]
    exact ⟨more, .letters spelled nonempty, holds⟩
  case _ noDash =>
    apply value read
    intro first
    obtain ⟨letters, begins⟩ := List.head?_eq_some_iff.mp first
    exact (noDash letters begins).elim

/-- Arguments that are accepted for a command spell options, and those are what is read. -/
theorem Holds.arguments (holds : line.Holds given) {arguments : List String}
    (read : line.arguments scope arguments = .ok next) :
    ∃ more, scope.Spells line.waiting arguments more ∧ next.Understands (given ++ more) := by
  induction arguments generalizing line given with
  | nil =>
      obtain ⟨understands, _, ready⟩ := holds.settle read
      rw [ready]
      exact ⟨[], .nothing, by rwa [List.append_nil]⟩
  | cons first rest ih =>
      unfold Line.arguments at read
      split at read
      case _ nothing => cases nothing
      case _ others same =>
        cases same
        cases rest with
        | cons extra _ => cases read
        | nil =>
            obtain ⟨understands, _, ready⟩ := holds.settle read
            rw [ready]
            exact ⟨[], .closed, by rwa [List.append_nil]⟩
      case _ argument others _ same =>
        cases same
        obtain ⟨middle, stepped, read⟩ := ok_of_bind read
        obtain ⟨more, reads, holds⟩ := holds.argument stepped
        obtain ⟨others, spells, understands⟩ := ih holds read
        rw [List.append_assoc] at understands
        exact ⟨more ++ others, .cons reads spells, understands⟩

end Line

namespace Arguments

/-- Lines of options that were given make the arguments that the options amount to. -/
theorem inspection_of_understands {switches : List Switch} {line : Line}
    {outer given : List Given} (turned : switches = outer.filterMap Given.switch?)
    (understands : line.Understands given) :
    Given.inspection outer given = .ok (ofLines .inspect switches line) := by
  obtain ⟨inner, files, settings⟩ := understands
  rw [Given.inspection, settings]
  simp only [ofLines, turned, inner, files, ← List.filterMap_append, Given.contains_switches]
  rfl

/-- What is read for an inspection is what its options amount to. -/
theorem spelled_of_readFrom {line : Line} {before : List Given} (holds : line.Holds before)
    (ready : line.waiting = none) {arguments : List String} {understood : Arguments}
    {paths : List String} {settings : List Setting} {failFast json : Bool}
    (read : readFrom line arguments = .ok understood)
    (command : understood.command = .inspect paths settings failFast json) :
    ∃ front rest more given, arguments = front ++ "inspect" :: rest ∧
      Scope.program.Spells none front more ∧ Scope.inspect.Spells none rest given ∧
      Given.inspection (before ++ more) given = .ok understood := by
  induction arguments generalizing line before with
  | nil => cases read
  | cons first rest ih =>
      unfold readFrom at read
      split at read
      case _ nothing => cases nothing
      case _ others same =>
        cases same
        obtain ⟨finished, ended, read⟩ := ok_of_bind read
        obtain ⟨given, spelled, understands⟩ := Line.holds_start.arguments ended
        cases read
        refine ⟨[], rest, [], given, rfl, .nothing, spelled, ?_⟩
        rw [List.append_nil]
        exact inspection_of_understands holds.switches understands
      case _ others same =>
        obtain ⟨finished, _, read⟩ := ok_of_bind read
        cases read
        cases command
      case _ => cases read
      case _ others same =>
        split at read
        · cases read
        · split at read <;> cases read
      case _ argument others _ _ _ _ same =>
        cases same
        obtain ⟨middle, stepped, read⟩ := ok_of_bind read
        obtain ⟨more, reads, holds⟩ := holds.argument stepped
        rw [ready] at reads
        have free := Scope.waiting_of_program reads
        obtain ⟨front, back, outer, given, rfl, program, spelled, amounts⟩ := ih holds free read
        rw [free] at reads
        refine ⟨first :: front, back, more ++ outer, given, rfl, .cons reads program, spelled, ?_⟩
        rw [← List.append_assoc]
        exact amounts

/-- Every list of arguments that is accepted for an inspection spells options on both sides of the
command, and is understood as what they amount to. -/
theorem spelled_of_read {arguments : List String} {understood : Arguments} {paths : List String}
    {settings : List Setting} {failFast json : Bool} (accepted : read arguments = .ok understood)
    (command : understood.command = .inspect paths settings failFast json) :
    ∃ front rest outer given, arguments = front ++ "inspect" :: rest ∧
      Scope.program.Spells none front outer ∧ Scope.inspect.Spells none rest given ∧
      Given.inspection outer given = .ok understood :=
  spelled_of_readFrom Line.holds_start rfl accepted command

end Arguments

end BeanConstraints.CommandLine
