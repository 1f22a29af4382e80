/-
# Arguments

The arguments are read from left to right: switches for the program, then a
command, then what belongs to the command. An option that takes a value takes the
next argument, unless that looks like an option itself, or what is attached to it.
A value is only understood when the next option or the end is reached, so of two
mistakes the one met first in this order is reported.
-/

import BeanConstraints.CommandLine.Setting

namespace BeanConstraints.CommandLine

/-- An option without a value. -/
inductive Switch where
  | verbose
  | noColour
  | failFast
  | json
  | help
  | version
  deriving DecidableEq, Inhabited

/-- An option with a value. -/
inductive Valued where
  | properties
  | set
  deriving DecidableEq, Inhabited

/-- An option. -/
inductive Opt where
  | switch (switch : Switch)
  | valued (valued : Valued)
  deriving DecidableEq, Inhabited

/-- What the options belong to: the program as a whole or one of its commands. -/
inductive Scope where
  | program
  | inspect
  | constraints
  deriving DecidableEq, Inhabited

/-- Why the arguments are refused. -/
inductive UsageFault where
  | noCommand
  | unknownCommand (name : String)
  | unknown (argument : String)
  | repeated (switch : Switch)
  | noValue (option : Valued)
  | unwantedValue (switch : Switch) (value : String)
  /-- The name of a file is empty. -/
  | emptyFile
  | setting (fault : SettingFault)
  deriving DecidableEq, Inhabited

/-- Why no command is run. -/
inductive Stop where
  | help
  | version
  | refused (fault : UsageFault)
  deriving DecidableEq, Inhabited

/-- The options and values read in one scope. -/
structure Line where
  switches : List Switch := []
  files : List String := []
  settings : List Setting := []
  /-- An option that waits for its value, or whose value waits to be understood. -/
  pending : Option (Valued × Option String) := none
  deriving DecidableEq, Inhabited

namespace Scope

/-- The option of one letter. -/
def short? (scope : Scope) (letter : Char) : Option Opt :=
  match scope, letter with
  | _, 'v' => some (.switch .verbose)
  | _, 'h' => some (.switch .help)
  | .program, 'V' => some (.switch .version)
  | .inspect, 'p' => some (.valued .properties)
  | .inspect, 'D' => some (.valued .set)
  | _, _ => none

/-- The option of a long name. -/
def long? (scope : Scope) (name : String) : Option Opt :=
  match scope, name with
  | _, "verbose" => some (.switch .verbose)
  | _, "no-color" => some (.switch .noColour)
  | _, "help" => some (.switch .help)
  | .program, "version" => some (.switch .version)
  | .inspect, "properties" => some (.valued .properties)
  | .inspect, "set" => some (.valued .set)
  | .inspect, "fail-fast" => some (.switch .failFast)
  | .inspect, "json" => some (.switch .json)
  | .constraints, "json" => some (.switch .json)
  | _, _ => none

end Scope

namespace Line

/-- Understand the value of an option. -/
def take (line : Line) (option : Valued) (value : String) : Except Stop Line :=
  match option with
  | .properties =>
      if value.isEmpty then .error (.refused .emptyFile)
      else .ok { line with files := line.files ++ [value] }
  | .set =>
      match Setting.read value with
      | .error fault => .error (.refused (.setting fault))
      | .ok setting => .ok { line with settings := line.settings ++ [setting] }

/-- Understand what is pending. -/
def settle (line : Line) : Except Stop Line :=
  match line.pending with
  | none => .ok line
  | some (option, none) => .error (.refused (.noValue option))
  | some (option, some value) => { line with pending := none }.take option value

/-- Turn a switch on. It may be on only once. -/
def turn (line : Line) (switch : Switch) : Except Stop Line := do
  let line ← line.settle
  match switch with
  | .help => throw .help
  | .version => throw .version
  | switch =>
      if line.switches.contains switch then throw (.refused (.repeated switch))
      return { line with switches := line.switches ++ [switch] }

/-- Give an option the value that is attached to it. -/
def assign (line : Line) (option : Valued) (value : String) : Except Stop Line := do
  (← line.settle).take option value

/-- Let an option wait for its value. -/
def await (line : Line) (option : Valued) : Except Stop Line := do
  return { ← line.settle with pending := some (option, none) }

/-- Read the letters of an argument after its dash. Behind a letter that takes a value comes the
value, with or without a sign of equality. -/
def shorts (scope : Scope) (line : Line) : List Char → Except Stop Line
  | [] => .ok line
  | letter :: rest =>
      match scope.short? letter with
      | none => .error (.refused (.unknown (String.ofList ['-', letter])))
      | some (.switch switch) => do shorts scope (← line.turn switch) rest
      | some (.valued option) =>
          match rest with
          | [] => line.await option
          | '=' :: value => line.assign option (String.ofList value)
          | value => line.assign option (String.ofList value)

/-- Read an argument after its two dashes. -/
def long (scope : Scope) (line : Line) (argument : List Char) : Except Stop Line :=
  let (name, value) : List Char × Option String :=
    match splitAtEquals argument with
    | some (name, value) => (name, some (String.ofList value))
    | none => (argument, none)
  match scope.long? (String.ofList name), value with
  | none, _ => .error (.refused (.unknown (String.ofList ('-' :: '-' :: name))))
  | some (.switch switch), none => line.turn switch
  | some (.switch switch), some value => .error (.refused (.unwantedValue switch value))
  | some (.valued option), none => line.await option
  | some (.valued option), some value => line.assign option value

/-- An argument that has no place in a scope. The program itself asks for a command there. -/
def misplaced (scope : Scope) (argument : String) : UsageFault :=
  match scope with
  | .program => .unknownCommand argument
  | _ => .unknown argument

/-- Read an argument that is no option: it has to be a value that is waited for. -/
def plain (scope : Scope) (line : Line) (argument : String) : Except Stop Line :=
  match line.pending with
  | some (option, none) => .ok { line with pending := some (option, some argument) }
  | _ => .error (.refused (misplaced scope argument))

/-- Read one argument. -/
def argument (scope : Scope) (line : Line) (argument : String) : Except Stop Line :=
  match argument.toList with
  | '-' :: '-' :: rest => line.long scope rest
  | ['-'] => line.plain scope argument
  | '-' :: letters => line.shorts scope letters
  | _ => line.plain scope argument

/-- Read the arguments of a command. Two dashes say that no more options follow, and nothing else
may follow. -/
def arguments (scope : Scope) (line : Line) : List String → Except Stop Line
  | [] => line.settle
  | "--" :: rest =>
      match rest with
      | [] => line.settle
      | extra :: _ => .error (.refused (.unknown extra))
  | first :: rest => do arguments scope (← line.argument scope first) rest

end Line

/-- What to do. -/
inductive Command where
  /-- Build a factory from properties and show what it came to. -/
  | inspect (files : List String) (settings : List Setting) (failFast json : Bool)
  /-- List the built-in constraints. -/
  | constraints (json : Bool)
  deriving DecidableEq, Inhabited

/-- The arguments of the program, understood. -/
structure Arguments where
  verbose : Bool
  colour : Bool
  command : Command
  deriving DecidableEq, Inhabited

namespace Arguments

/-- The arguments made of the switches of the program and the line of its command. -/
def ofLines (scope : Scope) (switches : List Switch) (line : Line) : Arguments :=
  let all := switches ++ line.switches
  let json := line.switches.contains .json
  { verbose := all.contains .verbose
    colour := !all.contains .noColour
    command := match scope with
      | .constraints => .constraints json
      | _ => .inspect line.files line.settings (line.switches.contains .failFast) json }

/-- The words that name a command. -/
def commandNames : List String := ["inspect", "constraints", "help"]

/-- Read what follows the word that asks for help: nothing, or what help is wanted on. -/
def helpOn : List String → Stop
  | [] => .help
  | topic :: rest =>
      if commandNames.contains topic then
        match rest with
        | [] => .help
        | extra :: _ => .refused (.unknownCommand extra)
      else .refused (.unknownCommand topic)

/-- Read arguments up to the command and then those of the command. -/
def readFrom (line : Line) : List String → Except Stop Arguments
  | [] => .error (.refused .noCommand)
  | "inspect" :: rest => do
      return ofLines .inspect line.switches (← Line.arguments .inspect {} rest)
  | "constraints" :: rest => do
      return ofLines .constraints line.switches (← Line.arguments .constraints {} rest)
  | "help" :: rest => .error (helpOn rest)
  | "--" :: rest =>
      match rest with
      | [] => .error (.refused .noCommand)
      | extra :: _ =>
          if commandNames.contains extra then .error (.refused (.unknown extra))
          else .error (.refused (.unknownCommand extra))
  | first :: rest => do readFrom (← line.argument .program first) rest

/-- Read the arguments of the program. -/
def read (arguments : List String) : Except Stop Arguments :=
  readFrom {} arguments

end Arguments

end BeanConstraints.CommandLine
