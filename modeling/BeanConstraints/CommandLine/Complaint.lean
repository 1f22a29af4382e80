/-
# Complaints about arguments

What is said about arguments that are refused. It is composed with colours, and
shown as a terminal would show it but without them. So an argument cannot control
the terminal by what is said about it.
-/

import BeanConstraints.CommandLine.Arguments
import BeanConstraints.Text.Terminal

namespace BeanConstraints.CommandLine

namespace UsageFault

/-- Words that are to be used as they are. -/
def literal (words : String) : String :=
  "\x1b[1m" ++ words ++ "\x1b[0m"

/-- Words that were given and are refused. -/
def refused (words : String) : String :=
  "\x1b[33m" ++ words ++ "\x1b[0m"

/-- A switch as it is written. -/
def switchText : Switch → String
  | .verbose => "--verbose"
  | .noColour => "--no-color"
  | .failFast => "--fail-fast"
  | .json => "--json"
  | .help => "--help"
  | .version => "--version"

/-- An option with a value as it is written. -/
def valuedText : Valued → String
  | .properties => "--properties <FILE>"
  | .set => "--set <KEY=VALUE>"

/-- The fault, in colours. -/
def message : UsageFault → String
  | noCommand => "a subcommand is required but one was not provided"
  | unknownCommand name => s!"unrecognized subcommand '{refused name}'"
  | unknown argument => s!"unexpected argument '{refused argument}' found"
  | repeated switch =>
      s!"the argument '{refused (switchText switch)}' cannot be used multiple times"
  | noValue option =>
      s!"a value is required for '{refused (valuedText option)}' but none was supplied"
  | unwantedValue switch value =>
      s!"unexpected value '{refused value}' for '{refused (switchText switch)}' found; " ++
        "no more were expected"
  | emptyFile =>
      s!"a value is required for '{refused (valuedText .properties)}' but none was supplied"
  | setting fault =>
      s!"invalid value '{refused fault.given}' for '{literal (valuedText .set)}': " ++
        fault.message

/-- Where help is to be had. -/
def advice : String :=
  "\n\nFor more information, try '" ++ literal (switchText .help) ++ "'.\n"

/-- What is said about the fault. -/
def complaint (fault : UsageFault) : String :=
  Text.visible ("\x1b[1m\x1b[31merror:\x1b[0m " ++ fault.message ++ advice)

end UsageFault

end BeanConstraints.CommandLine
