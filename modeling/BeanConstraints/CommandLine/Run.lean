/-
# Running a command

A run reads the arguments and the property files, builds a factory, and ends with
an exit code, what it prints and what it complains about. Nothing is printed by a
run that fails.
-/

import BeanConstraints.CommandLine.Complaint
import BeanConstraints.CommandLine.Log
import BeanConstraints.CommandLine.Report
import BeanConstraints.Factory.Build
import BeanConstraints.Property.File

namespace BeanConstraints.CommandLine

/-- Why a command fails. -/
inductive Failure where
  /-- The directory in which the program runs is not known, for some reason. -/
  | lost (reason : String)
  | load (fault : PropertyFile.LoadFault)
  | build (fault : Fault)
  deriving DecidableEq, Inhabited

/-- The complaint about a failure. Faults of building are shown as diagnostics. -/
def Failure.complaint (inColour : Bool) : Failure → String
  | lost reason => lineOf ("error: " ++ reason)
  | load fault => lineOf ("error: " ++ fault.text)
  | build fault => fault.diagnostic.render inColour

/-- What surrounds a run. -/
structure Surroundings where
  files : Files
  /-- What is said about files that are no property files. -/
  wording : PropertyFile.Wording
  /-- The directory of the user, if it is known. -/
  home : Option String
  /-- The directory in which the program runs, or why it is not known. -/
  current : Except String String
  /-- Where components come from. -/
  loader : Component.Loader

/-- The property file of an inspection that lists no file: that of the user with that of the
project over it. -/
def loadUnlisted (surroundings : Surroundings) : Journal × Except Failure PropertyFile :=
  match surroundings.current with
  | .error reason => ([], .error (.lost reason))
  | .ok current =>
      let user := (surroundings.home.map PropertyFile.settingsPath).getD ""
      let (journal, file) := PropertyFile.loadLayers surroundings.files surroundings.wording user
        (PropertyFile.settingsPath current)
      (journal, .ok file)

/-- The property file of an inspection that lists files. -/
def loadListed (surroundings : Surroundings) (files : List String) :
    Journal × Except Failure PropertyFile :=
  let (journal, loaded) :=
    PropertyFile.loadAll surroundings.files surroundings.wording .empty files
  (journal, loaded.mapError Failure.load)

/-- The properties for an inspection: those of the listed files, or of the user and the project
if no file is listed, with the settings laid over them. -/
def resolveProperties (surroundings : Surroundings) (files : List String)
    (settings : List Setting) : Journal × Except Failure Properties :=
  let (journal, loaded) :=
    if files.isEmpty then loadUnlisted surroundings else loadListed surroundings files
  let overlaid (file : PropertyFile) : Properties :=
    file.toProperties.insertAll (settings.map fun setting => (setting.key, setting.value))
  (journal, loaded.map overlaid)

/-- Build a factory from properties and look at it. -/
def inspect (surroundings : Surroundings) (files : List String) (settings : List Setting)
    (failFast : Bool) : Journal × Except Failure Inspection :=
  match resolveProperties surroundings files settings with
  | (journal, .error failure) => (journal, .error failure)
  | (journal, .ok properties) =>
      let configuration : Configuration := { flags := { failFast }, properties }
      let outcome := (Factory.build surroundings.loader configuration).run {}
      match outcome.result with
      | .error fault => (journal ++ outcome.journal, .error (.build fault))
      | .ok factory =>
          let (closing, _) := factory.close
          (journal ++ outcome.journal ++ closing, .ok ⟨properties, factory⟩)

/-- What a command prints, or why it fails. -/
def execute (surroundings : Surroundings) : Command → Journal × Except Failure String
  | .constraints json =>
      ([], .ok (if json then lineOf (Registry.standard.toJson.pretty)
        else constraintsText .standard))
  | .inspect files settings failFast json =>
      let (journal, result) := inspect surroundings files settings failFast
      (journal, result.map fun inspection =>
        if json then lineOf inspection.toJson.pretty else inspection.text)

/-- The version line. -/
def versionText : String := lineOf "vfactory 0.1.0"

/-- The commands and options. -/
def helpText : String :=
  linesOf ["Inspect how a validator factory bootstraps", "",
    "Usage: vfactory [OPTIONS] <COMMAND>", "",
    "Commands:",
    "  inspect      Build a factory from properties and show its effective configuration",
    "  constraints  List the built-in constraint types and their validators", "",
    "Options:",
    "  -v, --verbose   Enable verbose output",
    "      --no-color  Disable colored output",
    "  -h, --help      Print help",
    "  -V, --version   Print version", "",
    "Options of inspect:",
    "  -p, --properties <FILE>  Properties file to load; later files override earlier ones",
    "  -D, --set <KEY=VALUE>    Set a property; overrides properties files",
    "      --fail-fast          Enable fail-fast programmatically",
    "      --json               Output as JSON", "",
    "Options of constraints:",
    "      --json  Output as JSON"]

/-- How a run ends. -/
inductive Ending where
  /-- All went well, and this is printed. -/
  | success (output : String)
  | failure (complaint : String)
  /-- The arguments make no sense. -/
  | misuse (fault : UsageFault)
  deriving DecidableEq, Inhabited

/-- The exit code. -/
def Ending.code : Ending → UInt32
  | success _ => 0
  | failure _ => 1
  | misuse _ => 2

/-- What is printed. -/
def Ending.output : Ending → String
  | success output => output
  | failure _ => ""
  | misuse _ => ""

/-- A run: how loud its log is, what it notes, and how it ends. -/
structure Session where
  verbose : Bool
  journal : Journal
  ending : Ending

/-- What a run writes to the error channel: its log, and what it complains about. -/
def Session.errors (session : Session) : String :=
  session.journal.log session.verbose ++
    match session.ending with
    | .success _ => ""
    | .failure complaint => complaint
    | .misuse fault => fault.complaint

/-- Run the program with arguments. -/
def run (surroundings : Surroundings) (arguments : List String) : Session :=
  match Arguments.read arguments with
  | .error .help => ⟨false, [], .success helpText⟩
  | .error .version => ⟨false, [], .success versionText⟩
  | .error (.refused fault) => ⟨false, [], .misuse fault⟩
  | .ok arguments =>
      let (journal, result) := execute surroundings arguments.command
      let ending : Ending := match result with
        | .ok output => .success output
        | .error failure => .failure (failure.complaint arguments.colour)
      ⟨arguments.verbose, journal, ending⟩

end BeanConstraints.CommandLine
