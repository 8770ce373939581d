import AdmissionControl.Text.Numeral

/-!
# Command lines

A command line names a command and gives options before or after that name. Options that concern
every command can stand in both places; given twice, the one after the name counts. Options are kept
here with the type that their values have, so that a command line is checked once, where an option
is set.
-/

namespace AdmissionControl.CommandLine

open Text

/-- How log lines are written. -/
inductive LogFormat where
  | text
  | json
deriving DecidableEq

namespace LogFormat

/-- All formats, in the order in which they are offered. -/
def all : List LogFormat := [.text, .json]

/-- The name of a format. -/
def write : LogFormat → List Char
  | .text => "text".toList
  | .json => "json".toList

/-- The format of a name. -/
def read? (name : List Char) : Option LogFormat := all.find? fun format => format.write = name

theorem read?_write (format : LogFormat) : read? format.write = some format := by
  cases format <;> decide

end LogFormat

/-- An option that takes a value. -/
inductive OptionName where
  | configFile
  | socketPath
  | logFormat
  | workers
  | targetMilliseconds
deriving DecidableEq

/-- The name of an option as it is written after two dashes. -/
def OptionName.write : OptionName → List Char
  | .configFile => "config".toList
  | .socketPath => "socket-path".toList
  | .logFormat => "log-format".toList
  | .workers => "workers".toList
  | .targetMilliseconds => "target-p95-ms".toList

/-- A place that options can stand at, and that has a page of help. -/
inductive Page where
  /-- Before the name of a command. -/
  | program
  | serve
  | stats
  /-- After the word that asks for help. -/
  | help
deriving DecidableEq

namespace Page

/-- The options of a place, in the order in which help lists them. -/
def options : Page → List OptionName
  | .program | .stats => [.configFile, .logFormat]
  | .serve => [.configFile, .socketPath, .logFormat, .workers, .targetMilliseconds]
  | .help => []

/-- The option of a name that can stand at a place. -/
def option? (page : Page) (name : List Char) : Option OptionName :=
  page.options.find? fun option => option.write = name

/-- Every option of a place is found by its name. -/
theorem option?_write {page : Page} {option : OptionName} (member : option ∈ page.options) :
    page.option? option.write = some option := by
  revert member
  cases page <;> cases option <;> decide

/-- The place that a word leads to. -/
def enter? (page : Page) (word : List Char) : Option Page :=
  match page with
  | .program =>
      if word = "serve".toList then some .serve
      else if word = "stats".toList then some .stats
      else if word = "help".toList then some .help
      else none
  | _ => none

end Page

/-- Why a command line cannot be understood. -/
inductive Misuse where
  | unknownOption (argument : List Char)
  | unexpectedWord (word : List Char)
  /-- A value for an option that takes none. -/
  | unexpectedValue (argument : List Char)
  | missingValue (option : OptionName)
  | badValue (option : OptionName) (value : List Char)
  | repeatedOption (option : OptionName)
  | missingCommand
deriving DecidableEq

/-- The wording of a misuse. -/
def Misuse.message : Misuse → String
  | .unknownOption argument => "unknown option " ++ String.ofList argument
  | .unexpectedWord word => "unexpected argument " ++ String.ofList word
  | .unexpectedValue argument => "unexpected value in " ++ String.ofList argument
  | .missingValue option => "no value for --" ++ String.ofList option.write
  | .badValue option value =>
      "bad value " ++ String.ofList value ++ " for --" ++ String.ofList option.write
  | .repeatedOption option => "--" ++ String.ofList option.write ++ " is given twice"
  | .missingCommand => "no command"

/-- The options that are given at one place. -/
structure Options where
  configFile : Option (List Char) := none
  logFormat : Option LogFormat := none
  socketPath : Option (List Char) := none
  workers : Option UInt64 := none
  targetMilliseconds : Option UInt64 := none
deriving DecidableEq

namespace Options

/-- The path that a text names: any but the empty one. -/
def readPath? (text : List Char) : Option (List Char) := if text.isEmpty then none else some text

/-- The 64-bit word that a text denotes. -/
def readWord? (text : List Char) : Option UInt64 :=
  (Numeral.readBelow? UInt64.size text).map UInt64.ofNat

/-- The value of an option that is set for the first time. -/
def fresh {α : Type} (option : OptionName) (text : List Char) (old : Option α)
    (read? : List Char → Option α) : Except Misuse (Option α) :=
  match old, read? text with
  | some _, _ => .error (.repeatedOption option)
  | none, none => .error (.badValue option text)
  | none, some value => .ok (some value)

/-- Sets an option. -/
def set (options : Options) (option : OptionName) (text : List Char) : Except Misuse Options :=
  match option with
  | .configFile => do
      pure { options with configFile := ← fresh option text options.configFile readPath? }
  | .logFormat => do
      pure { options with logFormat := ← fresh option text options.logFormat LogFormat.read? }
  | .socketPath => do
      pure { options with socketPath := ← fresh option text options.socketPath readPath? }
  | .workers => do
      pure { options with workers := ← fresh option text options.workers readWord? }
  | .targetMilliseconds => do
      pure { options with
        targetMilliseconds := ← fresh option text options.targetMilliseconds readWord? }

end Options

/-- What the program is asked to do. -/
inductive Command where
  /-- Run the daemon, with settings that replace the loaded ones. -/
  | serve (socketPath : Option (List Char)) (workers targetMilliseconds : Option UInt64)
  /-- Show the state of a running daemon. -/
  | stats
deriving DecidableEq

/-- A command line that has been understood. -/
structure Invocation where
  configFile : Option (List Char) := none
  logFormat : LogFormat := .text
  command : Command
deriving DecidableEq

end AdmissionControl.CommandLine
