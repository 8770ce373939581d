import AdmissionControl.CommandLine.Basic
import AdmissionControl.Text.Terminal

/-!
# Pages of help

A page says what a place of the command line is for, how it is used, and which commands and options
it offers. Descriptions stand in a column beside what they describe, with all of their lines. What
is typed as it stands is bold on a terminal, and headings are underlined as well; elsewhere a page
is printed as a reader of the terminal would see it.
-/

namespace AdmissionControl.CommandLine

/-- How a part of a page looks. -/
inductive Style where
  | plain
  /-- What is typed as it stands. -/
  | literal
  | heading
deriving DecidableEq

/-- A part of a page that looks the same throughout. -/
structure Span where
  style : Style
  text : List Char
deriving DecidableEq

namespace Span

/-- An order to the terminal about the looks of what follows. -/
def order (number : Char) : List Char := ['\x1b', '[', number, 'm']

/-- A part with the orders around it. -/
def write (span : Span) : List Char :=
  match span.style with
  | .plain => span.text
  | .literal => order '1' ++ span.text ++ order '0'
  | .heading => order '1' ++ order '4' ++ span.text ++ order '0'

/-- A part without looks of its own. -/
def plain (text : List Char) : Span := ⟨.plain, text⟩

/-- A part that is typed as it stands. -/
def literal (text : List Char) : Span := ⟨.literal, text⟩

/-- A heading. -/
def heading (text : String) : Span := ⟨.heading, text.toList⟩

end Span

/-- Something that a page offers, and its description. -/
structure Offer where
  spelling : List Span
  about : List Char

namespace Offer

/-- What stands in the place of a short form and the comma after it. -/
def noShortForm : List Char := "    ".toList

/-- What stands at the beginning of a line. -/
def margin : List Char := "  ".toList

/-- What stands between an offer and its description. -/
def gap : List Char := "  ".toList

/-- The length of the spelling of an offer. -/
def width (offer : Offer) : Nat := (offer.spelling.flatMap fun span => span.text).length

/-- The length of the longest spelling. -/
def widest (offers : List Offer) : Nat := (offers.map width).foldl max 0

/-- A text whose lines but the first begin with an indentation. -/
def indentRest (indentation : Nat) (text : List Char) : List Char :=
  text.flatMap fun character =>
    if character = '\n' then '\n' :: List.replicate indentation ' ' else [character]

/-- The lines of an offer, whose description stands beside a column of spellings. -/
def lines (column : Nat) (offer : Offer) : List Span :=
  let padding := List.replicate (column - offer.width) ' '
  let about := indentRest (margin.length + column + gap.length) offer.about
  .plain margin :: offer.spelling ++ [.plain (padding ++ gap ++ about ++ ['\n'])]

/-- A titled part of a page. -/
def part (title : String) (offers : List Offer) : List Span :=
  if offers.isEmpty then []
  else
    .plain ['\n'] :: .heading title :: .plain ['\n'] :: offers.flatMap (lines (widest offers))

end Offer

/-- How the value of an option is called. -/
def OptionName.placeholder : OptionName → String
  | .configFile => "CONFIG"
  | .socketPath => "SOCKET_PATH"
  | .logFormat => "LOG_FORMAT"
  | .workers => "WORKERS"
  | .targetMilliseconds => "TARGET_P95_MS"

/-- The variable of the environment that names a configuration file. -/
def configVariable : List Char := "LOAD_SHEDDER_CONFIG".toList

/-- The description of an option, in view of the configuration file that the environment names. -/
def OptionName.about (option : OptionName) (usual : Option (List Char)) : List Char :=
  match option with
  | .configFile =>
      "Configuration file (YAML, TOML or JSON) [env: ".toList ++ configVariable ++ ['=']
        ++ usual.getD [] ++ [']']
  | .socketPath => "Unix socket to listen on".toList
  | .logFormat => "Log output format [default: text] [possible values: text, json]".toList
  | .workers => "Worker pool size and initial concurrency limit".toList
  | .targetMilliseconds => "Latency above which a completion counts as slow".toList

/-- An option as a page offers it. -/
def OptionName.offer (usual : Option (List Char)) (option : OptionName) : Offer where
  spelling :=
    [.plain Offer.noShortForm, .literal ("--".toList ++ option.write),
      .plain (" <".toList ++ option.placeholder.toList ++ ['>'])]
  about := option.about usual

/-- An option without a value, with its short form. -/
def flagOffer (letter : Char) (name about : String) : Offer where
  spelling := [.literal ['-', letter], .plain ", ".toList, .literal ("--".toList ++ name.toList)]
  about := about.toList

namespace Page

/-- What a place is for. -/
def about : Page → String
  | .program => "Adaptive admission control daemon"
  | .serve => "Run the admission daemon"
  | .stats => "Print the running daemon's limiter state"
  | .help => "Print this message or the help of the given subcommand(s)"

/-- What is typed to get to a place, and what can follow it there. -/
def usage : Page → String × String
  | .program => ("load-shedder", " [OPTIONS] <COMMAND>")
  | .serve => ("load-shedder serve", " [OPTIONS]")
  | .stats => ("load-shedder stats", " [OPTIONS]")
  | .help => ("load-shedder help", " [COMMAND]...")

/-- The commands that a page offers. -/
def commands : Page → List Offer
  | .program =>
      [⟨[.literal "serve".toList], Page.serve.about.toList⟩,
        ⟨[.literal "stats".toList], Page.stats.about.toList⟩,
        ⟨[.literal "help".toList], Page.help.about.toList⟩]
  | _ => []

/-- The words that a page offers. -/
def words : Page → List Offer
  | .help => [⟨[.plain "[COMMAND]...".toList], "Print help for the subcommand(s)".toList⟩]
  | _ => []

/-- The options without a value that a page offers. -/
def flags : Page → List Offer
  | .program => [flagOffer 'h' "help" "Print help", flagOffer 'V' "version" "Print version"]
  | .serve | .stats => [flagOffer 'h' "help" "Print help"]
  | .help => []

/-- The parts of a page, in view of the configuration file that the environment names. -/
def spans (page : Page) (usual : Option (List Char)) : List Span :=
  let (typed, rest) := page.usage
  [.plain (page.about.toList ++ "\n\n".toList), .heading "Usage:", .plain [' '],
      .literal typed.toList, .plain (rest.toList ++ ['\n'])]
    ++ Offer.part "Commands:" page.commands ++ Offer.part "Arguments:" page.words
    ++ Offer.part "Options:" (page.options.map (OptionName.offer usual) ++ page.flags)

/-- The text of a page, with the orders for its looks or as it is seen with them. -/
def text (page : Page) (usual : Option (List Char)) (styled : Bool) : List Char :=
  let written := (page.spans usual).flatMap Span.write
  if styled then written else Text.seen written

end Page

/-- Whether the environment asks for orders to a terminal even where none is: `CLICOLOR_FORCE` is
there and not zero, and `NO_COLOR` does not forbid it. -/
def isStyled (environment : List (List Char × List Char)) : Bool :=
  let forced := (environment.lookup "CLICOLOR_FORCE".toList).getD ['0'] ≠ ['0']
  let forbidden := (environment.lookup "NO_COLOR".toList).getD [] ≠ []
  forced && !forbidden

/-- The text that tells the version. -/
def versionText : List Char := "load-shedder 0.1.0\n".toList

end AdmissionControl.CommandLine
