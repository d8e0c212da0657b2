import MorrowindScript.CodePage.Basic
import MorrowindScript.Filter.Parse

/-!
# Options of the command line

Options come before the files. An option with an argument takes the next word, or what follows its
letter in the same word. The last of several equal options counts.

* `Options`: what the options say.
* `Stop`: why nothing is compiled: an error, or a text to be shown.
* `Options.parse`: reads the words of the command line.
-/

namespace MorrowindScript

open Bytes

/-- What the options of the command line say. -/
structure Options where
  /-- The file of the data set, or nothing. -/
  dataFile : Bytes := []
  /-- The name of the encoding of compiled text. -/
  encoding : Bytes := ascii CodePage.western.name
  /-- The number of scripts compiled at the same time; zero if it is not given. -/
  workers : Nat := 0
  /-- Selects the scripts to be shown. -/
  filter : Option Filter := none
  /-- The directory that compiled scripts are written to, or nothing. -/
  outDir : Bytes := []
  /-- The scripts of the data set are verified. -/
  verify : Bool := false
  /-- Listings are shown. -/
  listing : Bool := false
  /-- The files to be compiled. -/
  files : List Bytes := []
  deriving DecidableEq, Repr

/-- What is wrong with a command line. -/
inductive UsageError where
  /-- The last option lacks its argument. -/
  | missingArgument (option : Bytes)
  /-- The number of workers is no positive number. -/
  | badWorkers (text : Bytes)
  /-- The filter cannot be read. -/
  | badFilter (pattern : Bytes) (error : FilterError)
  /-- There is no such option. -/
  | unknownOption (option : Bytes)
  /-- There are no scripts to be verified. -/
  | verifyWithoutData
  deriving DecidableEq, Repr

/-- The error in words. -/
def UsageError.message : UsageError → Bytes
  | missingArgument option => ascii "flag needs an argument: " ++ option
  | badWorkers text => ascii "invalid number of workers: " ++ text
  | badFilter pattern error =>
    ascii "invalid filter " ++ Quoted.text pattern ++ ascii ": " ++ error.message pattern
  | unknownOption option => ascii "flag provided but not defined: " ++ option
  | verifyWithoutData => ascii "-verify needs a data set (-d)"

/-- Why nothing is compiled. -/
inductive Stop where
  /-- The command line is wrong. -/
  | error (e : UsageError)
  /-- Help was asked for. -/
  | help
  /-- The version was asked for. -/
  | version
  deriving DecidableEq, Repr

namespace Options

/-- The largest number of workers. -/
def maxWorkers : Nat := 0x7FFFFFFFFFFFFFFF

/-- A positive number in decimal digits, after an optional plus sign. -/
def positive? (s : Bytes) : Option Nat :=
  let digits := if s.head? == some 0x2B then s.tail else s
  let value := digits.foldl (fun n c => 10 * n + digitValue c) 0
  if !digits.isEmpty && digits.all isDigit && 1 ≤ value && value ≤ maxWorkers then some value
  else none

/-- Sets the number of workers. -/
def setWorkers (options : Options) (text : Bytes) : Except Stop Options :=
  match positive? text with
  | some n => .ok { options with workers := n }
  | none => .error (.error (.badWorkers text))

/-- Sets the filter. -/
def setFilter (options : Options) (pattern : Bytes) : Except Stop Options :=
  match Filter.parse pattern with
  | .ok filter => .ok { options with filter := some filter }
  | .error e => .error (.error (.badFilter pattern e))

/-- How an option with an argument in the next word changes the options, if it is one. -/
def withArgument? (word : Bytes) : Option (Options → Bytes → Except Stop Options) :=
  if word == ascii "-d" then some fun options value => .ok { options with dataFile := value }
  else if word == ascii "-e" then some fun options value => .ok { options with encoding := value }
  else if word == ascii "-o" then some fun options value => .ok { options with outDir := value }
  else if word == ascii "-j" then some setWorkers
  else if word == ascii "-filter" || word == ascii "--filter" then some setFilter
  else none

/-- Takes an option that is one word. -/
def setSingle (options : Options) (word : Bytes) : Except Stop Options :=
  let starts (mark : String) : Bool := (ascii mark).isPrefixOf word
  if word == ascii "-verify" || word == ascii "--verify" then .ok { options with verify := true }
  else if word == ascii "-da" then .ok { options with listing := true }
  else if word == ascii "-h" || word == ascii "--help" then .error .help
  else if word == ascii "-version" || word == ascii "--version" then .error .version
  else if starts "-j" then options.setWorkers (word.drop 2)
  else if starts "-d" then .ok { options with dataFile := word.drop 2 }
  else if starts "-e" then .ok { options with encoding := word.drop 2 }
  else if starts "-o" then .ok { options with outDir := word.drop 2 }
  else .error (.error (.unknownOption word))

/-- Reads the words of the command line after the options already read. Two hyphens, or a word that
is a lone hyphen or starts with none, end the options. -/
def parseFrom (options : Options) : List Bytes → Except Stop Options
  | [] => .ok options
  | [word] =>
    if word == ascii "--" then .ok options
    else if word == [minus] || word.head? != some minus then .ok { options with files := [word] }
    else if (withArgument? word).isSome then .error (.error (.missingArgument word))
    else options.setSingle word
  | word :: next :: rest =>
    if word == ascii "--" then .ok { options with files := next :: rest }
    else if word == [minus] || word.head? != some minus then
      .ok { options with files := word :: next :: rest }
    else
      match withArgument? word with
      | some set =>
        match set options next with
        | .ok options => parseFrom options rest
        | .error stop => .error stop
      | none =>
        match options.setSingle word with
        | .ok options => parseFrom options (next :: rest)
        | .error stop => .error stop

/-- Reads the words of the command line. -/
def parse (words : List Bytes) : Except Stop Options := do
  let options ← parseFrom {} words
  if options.verify && options.dataFile.isEmpty then throw (.error .verifyWithoutData)
  pure options

end Options

end MorrowindScript
