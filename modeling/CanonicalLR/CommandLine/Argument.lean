import CanonicalLR.Text.Digit
import CanonicalLR.Text.Quoted

/-! # Command line arguments

An argument is an operand, an option, or the separator `--`, behind which all are operands. An option
is written in full, by a beginning that no other option shares, or with a value behind an equals sign;
the short one may have further letters behind it. A negative number is an operand, and so is an
argument with a space in it that is no option.
-/
namespace CanonicalLR.CommandLine

inductive Switch where
  | help
  | host
  | port
  | debug
deriving DecidableEq

namespace Switch

/-- How a switch is named in messages. -/
def title : Switch → String
  | help => "-h/--help"
  | host => "--host"
  | port => "--port"
  | debug => "--debug"

def takesValue : Switch → Bool
  | host => true
  | port => true
  | help => false
  | debug => false

/-- All spellings, in the order in which they are listed. -/
def spellings : List (List Char × Switch) := [
  ("-h".toList, help),
  ("--help".toList, help),
  ("--host".toList, host),
  ("--port".toList, port),
  ("--debug".toList, debug)]

def ofSpelling? (spelling : List Char) : Option Switch :=
  (spellings.find? (·.1 = spelling)).map Prod.snd

end Switch

inductive ArgumentError where
  | ambiguous (argument : String) (matching : List String)
  | missingValue (switch : Switch)
  | ignoredValue (switch : Switch) (value : String)
  | invalidNumber (switch : Switch) (value : String)
  | unrecognized (arguments : List String)
deriving DecidableEq

def ArgumentError.message : ArgumentError → String
  | ambiguous argument matching =>
    let candidates := String.intercalate ", " matching
    s!"ambiguous option: {argument} could match {candidates}"
  | missingValue switch => s!"argument {switch.title}: expected one argument"
  | ignoredValue switch value => s!"argument {switch.title}: ignored explicit argument {Text.quoted value}"
  | invalidNumber switch value => s!"argument {switch.title}: invalid int value: {Text.quoted value}"
  | unrecognized arguments =>
    let listed := String.intercalate " " arguments
    s!"unrecognized arguments: {listed}"

inductive Argument where
  | operand (text : String)
  | separator
  | option (switch : Switch) (short : Bool) (value : Option String)
  | unknownOption (text : String)
deriving DecidableEq

namespace Argument

/-- The text as it was written, of an argument that no switch takes. -/
def leftover : Argument → List String
  | operand text => [text]
  | separator => ["--"]
  | option .. => []
  | unknownOption text => [text]

def isDecimal (c : Char) : Bool := (Text.digitValue? c).isSome

/-- Digits, or a point with at least one digit behind it, after a minus sign. A line feed may follow. -/
def isNegativeNumber : List Char → Bool
  | '-' :: rest =>
    let body := if rest.getLast? = some '\n' then rest.dropLast else rest
    match body.dropWhile isDecimal with
    | [] => !body.isEmpty
    | '.' :: fraction => !fraction.isEmpty && fraction.all isDecimal
    | _ => false
  | _ => false

/-- The text before the first equals sign and the text behind it. -/
def splitAtEquals (cs : List Char) : List Char × Option String :=
  let name := cs.takeWhile (· ≠ '=')
  (name, if name.length < cs.length then some (String.ofList (cs.drop (name.length + 1))) else none)

/-- What a dashed text can stand for that is no full spelling. -/
def candidates (cs : List Char) : List (List Char × Argument) :=
  if "--".toList.isPrefixOf cs then
    let (name, value) := splitAtEquals cs
    (Switch.spellings.filter fun s => name.isPrefixOf s.1).map fun s => (s.1, option s.2 false value)
  else
    Switch.spellings.filterMap fun s =>
      if s.1 = cs.take 2 then some (s.1, option s.2 true (some (String.ofList (cs.drop 2))))
      else if cs.isPrefixOf s.1 then some (s.1, option s.2 false none)
      else none

def ofDashed (text : String) : Except ArgumentError Argument :=
  let cs := text.toList
  let (name, value) := splitAtEquals cs
  match Switch.ofSpelling? cs, if value.isSome then Switch.ofSpelling? name else none with
  | some switch, _ => .ok (option switch (cs.length = 2) none)
  | none, some switch => .ok (option switch (name.length = 2) value)
  | none, none =>
    match candidates cs with
    | [(_, argument)] => .ok argument
    | [] => .ok (if isNegativeNumber cs || cs.contains ' ' then operand text else unknownOption text)
    | several => .error (.ambiguous text (several.map fun s => String.ofList s.1))

def ofText (text : String) : Except ArgumentError Argument :=
  if text = "--" then .ok separator
  else if "-".toList.isPrefixOf text.toList && text ≠ "-" then ofDashed text
  else .ok (operand text)

/-- Behind the separator nothing is an option. -/
def ofTexts : List String → Except ArgumentError (List Argument)
  | [] => .ok []
  | text :: rest => do
    match ← ofText text with
    | separator => return separator :: rest.map operand
    | argument =>
      let arguments ← ofTexts rest
      return argument :: arguments

end Argument

end CanonicalLR.CommandLine
