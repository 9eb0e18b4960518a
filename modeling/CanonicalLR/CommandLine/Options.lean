import CanonicalLR.CommandLine.Argument
import CanonicalLR.Text.Integer

/-! # Options of the command line

The arguments are taken in order, a later value over an earlier one. A request for help ends the
reading where it stands; arguments that belong to no option are refused at the end.
-/
namespace CanonicalLR.CommandLine

structure Options where
  host : Option String := none
  port : Option Int := none
  debug : Bool := false
deriving DecidableEq

inductive Reading where
  | options (o : Options)
  | help
  | error (e : ArgumentError)
deriving DecidableEq

namespace Options

/-- The separator is no value, not even behind an equals sign: it takes the value away. -/
def setValue (o : Options) (switch : Switch) (value : String) : Except ArgumentError Options :=
  match switch with
  | .host => .ok { o with host := if value = "--" then none else some value }
  | .port =>
    if value = "--" then .ok { o with port := none }
    else
      match Text.readInteger value with
      | .ok n => .ok { o with port := some n }
      | .error _ => .error (.invalidNumber .port value)
  | .help | .debug => .ok o

/-- Further letters behind the short option have to be the same option. -/
def unusedValue (short : Bool) (value : String) : Option String :=
  if short && !value.isEmpty then
    let rest := value.toList.dropWhile (· = 'h')
    if rest.isEmpty then none else some (String.ofList rest)
  else some value

def takeAll (o : Options) (leftover : List String) : List Argument → Reading
  | [] => if leftover.isEmpty then .options o else .error (.unrecognized leftover)
  | .option .help short value :: _ =>
    match value.bind (unusedValue short) with
    | some unused => .error (.ignoredValue .help unused)
    | none => .help
  | .option .debug _ value :: rest =>
    match value with
    | some unused => .error (.ignoredValue .debug unused)
    | none => takeAll { o with debug := true } leftover rest
  | .option switch _ (some value) :: rest =>
    match o.setValue switch value with
    | .error e => .error e
    | .ok o => takeAll o leftover rest
  | .option switch _ none :: .operand value :: rest =>
    match o.setValue switch value with
    | .error e => .error e
    | .ok o => takeAll o leftover rest
  | .option switch _ none :: _ => .error (.missingValue switch)
  | argument :: rest => takeAll o (leftover ++ argument.leftover) rest

def read (arguments : List String) : Reading :=
  match Argument.ofTexts arguments with
  | .error e => .error e
  | .ok arguments => takeAll {} [] arguments

end Options

end CanonicalLR.CommandLine
