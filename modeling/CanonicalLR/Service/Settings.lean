import CanonicalLR.Text.Integer

/-! # Settings of the service

The environment is a list of variables with their values. The numbers are read in the order of the
fields, and the first one that cannot be read is the error.
-/
namespace CanonicalLR

abbrev Environment := List (String × String)

structure Settings where
  host : String := "127.0.0.1"
  port : Int := 5000
  debug : Bool := false
  maxInputTokens : Int := 10000
  maxStates : Int := 5000
  maxSteps : Int := 100000
deriving DecidableEq

namespace Settings

def readNumber (env : Environment) (name : String) (default : Int) : Except Text.IntegerError Int :=
  match env.lookup name with
  | none => .ok default
  | some text => Text.readInteger text

def isSwitchedOn (text : String) : Bool :=
  ["1", "true", "yes"].contains (String.ofList (text.toList.map Char.toLower))

def ofEnvironment (env : Environment) : Except Text.IntegerError Settings := do
  let defaults : Settings := {}
  let port ← readNumber env "CLR_PORT" defaults.port
  let maxInputTokens ← readNumber env "CLR_MAX_INPUT_TOKENS" defaults.maxInputTokens
  let maxStates ← readNumber env "CLR_MAX_STATES" defaults.maxStates
  let maxSteps ← readNumber env "CLR_MAX_STEPS" defaults.maxSteps
  return {
    host := (env.lookup "CLR_HOST").getD defaults.host
    port := port
    debug := isSwitchedOn ((env.lookup "CLR_DEBUG").getD "")
    maxInputTokens := maxInputTokens
    maxStates := maxStates
    maxSteps := maxSteps }

end Settings

end CanonicalLR
