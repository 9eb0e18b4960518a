import CanonicalLR.Description

/-! # Replies of the service

A reply has a status, a JSON body or none, and the lines that the service logs with it. The body of a
failure says what failed in words and by a code.
-/
namespace CanonicalLR

structure Reply where
  status : Nat
  body : Option Json
  log : List String

namespace Reply

/-- A status without a JSON body. -/
def bare (status : Nat) : Reply := ⟨status, none, []⟩

def success (members : List (String × Json)) : Reply :=
  ⟨200, some (.object (("success", .bool true) :: members)), []⟩

def failure (status : Nat) (code message : String) : Reply :=
  ⟨status, some (.object [("success", .bool false), ("error", .string message), ("error_type", .string code)]), []⟩

/-- The given lines come before those logged already. -/
def logging (lines : List String) (r : Reply) : Reply := { r with log := lines ++ r.log }

/-- The line number is left out when it is zero. -/
def grammarFailure (kind : GrammarErrorKind) (message : String) (lineNumber : Int) : Reply :=
  let members := [("success", .bool false), ("error", .string message), ("error_type", .string kind.code)]
  let location := if lineNumber = 0 then [] else [("line_number", .integer lineNumber)]
  ⟨400, some (.object (members ++ location)), [s!"--- Grammar Processing FAILED: {message} ---"]⟩

def ofGrammarError (e : GrammarError) : Reply :=
  grammarFailure e.kind e.message e.lineNumber

def invalidBody : Reply :=
  failure 400 "invalid_body" "Request body must be a JSON object"

def systemFailure (message : String) : Reply :=
  (failure 500 "system_error" s!"Unexpected server error: {message}").logging
    [s!"--- UNEXPECTED Python Error: {message} ---"]

def missingGrammar : Reply :=
  failure 400 "missing_grammar" "No grammar provided"

def missingInput : Reply :=
  failure 400 "missing_input" "No input string provided"

def invalidInput : Reply :=
  failure 400 "invalid_input" "Input must be a string of space-separated tokens"

def inputTooLarge (count : Nat) (limit : Int) : Reply :=
  failure 413 "input_too_large" s!"Input has {count} tokens, limit is {limit}"

def automatonTooLarge (count : Nat) (limit : Int) : Reply :=
  (failure 422 "automaton_too_large" s!"Automaton has {count} states, limit is {limit}").logging
    [s!"--- Automaton too large: {count} states ---"]

/-- All logged lines, each ended by a line feed. -/
def logText (r : Reply) : String :=
  String.join (r.log.map (· ++ "\n"))

end Reply

end CanonicalLR
