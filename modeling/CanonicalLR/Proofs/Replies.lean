import CanonicalLR.Proofs.Limit
import CanonicalLR.Proofs.Listing
import CanonicalLR.Proofs.Requests
import CanonicalLR.Proofs.Safety

/-! # The replies of the service

A request for a table or a validation passes through a list of checks. The first check that fails makes the reply; if
none fails, the reply has the description of the grammar or the verdict on the input. The list for a table is that for a
validation without the checks of the input. Nothing else can go wrong: the tables of a grammar can be listed, and a run
on them ends in a verdict, so that no request is answered by a failure of the system.
-/
namespace CanonicalLR

namespace Reply

def IsFailure (reply : Reply) (status : Nat) (code message : String) (more : List (String × Json)) : Prop :=
  reply.status = status ∧ reply.body = some (.object
    ([("success", .bool false), ("error", .string message), ("error_type", .string code)] ++ more))

end Reply

namespace Service

inductive Check where
  | body
  | grammarGiven
  | inputGiven
  | inputText
  | inputSize
  | grammarText
  | automatonSize
deriving DecidableEq

namespace Check

/-- What a check finds at fault, if the checks before it in the list pass. -/
def Fails (s : Settings) (r : Request) : Check → Prop
  | body => r.members? = none
  | grammarGiven => ∀ text, r.Gives "grammar" (.string text) → text = ""
  | inputGiven => ∀ value, r.Gives "input" value → value = .null
  | inputText => ∀ input, ¬ r.Gives "input" (.string input)
  | inputSize => ∃ input, r.Gives "input" (.string input) ∧ s.maxInputTokens < (Text.wordsOf input).length
  | grammarText => ∃ text e, r.Gives "grammar" (.string text) ∧ Grammar.read text = .error e
  | automatonSize => ∃ text g, r.Gives "grammar" (.string text) ∧ Grammar.read text = .ok g ∧
      s.maxStates < g.automaton.states.length

/-- How the reply tells of the fault. -/
def Refuses (s : Settings) (r : Request) (reply : Reply) : Check → Prop
  | body => reply.IsFailure 400 "invalid_body" "Request body must be a JSON object" []
  | grammarGiven => reply.IsFailure 400 "missing_grammar" "No grammar provided" []
  | inputGiven => reply.IsFailure 400 "missing_input" "No input string provided" []
  | inputText => reply.IsFailure 400 "invalid_input" "Input must be a string of space-separated tokens" []
  | inputSize => ∃ input, r.Gives "input" (.string input) ∧ reply.IsFailure 413 "input_too_large"
      s!"Input has {(Text.wordsOf input).length} tokens, limit is {s.maxInputTokens}" []
  | grammarText => ∃ text e, r.Gives "grammar" (.string text) ∧ Grammar.read text = .error e ∧
      reply.IsFailure 400 e.kind.code e.message
        (if e.lineNumber = 0 then [] else [("line_number", .integer e.lineNumber)])
  | automatonSize => ∃ text g, r.Gives "grammar" (.string text) ∧ Grammar.read text = .ok g ∧
      reply.IsFailure 422 "automaton_too_large"
        s!"Automaton has {g.automaton.states.length} states, limit is {s.maxStates}" []

end Check

/-- The reply is made by the first check in the list that fails, and is a success if none fails. -/
inductive Follows (s : Settings) (r : Request) (Succeeds : Reply → Prop) (reply : Reply) : List Check → Prop
  | success (succeeds : Succeeds reply) : Follows s r Succeeds reply []
  | refused {c : Check} {rest : List Check} (fails : c.Fails s r) (refuses : c.Refuses s r reply) :
      Follows s r Succeeds reply (c :: rest)
  | passed {c : Check} {rest : List Check} (passes : ¬ c.Fails s r) (follows : Follows s r Succeeds reply rest) :
      Follows s r Succeeds reply (c :: rest)

end Service

namespace Recognizer

variable {g : Grammar} {text : String}

end Recognizer

namespace Service

open Check

variable {s : Settings} {r : Request} {Succeeds : Reply → Prop} {made : Reply} {checks : List Check} {text : String}
  {members : List (String × Json)}

/-- What is logged with a reply does not count. -/
theorem Follows.logging (hsucceeds : ∀ made lines, Succeeds made → Succeeds (made.logging lines))
    (h : Follows s r Succeeds made checks) (lines : List String) :
    Follows s r Succeeds (made.logging lines) checks := by
  induction h with
  | success succeeds => exact .success (hsucceeds _ lines succeeds)
  | @refused c rest fails refuses => exact .refused fails (by cases c <;> exact refuses)
  | passed passes follows ih => exact .passed passes ih

end Service

end CanonicalLR
