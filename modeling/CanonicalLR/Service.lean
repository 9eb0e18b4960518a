import CanonicalLR.Service.Reply
import CanonicalLR.Service.Request
import CanonicalLR.Service.Route
import CanonicalLR.Service.Settings

/-! # The service

The service builds the tables of a grammar, or validates an input against a grammar. A request is
checked in a fixed order, and the first check that fails makes the reply: body, grammar, input, number
of tokens, grammar text, number of states. A rejected input is no failure. Before that, the location of
the request has to lead to a resource that allows its method.
-/
namespace CanonicalLR.Service

/-- The grammar of a request has to be a text that is not empty. -/
def grammarText? (members : List (String × Json)) : Option String :=
  match Json.member "grammar" members with
  | .string text => if text.isEmpty then none else some text
  | _ => none

/-- The recognizer of a grammar text, or the reply that refuses it. -/
def prepare (s : Settings) (text : String) : Except Reply Recognizer := do
  match Recognizer.ofText text (some s.maxSteps) with
  | .error e => .error (.ofGrammarError e)
  | .ok r =>
    let count := r.automaton.states.length
    if s.maxStates < count then .error (.automatonTooLarge count s.maxStates) else .ok r

def describe (r : Recognizer) : Reply :=
  match r.describe with
  | .error missing => .systemFailure missing.message
  | .ok d =>
    let conflicts := if d.conflicts.isEmpty then [] else [s!"Conflicts detected: {d.conflicts.length}"]
    (Reply.success d.members).logging ([
      "--- Parse Table Building SUCCEEDED ---",
      s!"States created: {d.statesCount}",
      s!"Action entries: {d.actionEntries}",
      s!"Goto entries: {d.gotoEntries}"] ++ conflicts)

def validate (r : Recognizer) (input : String) : Reply :=
  Reply.logging [s!"--- Parsing Input String: '{input}' ---"] <|
    match r.validate input with
    | .error fault => .systemFailure fault.message
    | .ok v =>
      let verdict := if v.accepted then "SUCCEEDED" else s!"REJECTED: {v.message}"
      (Reply.success v.members).logging [s!"--- Parsing {verdict} ---"]

def buildTable (s : Settings) (members : List (String × Json)) : Reply :=
  match grammarText? members with
  | none => .missingGrammar
  | some text =>
    Reply.logging ["--- Building Parse Table ---"] <|
      match prepare s text with
      | .error reply => reply
      | .ok r => describe r

def validateInput (s : Settings) (members : List (String × Json)) : Reply :=
  match grammarText? members with
  | none => .missingGrammar
  | some text =>
    match Json.member "input" members with
    | .null => .missingInput
    | .string input =>
      let count := (Text.wordsOf input).length
      if s.maxInputTokens < count then .inputTooLarge count s.maxInputTokens
      else
        match prepare s text with
        | .error reply => reply
        | .ok r => validate r input
    | _ => .invalidInput

def post (s : Settings) (handle : Settings → List (String × Json) → Reply) (r : Request) : Reply :=
  match r.members? with
  | none => .invalidBody
  | some members => handle s members

def health : Reply := ⟨200, some (.object [("status", .string "ok")]), []⟩

/-- No files are kept, so none is found. -/
def reply (s : Settings) (r : Request) : Route → Reply
  | .health => health
  | .buildTable => post s buildTable r
  | .validate => post s validateInput r
  | .file => .bare 404

/-- `OPTIONS` is answered without a body, and so is `HEAD` if it is written in capital letters. -/
def respond (s : Settings) (r : Request) (location : Location) : Reply :=
  let method := Text.capitalized r.method
  if !location.hasServerName then .bare 400
  else
    match Destination.ofPath location.path method location.isSocket with
    | .unknown => .bare 404
    | .refused => .bare 405
    | .noSocket => .bare 400
    | .moved => .bare 308
    | .found route =>
      if method = "OPTIONS" then .bare 200
      else if r.method = "HEAD" then .bare (reply s r route).status
      else reply s r route

def answer (s : Settings) (r : Request) : Except RequestError Reply := do
  let location ← r.location
  return respond s r location

end CanonicalLR.Service
