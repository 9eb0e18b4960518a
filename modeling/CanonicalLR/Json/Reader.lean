import CanonicalLR.Json
import CanonicalLR.Text.Integer
import CanonicalLR.Text.Percent
import CanonicalLR.Text.Unit

/-! # Reading JSON

The reader takes one value with white space around it. Beside the standard it takes `NaN`, `Infinity`
and `-Infinity`. It refuses control characters in strings and integers with more digits than an
integer literal may have. An escape that is half of a surrogate pair alone is read as U+FFFD.
-/
namespace CanonicalLR.Json

def isSpace (c : Char) : Bool := c == ' ' || c == '\t' || c == '\n' || c == '\r'

def skipSpace (cs : List Char) : List Char := cs.dropWhile isSpace

/-- Four hexadecimal digits. -/
def readUnit : List Char → Option (Nat × List Char)
  | a :: b :: c :: d :: rest => do
    let a ← Text.hexValue? a
    let b ← Text.hexValue? b
    let c ← Text.hexValue? c
    let d ← Text.hexValue? d
    return (((a * 16 + b) * 16 + c) * 16 + d, rest)
  | _ => none

/-- The character of an escape, behind its backslash and letter `u`. -/
def readEscapedUnit (cs : List Char) : Option (Char × List Char) := do
  let (high, rest) ← readUnit cs
  if Text.isHighSurrogate high then
    match rest with
    | '\\' :: 'u' :: more =>
      let (low, after) ← readUnit more
      if Text.isLowSurrogate low then
        return (Text.pairChar high low, after)
      else return (Text.unitChar high, rest)
    | _ => return (Text.unitChar high, rest)
  else return (Text.unitChar high, rest)

def simpleEscape? : Char → Option Char
  | '"' => some '"'
  | '\\' => some '\\'
  | '/' => some '/'
  | 'b' => some '\x08'
  | 'f' => some '\x0c'
  | 'n' => some '\n'
  | 'r' => some '\r'
  | 't' => some '\t'
  | _ => none

/-- The rest of a string behind its opening quotation mark. -/
def readStringRest : Nat → List Char → Option (List Char × List Char)
  | 0, _ => none
  | _ + 1, [] => none
  | _ + 1, '"' :: rest => some ([], rest)
  | fuel + 1, '\\' :: 'u' :: rest => do
    let (c, rest) ← readEscapedUnit rest
    let (cs, rest) ← readStringRest fuel rest
    return (c :: cs, rest)
  | fuel + 1, '\\' :: letter :: rest => do
    let c ← simpleEscape? letter
    let (cs, rest) ← readStringRest fuel rest
    return (c :: cs, rest)
  | fuel + 1, c :: rest =>
    if c.toNat < 0x20 || c == '\\' then none
    else do
      let (cs, rest) ← readStringRest fuel rest
      return (c :: cs, rest)

def readString (cs : List Char) : Option (String × List Char) := do
  let (cs, rest) ← readStringRest (cs.length + 1) cs
  return (String.ofList cs, rest)

/-- A fraction or an exponent: a mark, for an exponent a sign, and at least one digit. -/
def readTail (mark : Char → Bool) (sign : Char → Bool) (cs : List Char) : List Char × List Char :=
  match cs with
  | [] => ([], [])
  | c :: rest =>
    if mark c then
      let signs := (rest.take 1).filter sign
      let body := rest.drop signs.length
      let digits := body.takeWhile Char.isDigit
      if digits.isEmpty then ([], cs) else (c :: signs ++ digits, body.drop digits.length)
    else ([], cs)

/-- A zero, or digits that do not begin with a zero. -/
def readDigits : List Char → Option (List Char × List Char)
  | [] => none
  | c :: rest =>
    if c == '0' then some ([c], rest)
    else if c.isDigit then some (c :: rest.takeWhile Char.isDigit, rest.dropWhile Char.isDigit)
    else none

def readNumber (cs : List Char) : Option (Json × List Char) := do
  let (sign, body) := if cs.head? = some '-' then (['-'], cs.drop 1) else ([], cs)
  let (digits, rest) ← readDigits body
  let (fraction, rest) := readTail (· == '.') (fun _ => false) rest
  let (exponent, rest) := readTail (fun c => c == 'e' || c == 'E') (fun c => c == '+' || c == '-') rest
  let literal := String.ofList (sign ++ digits ++ fraction ++ exponent)
  if fraction.isEmpty && exponent.isEmpty then
    match Text.readInteger literal with
    | .ok n => return (.integer n, rest)
    | .error _ => none
  else return (.decimal literal, rest)

def words : List (List Char × Json) := [
  ("null".toList, .null),
  ("true".toList, .bool true),
  ("false".toList, .bool false),
  ("NaN".toList, .decimal "NaN"),
  ("Infinity".toList, .decimal "Infinity"),
  ("-Infinity".toList, .decimal "-Infinity")]

def readWord (cs : List Char) : Option (Json × List Char) :=
  (words.find? fun (word, _) => word.isPrefixOf cs).map fun (word, value) => (value, cs.drop word.length)

mutual

/-- A value at the head of the text; the fuel bounds the depth and the number of values. -/
def readValue : Nat → List Char → Option (Json × List Char)
  | 0, _ => none
  | _ + 1, [] => none
  | _ + 1, '"' :: rest => (readString rest).map fun (s, rest) => (.string s, rest)
  | fuel + 1, '[' :: rest =>
    match skipSpace rest with
    | ']' :: rest => some (.array [], rest)
    | rest => (readItems fuel rest).map fun (items, rest) => (.array items, rest)
  | fuel + 1, '\x7b' :: rest =>
    match skipSpace rest with
    | '\x7d' :: rest => some (.object [], rest)
    | rest => (readMembers fuel rest).map fun (members, rest) => (.object members, rest)
  | _ + 1, cs => (readWord cs).or (readNumber cs)

def readItems : Nat → List Char → Option (List Json × List Char)
  | 0, _ => none
  | fuel + 1, cs => do
    let (item, rest) ← readValue fuel cs
    match skipSpace rest with
    | ']' :: rest => return ([item], rest)
    | ',' :: rest =>
      let (items, rest) ← readItems fuel (skipSpace rest)
      return (item :: items, rest)
    | _ => none

def readMembers : Nat → List Char → Option (List (String × Json) × List Char)
  | 0, _ => none
  | fuel + 1, cs => do
    let '"' :: rest := cs | none
    let (name, rest) ← readString rest
    let ':' :: rest := skipSpace rest | none
    let (value, rest) ← readValue fuel (skipSpace rest)
    match skipSpace rest with
    | '\x7d' :: rest => return ([(name, value)], rest)
    | ',' :: rest =>
      let (members, rest) ← readMembers fuel (skipSpace rest)
      return ((name, value) :: members, rest)
    | _ => none

end

/-- A byte order mark before the text is skipped. -/
def read? (text : String) : Option Json := do
  let cs := text.toList
  let cs := if cs.head? = some '\uFEFF' then cs.drop 1 else cs
  let (value, rest) ← readValue (2 * cs.length + 2) (skipSpace cs)
  if (skipSpace rest).isEmpty then return value else none

end CanonicalLR.Json
