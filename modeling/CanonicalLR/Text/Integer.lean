import CanonicalLR.Text.Blank
import CanonicalLR.Text.Digit
import CanonicalLR.Text.Quoted

/-! # Integer literals

A literal is one optional sign and a run of decimal digits of any script, with single low lines
between them, and white space around. The information separators are no white space here. A literal
has at most `maxDigits` digits.
-/
namespace CanonicalLR.Text

inductive IntegerError where
  | malformed (text : String)
  | tooManyDigits (count : Nat)
deriving DecidableEq

def maxDigits : Nat := 4300

/-- A long text is not quoted in full. -/
def excerpt (text : String) : String :=
  String.ofList ((quoted text).toList.take 200)

def IntegerError.message : IntegerError → String
  | malformed text => s!"invalid literal for int() with base 10: {excerpt text}"
  | tooManyDigits count =>
    s!"Exceeds the limit ({maxDigits} digits) for integer string conversion: value has {count} digits; " ++
      "use sys.set_int_max_str_digits() to increase the limit"

def isMargin (c : Char) : Bool :=
  isBlank c && !(0x1C ≤ c.toNat && c.toNat ≤ 0x1F)

def isNumeral (c : Char) : Bool :=
  (digitValue? c).isSome || c == '_'

/-- Every low line stands between two digits. -/
def wellSpaced : List Char → Bool
  | [] => false
  | [c] => c != '_'
  | c :: d :: rest => c != '_' && (if d == '_' then wellSpaced rest else wellSpaced (d :: rest))

def decimalValue (digits : List Nat) : Nat :=
  digits.foldl (fun n d => 10 * n + d) 0

def readSign : List Char → Bool × List Char
  | '-' :: rest => (true, rest)
  | '+' :: rest => (false, rest)
  | cs => (false, cs)

def readInteger (text : String) : Except IntegerError Int :=
  let (negative, body) := readSign (text.toList.dropWhile isMargin)
  let run := body.takeWhile isNumeral
  let digits := run.filterMap digitValue?
  if !wellSpaced run then .error (.malformed text)
  else if maxDigits < digits.length then .error (.tooManyDigits digits.length)
  else if !(body.dropWhile isNumeral).all isMargin then .error (.malformed text)
  else if negative then .ok (-(decimalValue digits : Int))
  else .ok (decimalValue digits)

end CanonicalLR.Text
