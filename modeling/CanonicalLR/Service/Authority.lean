import CanonicalLR.HostName
import CanonicalLR.Service.Address
import CanonicalLR.Text.Capital
import CanonicalLR.Text.Integer

/-! # Authorities

An authority names a host, with a user and a password before it and a port behind it:
`user:password@host:port`. A host with colons in it stands between brackets and has to be a network
address. `check` looks at the brackets and at characters that would split the authority; `canonical`
writes it in ASCII and lower case, without a port of zero and without an empty user; `shown` writes it
with the characters of its labels.
-/
namespace CanonicalLR

inductive AuthorityError where
  | badBrackets
  | badFutureAddress
  | noAddress (host : String)
  | bracketedVersion4
  | hiddenDelimiter (authority : String)
  | hostName (e : HostNameError)
  | badPort (port : String)
  | unreadablePort (e : Text.IntegerError)
  | portOutOfRange
deriving DecidableEq

namespace AuthorityError

def message : AuthorityError → String
  | badBrackets => "Invalid IPv6 URL"
  | badFutureAddress => "IPvFuture address is invalid"
  | noAddress host => s!"{Text.quoted host} does not appear to be an IPv4 or IPv6 address"
  | bracketedVersion4 => "An IPv4 address cannot be in brackets"
  | hiddenDelimiter authority =>
    s!"netloc '{authority}' contains invalid characters under NFKC normalization"
  | hostName e => e.message
  | badPort port => s!"Port could not be cast to integer value as {Text.quoted port}"
  | unreadablePort e => e.message
  | portOutOfRange => "Port out of range 0-65535"

/-- Whether the error lies in the labels of a host name. -/
def isLabelError : AuthorityError → Bool
  | hostName _ => true
  | _ => false

end AuthorityError

structure Authority where
  user : List Char
  password : List Char
  host : List Char
  port : List Char
deriving DecidableEq

namespace Authority

def ofText (cs : List Char) : Authority :=
  let (login, place) := Text.cutLast '@' cs
  let (user, password) := Text.cut ':' login
  if place.contains '[' then
    let (host, rest) := Text.cut ']' (Text.cut '[' place).2
    ⟨user, password, host, (Text.cut ':' rest).2⟩
  else
    let (host, port) := Text.cut ':' place
    ⟨user, password, host, port⟩

/-- Characters that the Unicode standard takes for forms of a slash, a question mark, a number sign,
an at sign or a colon. -/
def disguised : List Char := [
  '\u2047', '\u2048', '\u2049', '\u2100', '\u2101', '\u2105', '\u2106', '\u2A74', '\uFE13', '\uFE16',
  '\uFE55', '\uFE56', '\uFE5F', '\uFE6B', '\uFF03', '\uFF0F', '\uFF1A', '\uFF1F', '\uFF20']

def checkBracketed (host : List Char) : Except AuthorityError Unit :=
  if host.head? = some 'v' then
    if Address.isFuture host then .ok () else .error .badFutureAddress
  else if Address.isVersion4 host then .error .bracketedVersion4
  else if Address.isVersion6 host then .ok ()
  else .error (.noAddress (String.ofList host))

/-- Brackets enclose the whole host, and nothing but a port is behind them. Brackets in a user make the
host an address, too. -/
def checkBrackets (cs : List Char) : Except AuthorityError Unit := do
  let (_, place) := Text.cutLast '@' cs
  let (before, bracketed) := Text.cut '[' place
  if place.contains '[' then
    let behind := (Text.cut ']' bracketed).2
    if !before.isEmpty || !(behind.isEmpty || behind.head? = some ':') then throw .badBrackets
  checkBracketed (ofText cs).host

def check (cs : List Char) : Except AuthorityError Unit := do
  if cs.contains '[' != cs.contains ']' then throw .badBrackets
  if cs.contains '[' then checkBrackets cs
  if cs.any disguised.contains then throw (.hiddenDelimiter (String.ofList cs))

/-- A zone behind a percent sign keeps its case. -/
def lowerHost (host : List Char) : List Char :=
  (host.takeWhile (· ≠ '%')).map Text.small ++ host.dropWhile (· ≠ '%')

/-- A missing port counts as zero. -/
def portNumber (port : List Char) : Except AuthorityError Nat :=
  if port.isEmpty then .ok 0
  else if port.all Char.isDigit then
    match Text.readInteger (String.ofList port) with
    | .error e => .error (.unreadablePort e)
    | .ok n => if 65535 < n then .error .portOutOfRange else .ok n.toNat
  else .error (.badPort (String.ofList port))

def loginText (a : Authority) : List Char :=
  let encode := Text.percentEncode "%!$&'()*+,;=".toList
  if a.user.isEmpty then []
  else encode a.user ++ (if a.password.isEmpty then [] else ':' :: encode a.password) ++ ['@']

/-- A host with colons is put between brackets. -/
def placeText (host : List Char) (port : Nat) : List Char :=
  (if host.contains ':' then '[' :: host ++ [']'] else host) ++
    if port = 0 then [] else ':' :: (toString port).toList

def canonical (a : Authority) : Except AuthorityError (List Char) := do
  let host ← (HostName.encode (lowerHost a.host)).mapError .hostName
  let port ← portNumber a.port
  return a.loginText ++ placeText host port

/-- The user is left out. -/
def shown (a : Authority) : Except AuthorityError (List Char) := do
  let host ← (HostName.decode a.host).mapError .hostName
  let port ← portNumber a.port
  return placeText host port

end Authority

end CanonicalLR
