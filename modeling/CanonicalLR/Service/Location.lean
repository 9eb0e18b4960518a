import CanonicalLR.Service.Authority

/-! # Locations

A target may have a scheme and an authority before its path, and a query and a fragment behind it:
`scheme://authority/path?query#fragment`. Only the path leads to a resource. What is left as the path
of a target may look like a target itself; it is taken apart once more, and only its path counts.
Control characters and spaces before a target do not count, nor do tabs and line breaks inside it.
The service learns the host of a location only if it is written as a name of ASCII letters, digits,
hyphens and points, or as an address.
-/
namespace CanonicalLR

structure Target where
  scheme : List Char
  authority : List Char
  path : List Char
deriving DecidableEq

namespace Target

def isSchemeChar (c : Char) : Bool := c.isAlphanum || c == '+' || c == '-' || c == '.'

/-- A scheme begins with a letter and ends at the first colon. -/
def splitScheme (cs : List Char) : List Char × List Char :=
  let (scheme, rest) := Text.cut ':' cs
  if cs.contains ':' && (scheme.head?.any Char.isAlpha) && scheme.all isSchemeChar then
    (scheme.map Char.toLower, rest)
  else ([], cs)

/-- An authority stands behind two slashes. -/
def splitAuthority (cs : List Char) : List Char × List Char :=
  let isEnd (c : Char) : Bool := c == '/' || c == '?' || c == '#'
  match cs with
  | '/' :: '/' :: rest => (rest.takeWhile (!isEnd ·), rest.dropWhile (!isEnd ·))
  | _ => ([], cs)

def ofText (cs : List Char) : Except AuthorityError Target := do
  let cs := (cs.dropWhile (·.toNat ≤ 0x20)).filter fun c => c ≠ '\t' ∧ c ≠ '\n' ∧ c ≠ '\r'
  let (scheme, rest) := splitScheme cs
  let (authority, rest) := splitAuthority rest
  Authority.check authority
  return ⟨scheme, authority, rest.takeWhile fun c => c ≠ '?' ∧ c ≠ '#'⟩

end Target

structure Location where
  scheme : String
  authority : List Char
  path : List Char
deriving DecidableEq

namespace Location

def localAuthority : List Char := "localhost".toList

/-- Slashes before the path count as one. -/
def ofTarget (target : String) : Except AuthorityError Location := do
  let outer ← Target.ofText target.toList
  let inner ← Target.ofText outer.path
  let named := if outer.authority.isEmpty then localAuthority else outer.authority
  let authority ← (Authority.ofText named).canonical
  Authority.check authority
  return {
    scheme := if outer.scheme.isEmpty then "http" else String.ofList outer.scheme
    authority := authority
    path := '/' :: (Text.percentDecode inner.path).dropWhile (· = '/') }

/-- A socket keeps the connection open. -/
def isSocket (l : Location) : Bool := l.scheme = "ws" || l.scheme = "wss"

/-- The port that every client takes where none is named. -/
def defaultPort (l : Location) : List Char :=
  if l.scheme = "http" || l.scheme = "ws" then ":80".toList
  else if l.scheme = "https" || l.scheme = "wss" then ":443".toList
  else []

def withoutDefaultPort (l : Location) : List Char :=
  if l.defaultPort.isSuffixOf l.authority then
    l.authority.take (l.authority.length - l.defaultPort.length)
  else l.authority

def isPort (cs : List Char) : Bool :=
  match cs with
  | [] => true
  | c :: digits => c == ':' && !digits.isEmpty && digits.all Char.isDigit

def isNameChar (c : Char) : Bool := c.isLower || c.isDigit || c == '.' || c == '-'

def isAddressChar (c : Char) : Bool := (Text.hexValue? c).isSome || c == '.' || c == ':'

/-- An address has a colon behind its first group, and more behind that. -/
def isPlain (cs : List Char) : Bool :=
  match cs with
  | '[' :: rest =>
    let (address, behind) := Text.cut ']' rest
    let (group, more) := Text.cut ':' address
    rest.contains ']' && address.contains ':' && group.all Address.isHex && !more.isEmpty &&
      more.all isAddressChar && isPort behind
  | _ =>
    let name := cs.takeWhile isNameChar
    !name.isEmpty && isPort (cs.drop name.length)

/-- The authority as the service learns it. -/
def host (l : Location) : List Char :=
  if isPlain l.withoutDefaultPort then l.withoutDefaultPort else []

/-- The labels of the host have to be in a form that can be shown. -/
def checkHost (l : Location) : Except AuthorityError Unit := do
  Authority.check (← (Authority.ofText l.host).shown)

def serverName (l : Location) : List Char := l.host.takeWhile (· ≠ ':')

/-- Some signs beyond ASCII stand for points, so that a canonical name may still have empty labels. -/
def hasServerName (l : Location) : Bool := (HostName.encode l.serverName).isOk

end Location

end CanonicalLR
