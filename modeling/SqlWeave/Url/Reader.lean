import SqlWeave.Url.Ipv6
import SqlWeave.Url.Percent

/-!
# Reading URLs

The grammar of browsers: blanks and controls around a URL and line breaks inside it are dropped,
characters are percent-encoded where they have to be, and dots in a path are resolved. A URL of a
web scheme is checked only; what others say after their two slashes is kept.
-/
namespace SqlWeave.Url

inductive UrlError where
  | emptyHost
  | internationalName
  | port
  | ipv4
  | ipv6
  | domainCharacter
  | relative
deriving DecidableEq, Repr

def UrlError.message : UrlError → String
  | .emptyHost => "empty host"
  | .internationalName => "invalid international domain name"
  | .port => "invalid port number"
  | .ipv4 => "invalid IPv4 address"
  | .ipv6 => "invalid IPv6 address"
  | .domainCharacter => "invalid domain character"
  | .relative => "relative URL without a base"

/-- The schemes of the web: their hosts are domains or addresses, their slashes any. -/
inductive WebScheme where
  | network
  | file
deriving DecidableEq, Repr

/-- The sort of a scheme; most are not of the web. -/
def webScheme? (scheme : String) : Option WebScheme :=
  if scheme = "file" then some .file
  else if ["http", "https", "ws", "wss", "ftp"].contains scheme then some .network
  else none

/-! ### Authority -/

/-- The end of an authority. -/
def endsAuthority (web : Bool) (c : Char) : Bool :=
  c = '/' || c = '?' || c = '#' || (web && c = '\\')

/-- The text before the last at sign and the text after it. -/
def cutAtLast : List Char → Option (List Char × List Char)
  | [] => none
  | c :: text =>
    match cutAtLast text with
    | some (before, after) => some (c :: before, after)
    | none => if c = '@' then some ([], text) else none

/-- User name and password, percent-encoded; an empty password is none. -/
structure Userinfo where
  username : List Char
  password : Option (List Char)

def Userinfo.none : Userinfo := ⟨[], .none⟩

def Userinfo.isEmpty (info : Userinfo) : Bool := info.username.isEmpty && info.password.isNone

/-- Splits a user name and a password at the first colon. -/
def Userinfo.ofText (text : List Char) : Userinfo :=
  let username := encode keptInUserinfo (text.takeWhile (· ≠ ':'))
  let password := (text.dropWhile (· ≠ ':')).drop 1
  ⟨username, if password.isEmpty then .none else some (encode keptInUserinfo password)⟩

/-- The user in front of the host, if an at sign says so. -/
def readUserinfo (web : Bool) (text : List Char) : Except UrlError (Userinfo × List Char) :=
  let authority := text.takeWhile fun c => !endsAuthority web c
  match cutAtLast authority with
  | none => .ok (.none, text)
  | some (user, _) =>
    let rest := text.drop (user.length + 1)
    if user.isEmpty ∧ rest.head?.any (endsAuthority web) then .error .emptyHost
    else .ok (.ofText user, rest)

/-- The characters of the host: up to a colon outside brackets or the end of the authority. -/
def hostLength (web inBrackets : Bool) : List Char → Nat
  | [] => 0
  | c :: text =>
    if endsAuthority web c || (c = ':' && !inBrackets) then 0
    else
      let inBrackets := if c = '[' then true else if c = ']' then false else inBrackets
      hostLength web inBrackets text + 1

/-- An address in brackets, as it is written. -/
def readBracketed (host : List Char) : Except UrlError (List Char) :=
  if host.getLast? ≠ some ']' then .error .ipv6
  else match readIpv6? (host.drop 1).dropLast with
    | some groups => .ok ('[' :: ipv6Text groups ++ [']'])
    | none => .error .ipv6

def isForbiddenInHost (c : Char) : Bool :=
  ['\x00', '\t', '\n', '\r', ' ', '#', '/', ':', '<', '>', '?', '@', '[', '\\', ']', '^',
    '|'].contains c

/-- The host of a scheme that is not of the web. -/
def readOpaqueHost (host : List Char) : Except UrlError (List Char) :=
  if host.head? = some '[' then readBracketed host
  else if host.any isForbiddenInHost then .error .domainCharacter
  else .ok (encode keptInHost host)

/-- Is the text a number of an IPv4 address: decimal, octal after a zero, or hexadecimal? -/
def ipv4Number? (text : List Char) : Option Nat :=
  match text with
  | [] => none
  | '0' :: 'x' :: digits => Text.readHex? digits
  | '0' :: 'X' :: digits => Text.readHex? digits
  | '0' :: digits =>
    if digits.all fun c => '0' ≤ c && c ≤ '7' then
      some (digits.foldl (fun n c => 8 * n + Text.digitValue c) 0)
    else none
  | digits => Text.readDecimal? digits

/-- The labels of a domain, an empty one at the end left out. -/
def labels (domain : List Char) : List (List Char) :=
  let parts := splitAt '.' domain
  if 1 < parts.length ∧ parts.getLast? = some [] then parts.dropLast else parts

/-- A domain whose last label is a number stands for an address. -/
def endsInNumber (domain : List Char) : Bool :=
  match (labels domain).getLast? with
  | some last => (!last.isEmpty && last.all Char.isDigit) || (ipv4Number? last).isSome
  | none => false

/-- Are the labels the numbers of an IPv4 address? The last one fills the bytes that are left. -/
def isIpv4 (domain : List Char) : Bool :=
  let parts := labels domain
  match parts.mapM ipv4Number? with
  | none => false
  | some numbers =>
    parts.length ≤ 4 && numbers.dropLast.all (· < 256) &&
      (numbers.getLast?.getD 0) < Nat.pow 256 (5 - parts.length)

/-- Checks the host of a web scheme, which is percent-decoded first. -/
def checkWebHost (host : List Char) : Except UrlError Unit :=
  if host.head? = some '[' then (readBracketed host).map fun _ => ()
  else
    match Text.ofUtf8? (decodedBytes host) with
    | none => .error .internationalName
    | some domain =>
      let domain := domain.toList
      if domain.any fun c => isForbiddenInHost c || c.toNat < 0x20 || c = '\x7f' || c = '%' then
        .error .internationalName
      else if domain.isEmpty then .error .emptyHost
      else if endsInNumber domain && !isIpv4 domain then .error .ipv4
      else .ok ()

/-- The digits of a port; nothing but the end of the authority may follow them. -/
def readPort (text : List Char) : Except UrlError (Option Nat × List Char) :=
  let digits := text.takeWhile Char.isDigit
  let rest := text.dropWhile Char.isDigit
  if 65535 < Text.decimalValue digits then .error .port
  else if rest.head?.any fun c => !endsAuthority true c then .error .port
  else .ok (if digits.isEmpty then none else some (Text.decimalValue digits), rest)

/-- User, host and port; an empty host stands for none. -/
structure Authority where
  userinfo : Userinfo
  host : Option (List Char)
  port : Option Nat

/-- The authority of a URL after its two slashes. -/
def readAuthority (web : Bool) (text : List Char) :
    Except UrlError (Authority × List Char) := do
  let (userinfo, text) ← readUserinfo web text
  let length := hostLength web false text
  let host := text.take length
  let rest := text.drop length
  if host.isEmpty ∧ (web ∨ rest.head? = some ':') then throw .emptyHost
  let host ← if web then (checkWebHost host).map fun _ => host else readOpaqueHost host
  let (port, rest) ← match rest with
    | ':' :: rest => readPort rest
    | _ => .ok (none, rest)
  if host.isEmpty ∧ !userinfo.isEmpty then throw .emptyHost
  return (⟨userinfo, if host.isEmpty then none else some host, port⟩, rest)

/-! ### Path and query -/

def isSingleDot (segment : List Char) : Bool :=
  ["%2e".toList, ['.']].contains (segment.map Char.toLower)

/-- Two dots, each of which may be percent-encoded. -/
def isDoubleDot (segment : List Char) : Bool :=
  ["..".toList, "%2e.".toList, ".%2e".toList, "%2e%2e".toList].contains (segment.map Char.toLower)

/-- A letter and a colon or a bar. -/
def isDrive : List Char → Bool
  | [letter, mark] => letter.isAlpha && (mark = ':' || mark = '|')
  | _ => false

/-- A drive, perhaps with a backslash and more after it: two dots do not leave such a segment. -/
def startsWithDrive (segment : List Char) : Bool :=
  isDrive (segment.take 2) && (segment.drop 2).head?.all (· = '\\')

/-- The segments, last one first, after two dots. -/
def leave : List (List Char) → List (List Char)
  | [] => []
  | segment :: segments => if startsWithDrive segment then segment :: segments else segments

/-- Resolves dots; `done` holds the segments so far, last one first. -/
def resolveDots (done : List (List Char)) : List (List Char) → List (List Char)
  | [] => done.reverse
  | [last] =>
    if isDoubleDot last then (leave done).reverse ++ [[]]
    else if isSingleDot last then done.reverse ++ [[]]
    else done.reverse ++ [last]
  | segment :: segments =>
    if isDoubleDot segment then resolveDots (leave done) segments
    else if isSingleDot segment then resolveDots done segments
    else resolveDots (segment :: done) segments

/-- The path of a text that a slash may start; an empty one stays empty. -/
def pathText (text : List Char) : List Char :=
  if text.isEmpty then []
  else
    let text := if text.head? = some '/' then text.drop 1 else text
    let segments := (splitAt '/' text).map (encode keptInPath)
    '/' :: ['/'].intercalate (resolveDots [] segments)

/-- A name and a value around the first equals sign. -/
def readPair (text : List Char) : String × String :=
  (decodeForm (text.takeWhile (· ≠ '=')), decodeForm ((text.dropWhile (· ≠ '=')).drop 1))

/-- The names and values of a query. -/
def queryPairs (text : List Char) : List (String × String) :=
  ((splitAt '&' text).filter (!·.isEmpty)).map readPair

/-- The query after a path, up to the fragment. -/
def readQuery : List Char → List (String × String)
  | '?' :: text => queryPairs (text.takeWhile (· ≠ '#'))
  | _ => []

/-! ### Whole URLs -/

/-- What a URL says after its two slashes. -/
structure Location where
  authority : Authority
  path : List Char
  query : List (String × String)

end SqlWeave.Url

namespace SqlWeave

structure Url where
  scheme : String
  /-- Nothing if there are no slashes, and for web schemes. -/
  location : Option Url.Location

namespace Url

/-- A character of a scheme after its first letter. -/
def inScheme (c : Char) : Bool := c.isAlphanum || c = '+' || c = '-' || c = '.'

/-- The scheme in lower case, and the text after its colon. -/
def readScheme? (text : List Char) : Option (String × List Char) :=
  if text.head?.any Char.isAlpha then
    match text.dropWhile inScheme with
    | ':' :: rest => some (String.ofList ((text.takeWhile inScheme).map Char.toLower), rest)
    | _ => none
  else none

/-- Drops blanks and controls on both sides, and tabulators and line ends everywhere. -/
def clean (text : List Char) : List Char :=
  let isOuter (c : Char) : Bool := c ≤ ' '
  let trimmed := ((text.dropWhile isOuter).reverse.dropWhile isOuter).reverse
  trimmed.filter fun c => c ≠ '\t' && c ≠ '\n' && c ≠ '\r'

def isSlash (c : Char) : Bool := c = '/' || c = '\\'

/-- The host between two slashes and the path of a file; a drive is none. -/
def checkFile (text : List Char) : Except UrlError Unit :=
  match text with
  | a :: b :: rest =>
    if isSlash a && isSlash b then
      let host := rest.takeWhile fun c => !endsAuthority true c
      if host.isEmpty || isDrive host then .ok () else checkWebHost host
    else .ok ()
  | _ => .ok ()

/-- The authority, path and query after two slashes. -/
def readLocation (text : List Char) : Except UrlError Location := do
  let (authority, rest) ← readAuthority false text
  let isPath (c : Char) : Bool := c ≠ '?' && c ≠ '#'
  return ⟨authority, pathText (rest.takeWhile isPath), readQuery (rest.dropWhile isPath)⟩

def read (text : String) : Except UrlError Url :=
  match readScheme? (clean text.toList) with
  | none => .error .relative
  | some (scheme, rest) =>
    match webScheme? scheme with
    | some .network =>
      (readAuthority true (rest.dropWhile isSlash)).map fun _ => ⟨scheme, none⟩
    | some .file => (checkFile rest).map fun _ => ⟨scheme, none⟩
    | none =>
      match rest with
      | '/' :: '/' :: rest => (readLocation rest).map fun location => ⟨scheme, some location⟩
      | _ => .ok ⟨scheme, none⟩

end Url

end SqlWeave
