import Mathlib.Data.List.DropRight
import Zuicity.Lib.Form
import Zuicity.Text

/-!
# URLs (the `url` crate)

The links of the program are parsed with `Url::parse`.  This is how it takes a text apart, as the URL
standard says it: scheme, user name and password, host and port, path, query, fragment.  Texts are
followed as bytes; every delimiter is ASCII, and everything else is kept as it is or percent-encoded.

What is left open (`UrlParts`): addresses between brackets, the hosts of special schemes (IDNA, IPv4), how
a path is written, and `file` URLs.  That the crate does as the standard says is a law of `UrlCrate`, one
for each function that the program calls; with these definitions for the functions the laws hold
(`UrlParts.standard`).
-/

namespace Zuicity

open Percent

inductive UrlHost where
  | domain (name : Bytes)
  | ipv4 (a : Ipv4Addr)
  | ipv6 (a : Ipv6Addr)
deriving DecidableEq

structure Url where
  scheme : Bytes
  username : Bytes
  password : Option Bytes
  host : Option UrlHost
  port : Option UInt16
  path : Bytes
  query : Option Bytes
  fragment : Option Bytes
deriving DecidableEq

structure UrlParts where
  ipv6 : Bytes → Option Ipv6Addr
  /-- the text of an IPv6 host: not `Display` of the address, which writes the last two groups of a mapped
  one in decimal -/
  ipv6Text : Ipv6Addr → Bytes
  specialHost : Bytes → Except String UrlHost
  /-- a path as it is written; of a special scheme or not -/
  path : Bool → Bytes → Bytes
  fileUrl : Bytes → Except String Url
  path_nil : path false [] = []

/-! ## sets of bytes -/

def controls (b : UInt8) : Bool := b < 0x20 ∨ 0x7f ≤ b

def fragmentSet (b : UInt8) : Bool := controls b ∨ b ∈ asBytes " \"<>`"

def querySet (b : UInt8) : Bool := controls b ∨ b ∈ asBytes " \"#<>"

def specialQuerySet (b : UInt8) : Bool := querySet b ∨ b = ch '\''

def userinfoSet (b : UInt8) : Bool := controls b ∨ b ∈ asBytes " \"#<>?`\x7b\x7d/:;=@[\\]^|"

/-! ## scheme -/

def isTabOrNewline (b : UInt8) : Bool := b = ch '\t' ∨ b = ch '\n' ∨ b = ch '\r'

def isC0ControlOrSpace (b : UInt8) : Bool := b ≤ ch ' '

def urlInput (text : Bytes) : Bytes :=
  ((text.dropWhile isC0ControlOrSpace).rdropWhile isC0ControlOrSpace).filter fun b => !isTabOrNewline b

def isAlpha (b : UInt8) : Bool := (ch 'a' ≤ b ∧ b ≤ ch 'z') ∨ (ch 'A' ≤ b ∧ b ≤ ch 'Z')

def isSchemeByte (b : UInt8) : Bool := isAlpha b ∨ isDigit b ∨ b ∈ asBytes "+-."

def toLower (b : UInt8) : UInt8 := if ch 'A' ≤ b ∧ b ≤ ch 'Z' then b + 0x20 else b

def parseScheme (input : Bytes) : Option (Bytes × Bytes) :=
  match input.dropWhile isSchemeByte with
  | c :: rest =>
    if c = ch ':' ∧ (input.head?.any isAlpha) then
      some ((input.takeWhile isSchemeByte).map toLower, rest)
    else none
  | [] => none

def isSpecial (scheme : Bytes) : Bool :=
  scheme ∈ ["http", "https", "ws", "wss", "ftp"].map asBytes

def defaultPort (scheme : Bytes) : Option UInt16 :=
  if scheme = asBytes "http" ∨ scheme = asBytes "ws" then some 80
  else if scheme = asBytes "https" ∨ scheme = asBytes "wss" then some 443
  else if scheme = asBytes "ftp" then some 21
  else none

/-! ## authority -/

def isDelimiter (special : Bool) (b : UInt8) : Bool :=
  b = ch '/' ∨ b = ch '?' ∨ b = ch '#' ∨ (special ∧ b = ch '\\')

/-- what is before and behind the last `@` of the authority -/
def splitUserinfo (special : Bool) : Bytes → Option (Bytes × Bytes)
  | [] => none
  | c :: rest =>
    if isDelimiter special c then none
    else match splitUserinfo special rest with
      | some (before, behind) => some (c :: before, behind)
      | none => if c = ch '@' then some ([], rest) else none

/-- user name and password; an empty password is none -/
def splitPassword (userinfo : Bytes) : Bytes × Option Bytes :=
  let username := userinfo.takeWhile (· ≠ ch ':')
  match userinfo.dropWhile (· ≠ ch ':') with
  | [] | [_] => (username, none)
  | _ :: password => (username, some password)

def emptyHost : String := "empty host"

def parseUserinfo (special : Bool) (input : Bytes) : Except String (Bytes × Option Bytes × Bytes) :=
  match splitUserinfo special input with
  | none => .ok ([], none, input)
  | some ([], remaining) =>
    if remaining.head?.any (isDelimiter special) then .error emptyHost else .ok ([], none, remaining)
  | some (userinfo, remaining) =>
    let (username, password) := splitPassword userinfo
    .ok (encode userinfoSet username, password.map (encode userinfoSet), remaining)

/-- the text of the host and what is left; a colon between brackets belongs to the host -/
def hostText (special : Bool) : Bool → Bytes → Bytes × Bytes
  | _, [] => ([], [])
  | insideSquareBrackets, c :: rest =>
    if (c = ch ':' ∧ ¬ insideSquareBrackets) ∨ isDelimiter special c then ([], c :: rest)
    else
      let inside := if c = ch '[' then true else if c = ch ']' then false else insideSquareBrackets
      let (host, remaining) := hostText special inside rest
      (c :: host, remaining)

def isInvalidHostByte (b : UInt8) : Bool := b ∈ asBytes "\x00\t\n\r #/:<>?@[\\]^|"

section
variable (crate : UrlParts)

def bracketedHost (host : Bytes) : Except String UrlHost :=
  if host.getLast? ≠ some (ch ']') then .error "invalid IPv6 address"
  else match crate.ipv6 (host.tail.dropLast) with
    | some a => .ok (.ipv6 a)
    | none => .error "invalid IPv6 address"

def parseOpaqueHost (host : Bytes) : Except String UrlHost :=
  if host.head? = some (ch '[') then bracketedHost crate host
  else if host.any isInvalidHostByte then .error "invalid domain character"
  else .ok (.domain (encode controls host))

def parseSpecialHost (host : Bytes) : Except String UrlHost :=
  if host.isEmpty then .error emptyHost
  else if host.head? = some (ch '[') then bracketedHost crate host
  else crate.specialHost host

def parseHostText (special : Bool) (text : Bytes) : Except String UrlHost :=
  if special then parseSpecialHost crate text else parseOpaqueHost crate text

def parseHost (special : Bool) (input : Bytes) : Except String (UrlHost × Bytes) := do
  let (text, remaining) := hostText special false input
  .ok (← parseHostText crate special text, remaining)

def portDigits : Nat → Bytes → Except String (Nat × Bytes)
  | port, [] => .ok (port, [])
  | port, c :: rest =>
    if isDigit c then
      let port := port * 10 + (c.toNat - (ch '0').toNat)
      if port > u16Max then .error "invalid port number" else portDigits port rest
    else if isDelimiter true c then .ok (port, c :: rest)
    else .error "invalid port number"

section
variable (scheme input : Bytes)

/-- the port, unless it is left out or the default of the scheme, and what is left -/
def parsePort : Except String (Option UInt16 × Bytes) := do
  let (port, remaining) ← portDigits 0 input
  let port := UInt16.ofNat port
  if ¬ input.head?.any isDigit ∨ defaultPort scheme = some port then .ok (none, remaining)
  else .ok (some port, remaining)

def parseHostAndPort : Except String (Option UrlHost × Option UInt16 × Bytes) := do
  let (host, remaining) ← parseHost crate (isSpecial scheme) input
  let host := if host = .domain [] then none else some host
  if remaining.head? = some (ch ':') then
    if host.isNone then .error emptyHost
    else
      let (port, remaining) ← parsePort scheme remaining.tail
      .ok (host, port, remaining)
  else if host.isNone ∧ isSpecial scheme then .error emptyHost
  else .ok (host, none, remaining)

/-! ## path, query, fragment -/

def isQueryOrFragment (b : UInt8) : Bool := b = ch '?' ∨ b = ch '#'

def parseFragment (input : Bytes) : Option Bytes :=
  match input with
  | [] => none
  | _ :: fragment => some (encode fragmentSet fragment)

def parseQueryAndFragment (special : Bool) (input : Bytes) : Option Bytes × Option Bytes :=
  match input with
  | [] => (none, none)
  | c :: rest =>
    if c = ch '?' then
      (some (encode (if special then specialQuerySet else querySet)
        (rest.takeWhile (· ≠ ch '#'))), parseFragment (rest.dropWhile (· ≠ ch '#')))
    else (none, parseFragment (c :: rest))

def pathOf (input : Bytes) : Bytes := input.takeWhile fun b => !isQueryOrFragment b

def behindPath (input : Bytes) : Bytes := input.dropWhile fun b => !isQueryOrFragment b

def afterDoubleSlash : Except String Url := do
  let (username, password, remaining) ← parseUserinfo (isSpecial scheme) input
  let (host, port, remaining) ← parseHostAndPort crate scheme remaining
  if host.isNone ∧ (username ≠ [] ∨ password.isSome) then .error emptyHost
  else
    let (query, fragment) := parseQueryAndFragment (isSpecial scheme) (behindPath remaining)
    .ok ⟨scheme, username, password, host, port, crate.path (isSpecial scheme) (pathOf remaining),
      query, fragment⟩

end

def Url.parse (text : Bytes) : Except String Url :=
  match parseScheme (urlInput text) with
  | none => .error "relative URL without a base"
  | some (scheme, rest) =>
    if scheme = asBytes "file" then crate.fileUrl (urlInput text)
    else if isSpecial scheme then
      afterDoubleSlash crate scheme (rest.dropWhile fun b => b = ch '/' ∨ b = ch '\\')
    else if asBytes "//" <+: rest then afterDoubleSlash crate scheme (rest.drop 2)
    else
      let (query, fragment) := parseQueryAndFragment false (behindPath rest)
      .ok ⟨scheme, [], none, none, none, crate.path false (pathOf rest), query, fragment⟩

end

/-! ## reading and writing -/

def portText : Option UInt16 → Bytes
  | none => []
  | some port => ch ':' :: decimal port.toNat

def UrlHost.str (crate : UrlParts) : UrlHost → Bytes
  | .domain name => name
  | .ipv4 a => ipv4Text a
  | .ipv6 a => [ch '['] ++ crate.ipv6Text a ++ [ch ']']

namespace Url

variable (crate : UrlParts)

variable (url : Url)

def hostStr : Option Bytes := url.host.map (UrlHost.str crate)

def setUsername (username : Bytes) : Except Unit Url :=
  if url.host.isNone ∨ url.scheme = asBytes "file" then .error ()
  else .ok { url with username := encode userinfoSet username }

def setPassword (password : Option Bytes) : Except Unit Url :=
  if url.host.isNone ∨ url.scheme = asBytes "file" then .error ()
  else
    let password := password.getD []
    .ok { url with
      password := if password.isEmpty then none else some (encode userinfoSet password) }

def setQuery (query : Option Bytes) : Url :=
  let set := if isSpecial url.scheme then specialQuerySet else querySet
  { url with query := query.map fun query => encode set (query.filter fun b => !isTabOrNewline b) }

/-- user name and password, up to the `@` -/
def userinfoText : Bytes :=
  match url.username, url.password with
  | [], none => []
  | username, none => username ++ [ch '@']
  | username, some password => username ++ [ch ':'] ++ password ++ [ch '@']

/-- `to_string` -/
def toBytes : Bytes :=
  let authority := (url.hostStr crate).elim [] fun host =>
    asBytes "//" ++ url.userinfoText ++ host ++ portText url.port
  url.scheme ++ [ch ':'] ++ authority ++ url.path ++ (url.query.elim [] fun query => ch '?' :: query)
    ++ (url.fragment.elim [] fun fragment => ch '#' :: fragment)

end Url

/-! ## the crate -/

structure UrlCrate extends UrlParts where
  parse : Bytes → Except String Url
  setUsername : Url → Bytes → Except Unit Url
  setPassword : Url → Option Bytes → Except Unit Url
  setQuery : Url → Option Bytes → Url
  toBytes : Url → Bytes
  queryPairs : Bytes → List (Bytes × Bytes)
  appendPair : Bytes → Bytes → Bytes → Bytes
  parse_eq : parse = Url.parse toUrlParts
  setUsername_eq : setUsername = Url.setUsername
  setPassword_eq : setPassword = Url.setPassword
  setQuery_eq : setQuery = Url.setQuery
  toBytes_eq : toBytes = Url.toBytes toUrlParts
  queryPairs_eq : queryPairs = Form.parse
  appendPair_eq : appendPair = Form.appendPair

instance : Coe UrlCrate UrlParts := ⟨UrlCrate.toUrlParts⟩

def UrlParts.standard (parts : UrlParts) : UrlCrate where
  toUrlParts := parts
  parse := Url.parse parts
  setUsername := Url.setUsername
  setPassword := Url.setPassword
  setQuery := Url.setQuery
  toBytes := Url.toBytes parts
  queryPairs := Form.parse
  appendPair := Form.appendPair
  parse_eq := rfl
  setUsername_eq := rfl
  setPassword_eq := rfl
  setQuery_eq := rfl
  toBytes_eq := rfl
  queryPairs_eq := rfl
  appendPair_eq := rfl

end Zuicity
