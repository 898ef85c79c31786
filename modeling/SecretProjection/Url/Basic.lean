import SecretProjection.Text.Digits
import SecretProjection.Text.Utf8

/-!
# Addresses

A URL taken apart: scheme, authority, path, query and fragment, each as it is written.  A path is
either a list of segments or, for an address that nothing can be relative to, a bare text.
-/

namespace SecretProjection

namespace Url

/-- Where a server is found, and as whom. -/
structure Authority where
  username : List Char
  password : Option (List Char)
  host : List Char
  /-- Unset for the usual port of the scheme. -/
  portNumber : Option Nat
  deriving DecidableEq, Repr

inductive Path where
  /-- Segments, each written behind a slash. -/
  | segments (parts : List (List Char))
  | bare (text : List Char)
  deriving DecidableEq, Repr

end Url

structure Url where
  scheme : List Char
  authority : Option Url.Authority
  path : Url.Path
  query : Option (List Char)
  fragment : Option (List Char)
  deriving DecidableEq, Repr

namespace Url

/-! ## Faults -/

inductive Fault where
  | emptyHost
  | badDomain
  | badPort
  | badIpv4
  | badIpv6
  | badHostCharacter
  | relative
  | relativeToBare
  deriving DecidableEq, Repr

def Fault.message : Fault -> String
  | .emptyHost => "empty host"
  | .badDomain => "invalid international domain name"
  | .badPort => "invalid port number"
  | .badIpv4 => "invalid IPv4 address"
  | .badIpv6 => "invalid IPv6 address"
  | .badHostCharacter => "invalid domain character"
  | .relative => "relative URL without a base"
  | .relativeToBare => "relative URL with a cannot-be-a-base base"

/-! ## Schemes -/

/-- The schemes whose addresses always have a host and a path, with their usual ports. -/
def usualPorts : List (List Char × Option Nat) :=
  [("http".toList, some 80), ("https".toList, some 443), ("ws".toList, some 80),
    ("wss".toList, some 443), ("ftp".toList, some 21), ("file".toList, none)]

def isSpecial (scheme : List Char) : Bool := usualPorts.any fun entry => entry.1 == scheme

def usualPort (scheme : List Char) : Option Nat :=
  (usualPorts.find? fun entry => entry.1 == scheme).bind (·.2)

/-! ## Text -/

/-- The characters of user name and password, with the sign behind them. -/
def Authority.userInfo (authority : Authority) : List Char :=
  match authority.username, authority.password with
  | [], none => []
  | name, none => name ++ ['@']
  | name, some password => name ++ ':' :: (password ++ ['@'])

/-- The characters of a port, with the sign before it. -/
def Authority.portText (authority : Authority) : List Char :=
  match authority.portNumber with
  | none => []
  | some n => ':' :: Nat.toDigits 10 n

def Authority.chars (authority : Authority) : List Char :=
  authority.userInfo ++ authority.host ++ authority.portText

def Path.chars : Path -> List Char
  | .segments parts => parts.flatMap ('/' :: ·)
  | .bare text => text

/-- What stands before the path: the authority, or a dot segment where a path would be taken for
an authority. -/
def authorityChars (authority : Option Authority) (path : Path) : List Char :=
  match authority, path with
  | some authority, _ => '/' :: '/' :: authority.chars
  | none, .segments ([] :: _ :: _) => ['/', '.']
  | none, _ => []

/-- The characters of a part that a sign introduces. -/
def partChars (sign : Char) : Option (List Char) -> List Char
  | none => []
  | some part => sign :: part

def chars (url : Url) : List Char :=
  url.scheme ++ ':' :: (authorityChars url.authority url.path ++ url.path.chars ++
    partChars '?' url.query ++ partChars '#' url.fragment)

def text (url : Url) : String := String.ofList url.chars

def hasHost (url : Url) : Bool :=
  match url.authority with
  | none => false
  | some authority => !authority.host.isEmpty

/-- The address without user name and password. -/
def withoutUser (url : Url) : Url :=
  { url with authority := url.authority.map fun a => { a with username := [], password := none } }

end Url

end SecretProjection
