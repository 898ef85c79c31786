import SecretProjection.Url.Host

/-!
# Reading addresses

An address is read from left to right: scheme, user and password, host, port, path, query and
fragment.  Control characters and spaces at the ends are dropped, tabs and line breaks everywhere.
In addresses with a special scheme a backslash is as good as a slash.
-/

namespace SecretProjection

namespace Url

/-! ## Cleaning -/

def isOuter (c : Char) : Bool := c.toNat ≤ 32

def isBreak (c : Char) : Bool := c == '\t' || c == '\n' || c == '\r'

def clean (text : List Char) : List Char :=
  ((text.dropWhile isOuter).reverse.dropWhile isOuter).reverse.filter fun c => !isBreak c

/-! ## Paths -/

def isSlash (special : Bool) (c : Char) : Bool := c == '/' || (special && c == '\\')

def endsPath (c : Char) : Bool := c == '?' || c == '#'

/-- A segment with the coded dots in plain. -/
def plainDots : List Char -> List Char
  | '%' :: '2' :: 'e' :: rest => '.' :: plainDots rest
  | '%' :: '2' :: 'E' :: rest => '.' :: plainDots rest
  | c :: rest => c :: plainDots rest
  | [] => []

def isSingleDot (segment : List Char) : Bool := plainDots segment == ['.']

def isDoubleDot (segment : List Char) : Bool := plainDots segment == ['.', '.']

/-- Goes down a path segment by segment.  A dot segment at the end leaves an empty one. -/
def walk (path : List (List Char)) : List (List Char) -> List (List Char)
  | [] => path
  | segment :: rest =>
      let closing : List (List Char) := if rest = [] then [[]] else []
      if isDoubleDot segment then walk (path.dropLast ++ closing) rest
      else if isSingleDot segment then walk (path ++ closing) rest
      else walk (path ++ [encode inPath segment]) rest

/-- Files have no empty segments at the start of their path. -/
def filePath (path : List (List Char)) : List (List Char) :=
  match path.dropWhile (· == []) with
  | [] => [[]]
  | kept => kept

/-- The segments of a text that starts with a segment. -/
def segmentsOf (scheme : List Char) (text : List Char) : List (List Char) :=
  let path := walk [] (splitBy (isSlash (isSpecial scheme)) text)
  if scheme == "file".toList then filePath path else path

/-- The segments of the text behind an authority.  Only an address with a special scheme always
has one. -/
def pathOf (scheme : List Char) (text : List Char) : List (List Char) :=
  match text with
  | [] => if isSpecial scheme then [[]] else []
  | c :: rest =>
      if isSlash (isSpecial scheme) c then segmentsOf scheme rest else segmentsOf scheme (c :: rest)

/-! ## Query and fragment -/

/-- The fragment of the text behind a path, if it has one. -/
def fragmentOf (text : List Char) : Option (List Char) :=
  match text.dropWhile (· ≠ '#') with
  | _ :: fragment => some (encode inFragment fragment)
  | [] => none

/-- The query of the text behind a path, if it has one. -/
def queryOf (special : Bool) (text : List Char) : Option (List Char) :=
  match text with
  | '?' :: rest => some (encode (inQuery special) (rest.takeWhile (· ≠ '#')))
  | _ => none

/-! ## Authorities -/

/-- The text before the last at sign and the text behind it. -/
def splitLastAt (text : List Char) : Option (List Char × List Char) :=
  match text with
  | [] => none
  | c :: rest =>
      match splitLastAt rest with
      | some (before, after) => some (c :: before, after)
      | none => if c = '@' then some ([], rest) else none

/-- User name and password of the text before an at sign.  An empty password is none. -/
def userOf (text : List Char) : List Char × Option (List Char) :=
  let name := text.takeWhile (· ≠ ':')
  match text.dropWhile (· ≠ ':') with
  | _ :: c :: rest => (encode inUserInfo name, some (encode inUserInfo (c :: rest)))
  | _ => (encode inUserInfo name, none)

/-- The text of a host and what follows it: a port or nothing.  Colons in brackets belong to the
host. -/
def splitHost (inBrackets : Bool) : List Char -> List Char × List Char
  | [] => ([], [])
  | c :: rest =>
      if c = ':' ∧ inBrackets = false then ([], c :: rest)
      else
        let split := splitHost (if c = '[' then true else if c = ']' then false else inBrackets)
          rest
        (c :: split.1, split.2)

/-- The number of a port, unless it is the usual one of the scheme. -/
def portOf (scheme : List Char) (digits : List Char) : Except Fault (Option Nat) :=
  if digits = [] then .ok none
  else
    match Text.natural? digits with
    | none => .error .badPort
    | some n =>
        if 65535 < n then .error .badPort
        else .ok (if usualPort scheme = some n then none else some n)

/-- The authority of the text between two slashes and the path. -/
def authorityOf (scheme : List Char) (text : List Char) : Except Fault Authority := do
  let (user, hostText) :=
    match splitLastAt text with
    | none => (([], none), text)
    | some (before, after) => (userOf before, after)
  let (name, portText) := splitHost false hostText
  if (splitLastAt text).isSome ∧ hostText = [] then .error .emptyHost
  else if isSpecial scheme ∧ name = [] then .error .emptyHost
  else
    let host <- if isSpecial scheme then specialHost name else otherHost name
    if host = [] ∧ (portText ≠ [] ∨ user ≠ ([], none)) then .error .emptyHost
    else
      let portNumber <- portOf scheme (portText.drop 1)
      return ⟨user.1, user.2, host, portNumber⟩

def fileAuthority (text : List Char) : Except Fault Authority :=
  if text = [] then .ok ⟨[], none, [], none⟩
  else
    match specialHost text with
    | .error fault => .error fault
    | .ok host => .ok ⟨[], none, if host = "localhost".toList then [] else host, none⟩

/-! ## Addresses -/

/-- The scheme at the start of a text and what follows its colon. -/
def splitScheme (text : List Char) : Option (List Char × List Char) :=
  match text with
  | [] => none
  | c :: _ =>
      let isPart (c : Char) : Bool := c.isAlphanum || c == '+' || c == '-' || c == '.'
      if c.isAlpha then
        match text.dropWhile isPart with
        | ':' :: rest => some ((text.takeWhile isPart).map Char.toLower, rest)
        | _ => none
      else none

/-- The address of an authority text and the text behind it. -/
def withAuthority (scheme : List Char) (text : List Char) : Except Fault Url :=
  let special := isSpecial scheme
  let inAuthority (c : Char) : Bool := !(isSlash special c || endsPath c)
  let found :=
    if scheme == "file".toList then fileAuthority (text.takeWhile inAuthority)
    else authorityOf scheme (text.takeWhile inAuthority)
  match found with
  | .error fault => .error fault
  | .ok authority =>
      let rest := text.dropWhile inAuthority
      let behind := rest.dropWhile fun c => !endsPath c
      .ok {
        scheme
        authority := some authority
        path := .segments (pathOf scheme (rest.takeWhile fun c => !endsPath c))
        query := queryOf special behind
        fragment := fragmentOf behind }

/-- The address of a text without authority. -/
def withoutAuthority (scheme : List Char) (text : List Char) : Url :=
  let behind := text.dropWhile fun c => !endsPath c
  let path : Path :=
    match text.takeWhile fun c => !endsPath c with
    | '/' :: rest => .segments (segmentsOf scheme rest)
    | bare => .bare (encode isControl bare)
  { scheme, authority := none, path, query := queryOf false behind, fragment := fragmentOf behind }

/-- The text of a file behind the scheme, from its authority on. -/
def fileText (text : List Char) : List Char :=
  match text with
  | a :: b :: rest => if isSlash true a && isSlash true b then rest else '/' :: a :: b :: rest
  | text => '/' :: text

/-- The address of a text behind the colon of a scheme. -/
def ofScheme (scheme : List Char) (text : List Char) : Except Fault Url :=
  if scheme == "file".toList then withAuthority scheme (fileText text)
  else if isSpecial scheme then withAuthority scheme (text.dropWhile (isSlash true))
  else
    match text with
    | '/' :: '/' :: rest => withAuthority scheme rest
    | rest => .ok (withoutAuthority scheme rest)

def parseChars (text : List Char) : Except Fault Url :=
  match splitScheme (clean text) with
  | none => .error .relative
  | some (scheme, rest) => ofScheme scheme rest

def parse (text : String) : Except Fault Url := parseChars text.toList

end Url

end SecretProjection
