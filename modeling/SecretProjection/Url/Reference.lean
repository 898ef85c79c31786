import SecretProjection.Url.Parser

/-!
# References

A reference is read relative to a base, from which it takes the parts that it leaves out at its
start: the scheme, the authority, the path up to the last segment, the path, the path with the
query.  Only the fragment is never that of the base.

A reference with a scheme stands for itself.  It is relative all the same if the scheme is special
and that of the base, and no authority follows.
-/

namespace SecretProjection

namespace Url

/-! ## Directories -/

/-- An address whose path ends with a slash. -/
def asDirectory (url : Url) : Url :=
  match url.path with
  | .bare text =>
      { url with path := .bare (if text.getLast? = some '/' then text else text ++ ['/']) }
  | .segments parts =>
      { url with path := .segments (if parts.getLast? = some [] then parts else parts ++ [[]]) }

/-! ## Texts without a scheme -/

/-- Whether a text begins with the two slashes in front of an authority. -/
def namesAuthority (special : Bool) : List Char -> Bool
  | a :: b :: _ => isSlash special a && isSlash special b
  | _ => false

/-- The segments of a path that begins with a segment, put in place of the last segment of a
base. -/
def resolveSegments (base : Url) (parts : List (List Char)) (text : List Char) :
    List (List Char) :=
  let path := walk parts.dropLast (splitBy (isSlash (isSpecial base.scheme)) text)
  if base.scheme == "file".toList then filePath path else path

/-- The segments of a path relative to those of a base. -/
def joinSegments (base : Url) (parts : List (List Char)) (text : List Char) : List (List Char) :=
  match text with
  | [] => parts
  | c :: _ =>
      if isSlash (isSpecial base.scheme) c then pathOf base.scheme text
      else resolveSegments base parts text

/-- The address of a text without a scheme, relative to a base. -/
def follow (base : Url) (text : List Char) : Except Fault Url :=
  let special := isSpecial base.scheme
  match base.path with
  | .bare _ =>
      match text with
      | '#' :: _ => .ok { base with fragment := fragmentOf text }
      | _ => .error .relativeToBare
  | .segments parts =>
      if namesAuthority special text then ofScheme base.scheme text
      else
        let path := text.takeWhile fun c => !endsPath c
        let behind := text.dropWhile fun c => !endsPath c
        .ok { base with
          path := .segments (joinSegments base parts path)
          query := if path = [] ∧ behind.head? ≠ some '?' then base.query
            else queryOf special behind
          fragment := fragmentOf behind }

/-! ## References -/

/-- The address of a reference, relative to a base. -/
def join (base : Url) (reference : List Char) : Except Fault Url :=
  let text := clean reference
  match splitScheme text with
  | none => base.follow text
  | some (scheme, rest) =>
      if isSpecial scheme && scheme == base.scheme && !namesAuthority true rest then
        base.follow rest
      else ofScheme scheme rest

end Url

end SecretProjection
