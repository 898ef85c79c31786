import SecretProjection.Projection.Basic
import SecretProjection.Url.Reference

/-!
# Endpoints of Vault

All paths of Vault lie under the version of its interface, which lies under the path of the
configured address.
-/

namespace SecretProjection

namespace Vault

open Projection

/-- The version of the interface, as the first segment of all paths. -/
def apiRoot : List Char := ['v', '1', '/']

/-- The address of a path, relative to an address whose path ends with a slash. -/
def endpointFrom (base : Url) (path : String) : Except SpecFault Url :=
  match base.join (apiRoot ++ path.toList.dropWhile (· == '/')) with
  | .ok url => .ok url
  | .error fault => .error (.badPath path fault)

def endpoint (address : Url) (path : String) : Except SpecFault Url :=
  endpointFrom address.asDirectory path

/-- A text without slashes at its ends. -/
def trimSlashes (text : String) : String :=
  String.ofList
    (((text.toList.dropWhile (· == '/')).reverse.dropWhile (· == '/')).reverse)

def loginPath (mount : String) : String := "auth/" ++ trimSlashes mount ++ "/login"

end Vault

end SecretProjection
