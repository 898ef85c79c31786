import SecretProjection.Json.Basic

/-!
# Merge patches

A merge patch (RFC 7386) is a value laid over another one: objects merge member by member, a
null removes a member, and everything else replaces what was there.
-/

namespace SecretProjection

namespace Json

mutual

/-- The target with a patch laid over it. -/
def mergePatch (target : Json) : Json -> Json
  | .object changes =>
      .object (mergeMembers (match target with | .object members => members | _ => []) changes)
  | patch => patch

/-- The members with the members of a patch laid over them one after another. -/
def mergeMembers (members : List (String × Json)) :
    List (String × Json) -> List (String × Json)
  | [] => members
  | (key, .null) :: rest => mergeMembers (Entries.erase key members) rest
  | (key, change) :: rest =>
      let old := (Entries.find? key members).getD .null
      mergeMembers (Entries.insert key (mergePatch old change) members) rest

end

/-- Sets the member that a list of keys leads to, or removes it when the value is null.  Every
key but the last must lead to an object. -/
def setMember? (value : Json) : List String -> Json -> Option Json
  | [], _ => none
  | [key], .object members =>
      match value with
      | .null => some (.object (Entries.erase key members))
      | value => some (.object (Entries.insert key value members))
  | key :: keys, .object members => do
      let inner <- Entries.find? key members
      let changed <- setMember? value keys inner
      return .object (Entries.insert key changed members)
  | _ :: _, _ => none

end Json

end SecretProjection
