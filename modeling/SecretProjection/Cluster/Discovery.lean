import SecretProjection.Cluster.ApiVersion
import SecretProjection.Cluster.Client
import SecretProjection.Cluster.Shape

/-!
# Discovery

The cluster tells which groups of interfaces it serves, in which versions, and which kinds of
objects each version has.  Of a group, its preferred version is the one that counts; where the
cluster prefers none, it is the best one.
-/

namespace SecretProjection

universe u

namespace Cluster

open Json (Shape)

/-! ## Groups -/

structure Resource where
  /-- The name of the collection; that of a part of an object has a slash in it. -/
  name : String
  kind : String
  version : String
  deriving DecidableEq, Repr

structure ServedVersion where
  name : String
  resources : List Resource
  deriving DecidableEq, Repr

structure ApiGroup where
  name : String
  preferred : Option String
  /-- The versions, the best one first. -/
  versions : List ServedVersion
  deriving DecidableEq, Repr

namespace ApiGroup

/-- The version of a group that counts. -/
def chosen (group : ApiGroup) : Option String :=
  group.preferred.or (group.versions.head?.map (·.name))

/-- The kinds of the version that counts. -/
def recommended (group : ApiGroup) : List Resource :=
  match group.chosen with
  | none => []
  | some version =>
      ((group.versions.find? fun served => served.name == version).map (·.resources)).getD []

/-- The versions with the best one first. -/
def sorted (versions : List ServedVersion) : List ServedVersion :=
  versions.mergeSort fun a b => (ApiVersion.ofName a.name).precedes (ApiVersion.ofName b.name)

end ApiGroup

/-! ## Written forms -/

structure ListedVersion where
  groupVersion : String
  version : String
  deriving DecidableEq, Repr

structure ListedGroup where
  name : String
  preferred : Option ListedVersion
  versions : List ListedVersion
  deriving DecidableEq, Repr

def ListedVersion.ofJson? (value : Json) : Option ListedVersion := do
  let members <- value.members?
  let groupVersion <- Json.lenient Json.string? "" "groupVersion" members
  let version <- Json.lenient Json.string? "" "version" members
  return { groupVersion, version }

def ListedGroup.ofJson? (value : Json) : Option ListedGroup := do
  let members <- value.members?
  let name <- Json.lenient Json.string? "" "name" members
  let preferred <- Json.optional ListedVersion.ofJson? "preferredVersion" members
  let versions <- Json.lenient (Json.listOf? ListedVersion.ofJson?) [] "versions" members
  return { name, preferred, versions }

def listedVersionShape : Shape :=
  record "GroupVersionForDiscovery" [("groupVersion", .string), ("version", .string)]

/-- The fields that every listed type of the core interface has, and more. -/
def coreShape (kind : String) (fields : List (String × Shape)) : Shape :=
  .loose kind ([("apiVersion", .exactly "v1"), ("kind", .exactly kind)] ++
    fields.map fun field => (field.1, .nullable field.2))

def listedGroupShape : Shape :=
  coreShape "APIGroup" [("name", .string), ("preferredVersion", listedVersionShape),
    ("serverAddressByClientCIDRs", .list
      (record "ServerAddressByClientCIDR" [("clientCIDR", .string), ("serverAddress", .string)])),
    ("versions", .list listedVersionShape)]

def groupsFormat : Format (List ListedGroup) where
  shape := coreShape "APIGroupList" [("groups", .list listedGroupShape)]
  ofJson? value := do
    let members <- value.members?
    Json.lenient (Json.listOf? ListedGroup.ofJson?) [] "groups" members

def versionOf (groupVersion : String) : String :=
  let (group, rest) := groupVersion.toList.span (· != '/')
  String.ofList (if rest.isEmpty then group else rest.drop 1)

/-- The kind of a written form, in a list for a group and version. -/
def Resource.ofJson? (groupVersion : String) (value : Json) : Option Resource := do
  let members <- value.members?
  let name <- Json.lenient Json.string? "" "name" members
  let kind <- Json.lenient Json.string? "" "kind" members
  let version <- Json.optional Json.string? "version" members
  return { name, kind, version := version.getD (versionOf groupVersion) }

def Resource.isWhole (resource : Resource) : Bool := !resource.name.toList.contains '/'

def resourceShape : Shape :=
  record "APIResource" [("categories", .list .string), ("group", .string), ("kind", .string),
    ("name", .string), ("namespaced", .boolean), ("shortNames", .list .string),
    ("singularName", .string), ("storageVersionHash", .string), ("verbs", .list .string),
    ("version", .string)]

def resourcesFormat : Format (List Resource) where
  shape :=
    coreShape "APIResourceList" [("groupVersion", .string), ("resources", .list resourceShape)]
  ofJson? value := do
    let members <- value.members?
    let groupVersion <- Json.lenient Json.string? "" "groupVersion" members
    let resources <-
      Json.lenient (Json.listOf? (Resource.ofJson? groupVersion)) [] "resources" members
    return resources.filter Resource.isWhole

/-! ## Asking -/

/-- What a row of calls leaves behind; it ends with the first one that fails. -/
structure Inquiry (σ : Type u) (α : Type) where
  requests : List Request
  elapsed : Duration
  state : σ
  /-- Nothing where a call has failed. -/
  found : Option α

variable {σ : Type u}

def groupsPath : String := "/apis"

def inquire {α : Type} (api : Api σ) (state : σ) (target : String) (format : Format α) :
    Inquiry σ α :=
  let call : Call σ α := .sendTo api state .get target none format
  ⟨call.requests, call.elapsed, call.state, call.result.toOption⟩

def Inquiry.andThen {α β : Type} (first : Inquiry σ α) (next : σ -> α -> Inquiry σ β) :
    Inquiry σ β :=
  match first.found with
  | none => ⟨first.requests, first.elapsed, first.state, none⟩
  | some value =>
      let second := next first.state value
      ⟨first.requests ++ second.requests, first.elapsed + second.elapsed, second.state,
        second.found⟩

def Inquiry.done {α : Type} (state : σ) (value : α) : Inquiry σ α := ⟨[], .zero, state, some value⟩

/-- Asks for the kinds of versions, one version after another. -/
def inquireVersions (api : Api σ) (state : σ) :
    List ListedVersion -> Inquiry σ (List ServedVersion)
  | [] => .done state []
  | listed :: rest =>
      (inquire api state (groupsPath ++ "/" ++ listed.groupVersion) resourcesFormat).andThen
        fun state resources =>
          (inquireVersions api state rest).andThen fun state served =>
            .done state (⟨listed.version, resources⟩ :: served)

/-- Asks for a group.  One without versions is no answer. -/
def inquireGroup (api : Api σ) (state : σ) (listed : ListedGroup) : Inquiry σ ApiGroup :=
  if listed.versions = [] then ⟨[], .zero, state, none⟩
  else
    (inquireVersions api state listed.versions).andThen fun state versions =>
      .done state ⟨listed.name, listed.preferred.map (·.version), ApiGroup.sorted versions⟩

/-- Asks for the groups of a name, one after another. -/
def inquireGroups (api : Api σ) (name : String) (state : σ) :
    List ListedGroup -> Inquiry σ (List ApiGroup)
  | [] => .done state []
  | listed :: rest =>
      if listed.name = name then
        (inquireGroup api state listed).andThen fun state group =>
          (inquireGroups api name state rest).andThen fun state groups =>
            .done state (group :: groups)
      else inquireGroups api name state rest

/-- Asks which group of a name is served; the last one listed counts. -/
def discover (api : Api σ) (name : String) (state : σ) : Inquiry σ (Option ApiGroup) :=
  (inquire api state groupsPath groupsFormat).andThen fun state listed =>
    (inquireGroups api name state listed).andThen fun state groups =>
      .done state groups.getLast?

end Cluster

end SecretProjection
