import SecretProjection.Cluster.Server
import SecretProjection.Controller
import SecretProjection.Proofs.Outcomes
import SecretProjection.Proofs.StoredForms

/-!
# Patches of a status

The status of an attempt is recorded as a merge patch, which leaves in place whatever it does not
speak of.  What is found in a patched object is told key by key: a change takes the place of what
was there, a null removes it, and a change that is an object is laid over it in turn.

The written form of a status leaves members out, so that in general a patch with it is no
replacement.  It is one for the statuses of attempts: they always have a condition, and when they
have no time of a success, the status before them has none either.
-/

namespace SecretProjection

universe u v w x y

namespace Json

/-!
## Patched objects
-/

/-- The members of an object; other values have none. -/
def membersOf : Json -> List (String × Json)
  | .object members => members
  | _ => []

theorem mergePatch_object (target : Json) (changes : List (String × Json)) :
    target.mergePatch (.object changes) = .object (mergeMembers target.membersOf changes) := by
  cases target <;> simp [mergePatch, membersOf]

/-- What is found under a key after a change was laid over what was found before. -/
def overlay (old : Option Json) : Option Json -> Option Json
  | none => old
  | some .null => none
  | some change => some ((old.getD .null).mergePatch change)

theorem overlay_of_ne_null {old : Option Json} {change : Json} (h : change ≠ .null) :
    overlay old (some change) = some ((old.getD .null).mergePatch change) := by
  cases change with
  | null => exact absurd rfl h
  | _ => rfl

theorem mergeMembers_cons_null (members rest : List (String × Json)) (key : String) :
    mergeMembers members ((key, .null) :: rest) =
      mergeMembers (Entries.erase key members) rest := by
  rw [mergeMembers]

theorem mergeMembers_cons {change : Json} (h : change ≠ .null)
    (members rest : List (String × Json)) (key : String) :
    mergeMembers members ((key, change) :: rest) =
      mergeMembers
        (Entries.insert key (((Entries.find? key members).getD .null).mergePatch change) members)
        rest := by
  rw [mergeMembers]
  exact h

theorem find?_mergeMembers {changes : List (String × Json)} (h : Entries.Ordered changes)
    (key : String) (members : List (String × Json)) :
    Entries.find? key (mergeMembers members changes) =
      overlay (Entries.find? key members) (Entries.find? key changes) := by
  induction changes generalizing members with
  | nil => rw [mergeMembers]; rfl
  | cons head rest ih =>
      rcases head with ⟨k, change⟩
      rcases List.pairwise_cons.mp h with ⟨hbelow, hrest⟩
      by_cases hkey : k = key
      · subst hkey
        have hnone : Entries.find? k rest = none := Entries.find?_of_forall_lt hbelow
        have hfound : Entries.find? k ((k, change) :: rest) = some change := if_pos rfl
        rw [hfound]
        by_cases hnull : change = .null
        · subst hnull
          rw [mergeMembers_cons_null, ih hrest, hnone, Entries.find?_erase_self]
          rfl
        · rw [mergeMembers_cons hnull, ih hrest, hnone, Entries.find?_insert_self,
            overlay_of_ne_null hnull]
          rfl
      · have hfound : Entries.find? key ((k, change) :: rest) = Entries.find? key rest :=
          if_neg hkey
        rw [hfound]
        by_cases hnull : change = .null
        · subst hnull
          rw [mergeMembers_cons_null, ih hrest, Entries.find?_erase_of_ne (Ne.symm hkey)]
        · rw [mergeMembers_cons hnull, ih hrest, Entries.find?_insert_of_ne (Ne.symm hkey)]

theorem ordered_mergeMembers {members : List (String × Json)} (h : Entries.Ordered members)
    (changes : List (String × Json)) : Entries.Ordered (mergeMembers members changes) := by
  induction changes generalizing members with
  | nil => rwa [mergeMembers]
  | cons head rest ih =>
      rcases head with ⟨key, change⟩
      by_cases hnull : change = .null
      · subst hnull
        rw [mergeMembers_cons_null]
        exact ih (h.erase key)
      · rw [mergeMembers_cons hnull]
        exact ih (h.insert key _)

end Json

namespace Projection

open Json

/-!
## Patched statuses
-/

namespace Status

/-- A patch with a status replaces the status `old`: the status has a condition, and it has a time
of a success if the old one has. -/
structure Replaces (status : Status) (old : Json) : Prop where
  conditions : status.conditions ≠ []
  lastUpdate : status.lastUpdate = none ->
    ofOptional instant? (Entries.find? "lastVaultSecretUpdate" old.membersOf) = some none

theorem toJson_eq_object (status : Status) : status.toJson = .object status.toJson.membersOf := rfl

theorem ordered_toJson (status : Status) : Entries.Ordered status.toJson.membersOf :=
  Entries.ordered_ofList _

theorem mergePatch_toJson (status : Status) (old : Json) :
    old.mergePatch status.toJson =
      .object (mergeMembers old.membersOf status.toJson.membersOf) := by
  rw [toJson_eq_object, mergePatch_object, membersOf]

theorem find?_mergeMembers_toJson (status : Status) (members : List (String × Json))
    (key : String) :
    Entries.find? key (mergeMembers members status.toJson.membersOf) =
      overlay (Entries.find? key members) (Entries.find? key status.toJson.membersOf) :=
  find?_mergeMembers status.ordered_toJson key members

theorem find?_conditions_toJson {status : Status} (h : status.conditions ≠ []) :
    Entries.find? "conditions" status.toJson.membersOf =
      some (.array (status.conditions.map Cluster.Condition.toJson)) := by
  simp [toJson, ofMembers, membersOf, Entries.find?_ofList, h]

theorem find?_lastUpdate_toJson (status : Status) :
    Entries.find? "lastVaultSecretUpdate" status.toJson.membersOf =
      status.lastUpdate.map .ofInstant := by
  simp [toJson, ofMembers, membersOf, Entries.find?_ofList]

theorem find?_nextUpdate_toJson (status : Status) :
    Entries.find? "nextVaultSecretUpdate" status.toJson.membersOf =
      some (ofInstant? status.nextUpdate) := by
  simp [toJson, ofMembers, membersOf, Entries.find?_ofList]

theorem find?_leases_toJson (status : Status) :
    Entries.find? "vaultSecretDefinitionsStatus" status.toJson.membersOf =
      some (.array (status.leases.map Lease.toJson)) := by
  simp [toJson, ofMembers, membersOf, Entries.find?_ofList]

theorem overlay_array (old : Option Json) (items : List Json) :
    overlay old (some (.array items)) = some (.array items) := by
  simp [overlay, mergePatch]

theorem overlay_ofInstant (old : Option Json) (t : Instant) :
    overlay old (some (.ofInstant t)) = some (.ofInstant t) := by
  simp [overlay, mergePatch, ofInstant]

/-- The four fields of a status that is read. -/
theorem ofJson?_object {members : List (String × Json)} {status : Status} :
    ofJson? (.object members) = some status <->
      ofDefaulted (listOf? Cluster.Condition.ofJson?) []
          (Entries.find? "conditions" members) = some status.conditions ∧
        ofOptional instant? (Entries.find? "lastVaultSecretUpdate" members) =
          some status.lastUpdate ∧
        ofOptional instant? (Entries.find? "nextVaultSecretUpdate" members) =
          some status.nextUpdate ∧
        ofDefaulted (listOf? Lease.ofJson?) []
          (Entries.find? "vaultSecretDefinitionsStatus" members) = some status.leases := by
  simp only [ofJson?, fields?, bind_some_eq, defaulted_eq, optional_eq, Option.bind_eq_bind,
    Option.bind_eq_some_iff, Option.pure_def, Option.some.injEq]
  constructor
  · rintro ⟨conditions, hconditions, last, hlast, next, hnext, leases, hleases, rfl⟩
    exact ⟨hconditions, hlast, hnext, hleases⟩
  · rintro ⟨hconditions, hlast, hnext, hleases⟩
    exact ⟨_, hconditions, _, hlast, _, hnext, _, hleases, rfl⟩

theorem ofJson?_mergePatch {status : Status} {old : Json} (h : status.Replaces old) :
    ofJson? (old.mergePatch status.toJson) = some status.stored := by
  rw [mergePatch_toJson, ofJson?_object]
  refine ⟨?_, ?_, ?_, ?_⟩
  · rw [find?_mergeMembers_toJson, find?_conditions_toJson h.conditions, overlay_array]
    exact Cluster.Condition.readsBack.list.read status.conditions
  · rw [find?_mergeMembers_toJson, find?_lastUpdate_toJson]
    cases hlast : status.lastUpdate with
    | none =>
        rw [Option.map_none, overlay, h.lastUpdate hlast, stored, hlast, Option.map_none]
    | some t =>
        rw [Option.map_some, overlay_ofInstant, readsBack_instant.ofOptional_some, stored, hlast,
          Option.map_some]
  · rw [find?_mergeMembers_toJson, find?_nextUpdate_toJson]
    cases hnext : status.nextUpdate with
    | none => rw [ofInstant?, overlay, stored, hnext]; rfl
    | some t =>
        rw [ofInstant?, overlay_ofInstant, readsBack_instant.ofOptional_some, stored, hnext,
          Option.map_some]
  · rw [find?_mergeMembers_toJson, find?_leases_toJson, overlay_array]
    exact Lease.readsBack.listOfSame.read status.leases

/-- Whatever is written of a status, a patch that replaces it leaves the same in its place as if
nothing had been there. -/
theorem overlay_toJson {status old : Status} (h : status.Replaces old.toJson) (key : String) :
    overlay (Entries.find? key old.toJson.membersOf) (Entries.find? key status.toJson.membersOf) =
      overlay none (Entries.find? key status.toJson.membersOf) := by
  by_cases hconditions : key = "conditions"
  · rw [hconditions, find?_conditions_toJson h.conditions, overlay_array, overlay_array]
  by_cases hlast : key = "lastVaultSecretUpdate"
  · rw [hlast, find?_lastUpdate_toJson, find?_lastUpdate_toJson]
    cases hstatus : status.lastUpdate with
    | none =>
        have hold := h.lastUpdate hstatus
        rw [find?_lastUpdate_toJson, readsBack_instant.ofOptional_map] at hold
        rw [Option.map_eq_none_iff.mp (Option.some.inj hold)]
        rfl
    | some t => rw [Option.map_some, overlay_ofInstant, overlay_ofInstant]
  by_cases hnext : key = "nextVaultSecretUpdate"
  · rw [hnext, find?_nextUpdate_toJson status]
    cases status.nextUpdate with
    | none => rfl
    | some t => rw [ofInstant?, overlay_ofInstant, overlay_ofInstant]
  by_cases hleases : key = "vaultSecretDefinitionsStatus"
  · rw [hleases, find?_leases_toJson status, overlay_array, overlay_array]
  · have hold : Entries.find? key old.toJson.membersOf = none := by
      simp [toJson, ofMembers, membersOf, Entries.find?_ofList, Ne.symm hconditions,
        Ne.symm hlast, Ne.symm hnext, Ne.symm hleases]
    rw [hold]

/-- Of a written status, nothing is left by a patch that replaces it. -/
theorem mergePatch_toJson_eq {status old : Status} (h : status.Replaces old.toJson) :
    old.toJson.mergePatch status.toJson = Json.null.mergePatch status.toJson := by
  rw [mergePatch_toJson, mergePatch_toJson]
  apply congrArg Json.object
  apply (ordered_mergeMembers old.ordered_toJson _).eq_of_find?_eq (ordered_mergeMembers .nil _)
  intro key
  rw [find?_mergeMembers_toJson, find?_mergeMembers_toJson, overlay_toJson h]
  rfl

end Status

/-!
## Patched projections
-/

/-- The three fields of a projection that is read. -/
theorem ofJson?_object {members : List (String × Json)} {unit : Projection} :
    ofJson? (.object members) = some unit <->
      (Entries.find? "metadata" members).bind Cluster.Metadata.ofJson? = some unit.metadata ∧
        (Entries.find? "spec" members).bind Spec.ofJson? = some unit.spec ∧
        ofOptional Status.ofJson? (Entries.find? "status" members) = some unit.status := by
  simp only [ofJson?, fields?, bind_some_eq, required_eq, optional_eq, Option.bind_eq_bind,
    Option.bind_eq_some_iff, Option.pure_def, Option.some.injEq]
  constructor
  · rintro ⟨metadata, hmetadata, spec, hspec, status, hstatus, rfl⟩
    exact ⟨hmetadata, hspec, hstatus⟩
  · rintro ⟨hmetadata, hspec, hstatus⟩
    exact ⟨_, hmetadata, _, hspec, _, hstatus, rfl⟩

/-- A status that has no time of a success was read from an object that has none. -/
theorem find?_lastUpdate_of_read {members : List (String × Json)} {unit : Projection}
    (h : ofJson? (.object members) = some unit) (hlast : unit.lastSync = none) :
    ofOptional instant? (Entries.find? "lastVaultSecretUpdate"
      ((Entries.find? "status" members).getD .null).membersOf) = some none := by
  have hstatus := (ofJson?_object.mp h).2.2
  cases hfound : Entries.find? "status" members with
  | none => rfl
  | some value =>
      rw [hfound] at hstatus
      cases value with
      | object old =>
          rcases Option.map_eq_some_iff.mp hstatus with ⟨status, hread, heq⟩
          have hold := (Status.ofJson?_object.mp hread).2.1
          rw [Projection.lastSync, ← heq] at hlast
          rw [Option.getD_some, membersOf, hold]
          exact congrArg some hlast
      | _ => rfl

theorem toJson_eq_object (unit : Projection) : unit.toJson = .object unit.toJson.membersOf := rfl

theorem ordered_toJson (unit : Projection) : Entries.Ordered unit.toJson.membersOf :=
  Entries.ordered_ofList _

theorem find?_status_toJson (unit : Projection) :
    Entries.find? "status" unit.toJson.membersOf = unit.status.map Status.toJson := by
  simp [toJson, ofMembers, membersOf, Entries.find?_ofList]

theorem find?_toJson_of_ne {key : String} (h : key ≠ "status") (unit : Projection)
    (status : Option Status) :
    Entries.find? key { unit with status }.toJson.membersOf =
      Entries.find? key unit.toJson.membersOf := by
  simp [toJson, ofMembers, membersOf, Entries.find?_ofList, Ne.symm h]

end Projection

namespace Sync

open Projection

section Outcomes

variable {ε : Type u} {σ : Type v} {φ : Type w} {τ : Type x}
variable {source : SecretSource ε σ} {store : Output.Store φ τ} {state : τ}
variable {settings : Settings} {unit : Projection} {trigger : Trigger} {now : Instant}

/-- A status that a reconciliation returns has one condition, and a time of a success if there was
one before. -/
theorem status_reconcile {status : Status}
    (h : (reconcile source store state settings unit trigger now).status = some status) :
    status.conditions ≠ [] ∧ (status.lastUpdate = none -> unit.lastSync = none) := by
  have hreport : Reports source settings unit now
      (reconcile source store state settings unit trigger now).state
      (reconcile source store state settings unit trigger now).status
      (reconcile source store state settings unit trigger now).requeue := reports_reconcile
  rw [h] at hreport
  generalize (reconcile source store state settings unit trigger now).state = reached,
    (reconcile source store state settings unit trigger now).requeue = requeue at hreport
  cases hreport with
  | failed fault =>
      have hrecord := recordsFailure_failureStatus unit fault now
      refine ⟨?_, ?_⟩
      · rw [hrecord.conditions]
        exact nofun
      · rw [hrecord.lastUpdate]
        exact id
  | synced written hvalid hgrants hinterval => exact ⟨nofun, nofun⟩

end Outcomes

end Sync

namespace Cluster

theorem Call.of?_of_mem_sendNamed {ρ : Type u} {α : Type v} {api : Api ρ} {place : ρ}
    {method : Method} {collection name rest : String} {body : Option Json} {format : Format α}
    {request : Request}
    (h : request ∈ (sendNamed api place method collection name rest body format).requests) :
    Request.of? method (collection ++ "/" ++ name ++ rest) body = some request := by
  unfold sendNamed at h
  by_cases hname : name = ""
  · rw [if_pos hname] at h
    cases h
  rw [if_neg hname] at h
  unfold sendTo at h
  cases hbuilt : Request.of? method (collection ++ "/" ++ name ++ rest) body with
  | none =>
      rw [hbuilt] at h
      cases h
  | some built =>
      rw [hbuilt] at h
      exact congrArg some (List.mem_singleton.mp h).symm

end Cluster

namespace Controller

open Cluster Json Projection

/-!
## Recorded statuses
-/

theorem mergePatch_statusPatch (members : List (String × Json)) (status : Projection.Status) :
    (Json.object members).mergePatch (statusPatch status) =
      .object (Entries.insert "status"
        (((Entries.find? "status" members).getD .null).mergePatch status.toJson) members) := by
  have hchanges : statusPatch status = .object [("status", status.toJson)] := rfl
  have hpresent : status.toJson ≠ .null := nofun
  rw [hchanges, mergePatch_object, mergeMembers_cons hpresent, mergeMembers, membersOf]

/-- A patch with a status that replaces the status of an object. -/
theorem ofJson?_statusPatch {members : List (String × Json)} {live : Projection}
    {status : Projection.Status} (hread : Projection.ofJson? (.object members) = some live)
    (hreplaces : status.Replaces ((Entries.find? "status" members).getD .null)) :
    Projection.ofJson? ((Json.object members).mergePatch (statusPatch status)) =
      some { live with status := some status.stored } := by
  rcases Projection.ofJson?_object.mp hread with ⟨hmetadata, hspec, _⟩
  rw [mergePatch_statusPatch, Projection.ofJson?_object, Entries.find?_insert_of_ne (by decide),
    Entries.find?_insert_of_ne (by decide), Entries.find?_insert_self]
  refine ⟨hmetadata, hspec, ?_⟩
  have hstatus := Status.ofJson?_mergePatch hreplaces
  generalize ((Entries.find? "status" members).getD .null).mergePatch status.toJson = patched
    at hstatus
  cases patched with
  | null => cases hstatus
  | _ => exact congrArg (Option.map some) hstatus

theorem member?_statusPatch {key : String} (h : key ≠ "status") (members : List (String × Json))
    (status : Projection.Status) :
    ((Json.object members).mergePatch (statusPatch status)).member? key =
      (Json.object members).member? key := by
  rw [mergePatch_statusPatch]
  exact Entries.find?_insert_of_ne h _ _

/-- The patched object of a projection does not depend on the status that is replaced. -/
theorem mergePatch_statusPatch_toJson {live : Projection} {status : Projection.Status}
    (h : forall old, live.status = some old -> status.Replaces old.toJson) :
    live.toJson.mergePatch (statusPatch status) =
      { live with status := none }.toJson.mergePatch (statusPatch status) := by
  have hvalue : ((Entries.find? "status" live.toJson.membersOf).getD .null).mergePatch
      status.toJson = Json.null.mergePatch status.toJson := by
    rw [find?_status_toJson]
    cases hold : live.status with
    | none => rfl
    | some old => exact Status.mergePatch_toJson_eq (h old hold)
  rw [live.toJson_eq_object, toJson_eq_object { live with status := none },
    mergePatch_statusPatch, mergePatch_statusPatch, hvalue, find?_status_toJson]
  apply congrArg Json.object
  apply (live.ordered_toJson.insert _ _).eq_of_find?_eq ((ordered_toJson _).insert _ _)
  intro key
  by_cases hkey : key = "status"
  · rw [hkey, Entries.find?_insert_self, Entries.find?_insert_self]
    rfl
  · rw [Entries.find?_insert_of_ne hkey, Entries.find?_insert_of_ne hkey]
    exact (find?_toJson_of_ne hkey live none).symm

/-- The request that records a status. -/
theorem of_mem_recordStatus {ρ : Type u} {api : Api ρ} {place : ρ} {live : Projection}
    {status : Projection.Status} {request : Request}
    (h : request ∈ (recordStatus api place live status).requests) :
    exists path, unitsPath live = .ok path ∧
      Request.of? .patch (path ++ "/" ++ live.metadata.displayName ++ "/status")
        (some (statusPatch status)) = some request := by
  unfold recordStatus at h
  cases hpath : unitsPath live with
  | error fault =>
      rw [hpath] at h
      cases h
  | ok path =>
      rw [hpath] at h
      exact ⟨path, rfl, Call.of?_of_mem_sendNamed h⟩

section Recording

variable {ε : Type u} {σ : Type v} {φ : Type w} {τ : Type x} {ρ : Type y}
variable {source : SecretSource ε σ} {store : Output.Store φ τ} {state : τ}
variable {settings : Sync.Settings} {live : Projection} {trigger : Trigger} {now : Instant}
variable {status : Projection.Status}

/-- The status of an attempt is sent as a merge patch that acts as a replacement.  The patched
object is read as the projection with exactly that status, cut to whole seconds, and its other
members stay; of a written projection, the patch leaves nothing of the status from before. -/
theorem recorded_status_replaces (api : Api ρ) (place : ρ)
    (h : (Sync.reconcile source store state settings live trigger now).status = some status) :
    (forall members, Projection.ofJson? (.object members) = some live ->
      Projection.ofJson? ((Json.object members).mergePatch (statusPatch status)) =
          some { live with status := some status.stored } ∧
        forall key, key ≠ "status" ->
          ((Json.object members).mergePatch (statusPatch status)).member? key =
            (Json.object members).member? key) ∧
      live.toJson.mergePatch (statusPatch status) =
        { live with status := none }.toJson.mergePatch (statusPatch status) ∧
      forall request, request ∈ (recordStatus api place live status).requests ->
        exists path, unitsPath live = .ok path ∧
          Request.of? .patch (path ++ "/" ++ live.metadata.displayName ++ "/status")
            (some (statusPatch status)) = some request := by
  rcases Sync.status_reconcile h with ⟨hconditions, hlast⟩
  refine ⟨?_, ?_, ?_⟩
  · intro members hread
    have hreplaces : status.Replaces ((Entries.find? "status" members).getD .null) :=
      ⟨hconditions, fun hnone => find?_lastUpdate_of_read hread (hlast hnone)⟩
    exact ⟨ofJson?_statusPatch hread hreplaces,
      fun key hkey => member?_statusPatch hkey members status⟩
  · apply mergePatch_statusPatch_toJson
    intro old hold
    refine ⟨hconditions, ?_⟩
    intro hnone
    have hunset := hlast hnone
    rw [lastSync, hold, Option.bind_some] at hunset
    rw [Status.find?_lastUpdate_toJson, hunset]
    rfl
  · intro request hmem
    exact of_mem_recordStatus hmem

end Recording

/-!
## An outdated status

The status tells of a failure, of a time planned next, and of a definition that is gone.  The next
success has none of these.
-/

namespace Sample

def outdated : Projection :=
  Sync.Sample.projection "{{ .db.password }}" (some {
    conditions := [⟨.epoch, "refused", none, "OutputWriteFailed", "False", Trigger.failureType⟩]
    lastUpdate := some .epoch
    nextUpdate := some .epoch
    leases := [⟨"gone", "lease-1", 100, true⟩] })

def renewalTime : Instant := ⟨3750000000, by decide, by decide⟩

def renewed : Projection.Status where
  conditions := [Sync.successCondition outdated renewalTime]
  lastUpdate := some renewalTime
  nextUpdate := none
  leases := [⟨"db", "", 0, false⟩]

def emptyServer : Server := ⟨.empty, .empty, 0, .zero⟩

theorem status_renewal :
    (Sync.reconcile (Sync.Sample.script "p").toSource Output.Memory.toStore .empty
      Sync.Sample.settings outdated (.forced .specChanged) renewalTime).status = some renewed := by
  decide +kernel

theorem ofJson?_outdated :
    Projection.ofJson? (.object outdated.toJson.membersOf) = some outdated := by
  have hstored : outdated.stored = outdated := by decide +kernel
  rw [← outdated.toJson_eq_object, Projection.ofJson?_toJson, hstored]

theorem requests_renewal :
    exists request,
      (recordStatus Server.api emptyServer outdated renewed).requests = [request] := by
  have hlength :
      (recordStatus Server.api emptyServer outdated renewed).requests.length = 1 := by
    decide +kernel
  exact List.length_eq_one_iff.mp hlength

end Sample

theorem renewal_replaces_outdated_status :
    Projection.ofJson? (Sample.outdated.toJson.mergePatch (statusPatch Sample.renewed)) =
        some { Sample.outdated with status := some Sample.renewed.stored } ∧
      Sample.outdated.toJson.mergePatch (statusPatch Sample.renewed) =
        { Sample.outdated with status := none }.toJson.mergePatch (statusPatch Sample.renewed) ∧
      exists request,
        (recordStatus Server.api Sample.emptyServer Sample.outdated Sample.renewed).requests =
            [request] ∧
          Request.of? .patch
              "/apis/redhatcop.redhat.io/v1alpha1/namespaces/team-a/vaultsecrets/app/status"
              (some (statusPatch Sample.renewed)) =
            some request := by
  rcases recorded_status_replaces Server.api Sample.emptyServer Sample.status_renewal with
    ⟨hpatched, hreplaced, hrequests⟩
  rcases Sample.requests_renewal with ⟨request, hsent⟩
  have hread := (hpatched _ Sample.ofJson?_outdated).1
  rw [← Sample.outdated.toJson_eq_object] at hread
  refine ⟨hread, hreplaced, request, hsent, ?_⟩
  rw [hsent] at hrequests
  rcases hrequests request (List.mem_singleton_self request) with ⟨path, hpath, hbuilt⟩
  cases hpath
  exact hbuilt

end Controller

end SecretProjection
