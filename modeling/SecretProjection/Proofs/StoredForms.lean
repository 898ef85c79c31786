import SecretProjection.Projection.Codec
import SecretProjection.Proofs.Records
import SecretProjection.Proofs.WrittenInstants

/-!
# Stored forms

A projection that is written and read back is the same projection with all of its times cut to
whole seconds, and without the sets of fields in its metadata that are null, as these count as
unset; spec and leases are not touched.

Each record is read back if each of its fields is, so that the proofs follow the records from the
fields upwards.  What was cut already is not cut again, so that a status that is written and read
any number of times is itself or its stored form.
-/

namespace SecretProjection

/-!
## Words and instants
-/

theorem Instant.wholeSecond_wholeSecond (t : Instant) :
    t.wholeSecond.wholeSecond = t.wholeSecond := by
  apply Instant.ext
  simp only [Instant.wholeSecond, Instant.seconds]
  omega

theorem Instant.wholeSecond_comp_wholeSecond :
    Instant.wholeSecond ∘ Instant.wholeSecond = Instant.wholeSecond := by
  funext t
  exact t.wholeSecond_wholeSecond

namespace Json

theorem readsBack_instant : ReadsBack ofInstant instant? Instant.wholeSecond := by
  constructor
  · intro t
    exact nofun
  · intro t
    simp only [ofInstant, instant?, Instant.parse_text]

theorem readsBack_signedWord : ReadsBack ofSignedWord signedWord? id := by
  constructor
  · intro n
    exact nofun
  · intro n
    have hlow := n.le_toInt
    have hhigh := n.toInt_lt
    have hrange : -Int.pow 2 63 ≤ n.toInt ∧ n.toInt < Int.pow 2 63 := ⟨hlow, hhigh⟩
    simp only [ofSignedWord, ofInt, signedWord?, int64?, integer?, if_pos hrange, Option.map_some,
      Int64.ofInt_toInt, id]

theorem readsBack_word32 : ReadsBack (fun n : UInt32 => ofNat n.toNat) word32? id := by
  constructor
  · intro n
    exact nofun
  · intro n
    have hbound : n.toNat < Nat.pow 2 32 := n.toNat_lt
    simp only [word32?, natural?_ofNat hbound, Option.map_some, UInt32.ofNat_toNat, id]

theorem readsBack_word64 : ReadsBack (fun n : UInt64 => ofNat n.toNat) word64? id := by
  constructor
  · intro n
    exact nofun
  · intro n
    have hbound : n.toNat < Nat.pow 2 64 := n.toNat_lt
    simp only [word64?, natural?_ofNat hbound, Option.map_some, UInt64.ofNat_toNat, id]

theorem readsBack_texts : ReadsBack (ofTable .string) (tableOf? string?) id := by
  have h := readsBack_string.table
  have hkeep : Table.map (fun _ => id) = (id : Table String -> Table String) := by
    funext table
    apply Table.ext
    simp [Table.map]
  rwa [hkeep] at h

theorem readsBack_strings : ReadsBack Cluster.Metadata.ofStrings (listOf? string?) id :=
  readsBack_string.listOfSame

end Json

namespace Cluster

open Json

/-!
## Metadata
-/

theorem OwnerReference.readsBack :
    ReadsBack OwnerReference.toJson OwnerReference.ofJson? id := by
  constructor
  · intro owner
    exact nofun
  · intro owner
    simp [OwnerReference.toJson, OwnerReference.ofJson?, lenient_eq, optional_eq,
      Entries.find?_ofList, readsBack_string.ofOptional_some, readsBack_bool.ofOptional_map]

namespace ManagedFields

/-- The stored form of an entry. -/
def stored (entry : ManagedFields) : ManagedFields :=
  { entry with
    fields := entry.fields.filter (· ≠ .null)
    time := entry.time.map Instant.wholeSecond }

theorem ofOptional_fields (fields : Option Json) :
    ofOptional some fields = some (fields.filter (· ≠ .null)) := by
  cases fields with
  | none => rfl
  | some value => cases value <;> rfl

theorem readsBack : ReadsBack toJson ofJson? stored := by
  constructor
  · intro entry
    exact nofun
  · intro entry
    simp [toJson, ofJson?, optional_eq, Entries.find?_ofList, readsBack_string.ofOptional_map,
      readsBack_instant.ofOptional_map, ofOptional_fields, stored]

theorem stored_comp_stored : stored ∘ stored = stored := by
  funext entry
  simp only [Function.comp, stored, Option.filter_filter, Option.map_map, Bool.and_self,
    Instant.wholeSecond_comp_wholeSecond]

end ManagedFields

namespace Metadata

/-- The stored form of metadata. -/
def stored (m : Metadata) : Metadata :=
  { m with
    creationTimestamp := m.creationTimestamp.map Instant.wholeSecond
    deletionTimestamp := m.deletionTimestamp.map Instant.wholeSecond
    managedFields := m.managedFields.map fun entries => entries.map ManagedFields.stored }

theorem readsBack : ReadsBack toJson ofJson? stored := by
  constructor
  · intro m
    exact nofun
  · intro m
    -- The many fields are read off one after another, without looking ahead into the later ones.
    simp [toJson, ofJson?, bind_some_eq, optional_eq, Entries.find?_ofList,
      readsBack_string.ofOptional_map, readsBack_instant.ofOptional_map,
      readsBack_signedWord.ofOptional_map, readsBack_texts.ofOptional_map,
      readsBack_strings.ofOptional_map, ManagedFields.readsBack.list.ofOptional_map,
      OwnerReference.readsBack.listOfSame.ofOptional_map, stored, -Option.bind_eq_bind]

theorem stored_stored (m : Metadata) : m.stored.stored = m.stored := by
  have hentries : List.map ManagedFields.stored ∘ List.map ManagedFields.stored =
      List.map ManagedFields.stored := by
    funext entries
    simp only [Function.comp_apply, List.map_map, ManagedFields.stored_comp_stored]
  simp only [stored, Option.map_map, Instant.wholeSecond_comp_wholeSecond, hentries]

end Metadata

/-!
## Conditions
-/

namespace Condition

/-- The stored form of a condition. -/
def stored (c : Condition) : Condition :=
  { c with lastTransitionTime := c.lastTransitionTime.wholeSecond }

theorem readsBack : ReadsBack toJson ofJson? stored := by
  constructor
  · intro c
    exact nofun
  · intro c
    simp [toJson, ofJson?, lenient_eq, optional_eq, Entries.find?_ofList,
      readsBack_instant.ofOptional_some, readsBack_string.ofOptional_some,
      readsBack_signedWord.ofOptional_map, stored]

theorem stored_comp_stored : stored ∘ stored = stored := by
  funext condition
  simp only [Function.comp, stored, Instant.wholeSecond_wholeSecond]

end Condition

end Cluster

namespace Projection

open Json

/-!
## Specs
-/

@[simp] theorem last?_textsMember (key other : String) (table : Table String) :
    Entries.last? key (textsMember other table) =
      if other = key then (if table.isEmpty then none else some (ofTexts table)) else none := by
  unfold textsMember
  cases table.isEmpty <;> simp

theorem ofDefaulted_texts (table : Table String) :
    ofDefaulted texts? .empty (if table.isEmpty then none else some (ofTexts table)) =
      some table := by
  by_cases h : table.isEmpty = true
  · have hempty : table = .empty := by
      apply Table.ext
      exact List.isEmpty_iff.mp h
    rw [if_pos h, hempty]
    rfl
  · rw [if_neg h]
    exact readsBack_texts.read table

theorem readsBack_name : ReadsBack ofName name? id := by
  constructor
  · intro name
    exact nofun
  · intro name
    simp [ofName, name?, required_eq, Entries.find?_ofList, readsBack_string.read]

theorem ServiceLogin.readsBack : ReadsBack ServiceLogin.toJson ServiceLogin.ofJson? id := by
  constructor
  · intro login
    exact nofun
  · intro login
    simp [ServiceLogin.toJson, ServiceLogin.ofJson?, required_eq, defaulted_eq,
      Entries.find?_ofList, readsBack_string.read, readsBack_string.ofDefaulted_some,
      readsBack_name.ofDefaulted_some]

theorem SecretKey.readsBack : ReadsBack SecretKey.toJson SecretKey.ofJson? id := by
  constructor
  · intro key
    exact nofun
  · intro key
    simp [SecretKey.toJson, SecretKey.ofJson?, required_eq, defaulted_eq, Entries.find?_ofList,
      readsBack_string.read, readsBack_string.ofDefaulted_some]

theorem Authentication.readsBack_token :
    ReadsBack Authentication.ofToken Authentication.token? id := by
  constructor
  · intro key
    exact nofun
  · intro key
    simp [Authentication.ofToken, Authentication.token?, required_eq, Entries.find?_ofList,
      SecretKey.readsBack.read]

theorem Authentication.readsBack : ReadsBack Authentication.toJson Authentication.ofJson? id := by
  constructor
  · intro auth
    exact nofun
  · intro auth
    simp [Authentication.toJson, Authentication.ofJson?, optional_eq, Entries.find?_ofList,
      readsBack_string.ofOptional_map, ServiceLogin.readsBack.ofOptional_map,
      Authentication.readsBack_token.ofOptional_map]

theorem Definition.readsBack : ReadsBack Definition.toJson Definition.ofJson? id := by
  constructor
  · intro definition
    exact nofun
  · intro definition
    simp [Definition.toJson, Definition.ofJson?, required_eq, Entries.find?_ofList,
      readsBack_string.read, Authentication.readsBack.read]

theorem OutputSpec.readsBack : ReadsBack OutputSpec.toJson OutputSpec.ofJson? id := by
  constructor
  · intro output
    exact nofun
  · intro output
    have hdata : ofDefaulted texts? .empty (some (ofTexts output.stringData)) =
        some output.stringData := readsBack_texts.read output.stringData
    simp [OutputSpec.toJson, OutputSpec.ofJson?, required_eq, defaulted_eq, Entries.find?_ofList,
      readsBack_string.read, readsBack_string.ofDefaulted_some, hdata, ofDefaulted_texts]

theorem Spec.readsBack : ReadsBack Spec.toJson Spec.ofJson? id := by
  constructor
  · intro spec
    exact nofun
  · intro spec
    simp [Spec.toJson, Spec.ofJson?, required_eq, optional_eq, defaulted_eq,
      Entries.find?_ofList, readsBack_string.ofOptional_map, readsBack_word32.ofDefaulted_some,
      Definition.readsBack.listOfSame.ofDefaulted_some, OutputSpec.readsBack.read]

/-!
## Statuses
-/

theorem Lease.readsBack : ReadsBack Lease.toJson Lease.ofJson? id := by
  constructor
  · intro lease
    exact nofun
  · intro lease
    simp [Lease.toJson, Lease.ofJson?, required_eq, defaulted_eq, Entries.find?_ofList,
      bind_some_eq, readsBack_string.read, readsBack_string.ofDefaulted_some,
      readsBack_word64.ofDefaulted_some, readsBack_bool.ofDefaulted_some, -Option.bind_eq_bind]

namespace Status

/-- The stored form of a status. -/
def stored (status : Status) : Status where
  conditions := status.conditions.map Cluster.Condition.stored
  lastUpdate := status.lastUpdate.map Instant.wholeSecond
  nextUpdate := status.nextUpdate.map Instant.wholeSecond
  leases := status.leases

@[simp] theorem last?_conditionsMember (key : String) (conditions : List Cluster.Condition) :
    Entries.last? key (conditionsMember conditions) =
      if "conditions" = key then
        (if conditions = [] then none
        else some (.array (conditions.map Cluster.Condition.toJson)))
      else none := by
  unfold conditionsMember
  by_cases h : conditions = [] <;> simp [h]

theorem ofDefaulted_conditions (conditions : List Cluster.Condition) :
    ofDefaulted (listOf? Cluster.Condition.ofJson?) []
        (if conditions = [] then none
        else some (.array (conditions.map Cluster.Condition.toJson))) =
      some (conditions.map Cluster.Condition.stored) := by
  by_cases h : conditions = []
  · rw [if_pos h, h]
    rfl
  · rw [if_neg h]
    exact Cluster.Condition.readsBack.list.read conditions

theorem ofOptional_ofInstant? (time : Option Instant) :
    ofOptional instant? (some (ofInstant? time)) = some (time.map Instant.wholeSecond) := by
  cases time with
  | none => rfl
  | some t => exact readsBack_instant.ofOptional_some t

theorem readsBack : ReadsBack toJson ofJson? stored := by
  constructor
  · intro status
    exact nofun
  · intro status
    simp [toJson, ofJson?, optional_eq, defaulted_eq, Entries.find?_ofList,
      ofDefaulted_conditions, readsBack_instant.ofOptional_map, ofOptional_ofInstant?,
      Lease.readsBack.listOfSame.ofDefaulted_some, stored]

/-!
## Statuses that are found later
-/

/-- A status as it is found later: it was kept, or written and read back any number of times. -/
inductive Kept (status : Status) : Status -> Prop where
  | same : Kept status status
  | rewritten {before after : Status} :
      Kept status before -> ofJson? before.toJson = some after -> Kept status after

theorem stored_stored (status : Status) : status.stored.stored = status.stored := by
  simp only [stored, List.map_map, Option.map_map, Cluster.Condition.stored_comp_stored,
    Instant.wholeSecond_comp_wholeSecond]

theorem Kept.eq_or {status found : Status} (h : status.Kept found) :
    found = status ∨ found = status.stored := by
  induction h with
  | same => exact .inl rfl
  | rewritten _ hread ih =>
      rw [readsBack.read] at hread
      cases hread
      rcases ih with rfl | rfl
      · exact .inr rfl
      · exact .inr status.stored_stored

end Status

/-!
## Projections
-/

/-- The stored form of a projection. -/
def stored (unit : Projection) : Projection where
  metadata := unit.metadata.stored
  spec := unit.spec
  status := unit.status.map Status.stored

@[simp] theorem status_stored (unit : Projection) :
    unit.stored.status = unit.status.map Status.stored := rfl

theorem ofJson?_toJson (unit : Projection) : ofJson? unit.toJson = some unit.stored := by
  simp [toJson, ofJson?, required_eq, optional_eq, Entries.find?_ofList,
    Cluster.Metadata.readsBack.read, Spec.readsBack.read, Status.readsBack.ofOptional_map, stored]

theorem stored_stored (unit : Projection) : unit.stored.stored = unit.stored := by
  have hstatus : Status.stored ∘ Status.stored = Status.stored := by
    funext status
    exact status.stored_stored
  simp only [stored, Cluster.Metadata.stored_stored, Option.map_map, hstatus]

@[simp] theorem lastSync_stored (unit : Projection) :
    unit.stored.lastSync = unit.lastSync.map Instant.wholeSecond := by
  simp only [lastSync, status_stored, Option.bind_map, Option.map_bind]
  rfl

@[simp] theorem nextSync_stored (unit : Projection) :
    unit.stored.nextSync = unit.nextSync.map Instant.wholeSecond := by
  simp only [nextSync, status_stored, Option.bind_map, Option.map_bind]
  rfl

@[simp] theorem leases_stored (unit : Projection) : unit.stored.leases = unit.leases := by
  simp only [leases, status_stored, Option.map_map]
  rfl

@[simp] theorem lastCondition_stored (unit : Projection) :
    unit.stored.lastCondition = unit.lastCondition.map Cluster.Condition.stored := by
  simp only [lastCondition, status_stored, Option.bind_map, Option.map_bind]
  congr 1
  funext status
  exact List.getLast?_map

end Projection

end SecretProjection
