import SecretProjection.Proofs.Attempt
import SecretProjection.Proofs.Gathering
import SecretProjection.Proofs.Table

/-!
# Masked payloads

Masking empties the strings of a payload and keeps everything else: keys, nesting, numbers and
the types of all values.  Sources that differ below the mask only are told apart neither by the
time of the reads nor by their faults, and what they lead to differs below the mask only.
-/

namespace SecretProjection

universe u v

/-!
# Values
-/

namespace Json

mutual

def mask : Json -> Json
  | .null => .null
  | .bool value => .bool value
  | .number value => .number value
  | .string _ => .string ""
  | .array items => .array (maskItems items)
  | .object members => .object (maskMembers members)

def maskItems : List Json -> List Json
  | [] => []
  | item :: rest => item.mask :: maskItems rest

def maskMembers : List (String × Json) -> List (String × Json)
  | [] => []
  | (key, value) :: rest => (key, value.mask) :: maskMembers rest

end

theorem maskMembers_eq_map (members : List (String × Json)) :
    maskMembers members = members.map fun entry => (entry.1, entry.2.mask) := by
  induction members with
  | nil => rfl
  | cons head rest ih => simp only [maskMembers, List.map_cons, ih]

theorem find?_maskMembers (key : String) (members : List (String × Json)) :
    Entries.find? key (maskMembers members) = (Entries.find? key members).map mask := by
  rw [maskMembers_eq_map]
  exact Entries.find?_map (fun _ value => value.mask) key members

end Json

def Table.mask (table : Table Json) : Table Json := table.map fun _ value => value.mask

theorem Table.mask_insert (table : Table Json) (key : String) (value : Json) :
    (table.insert key value).mask = table.mask.insert key value.mask :=
  Table.map_insert (fun _ value => Json.mask value) table key value

theorem Table.mask_object (table : Table Json) :
    (Json.object table.entries).mask = .object table.mask.entries := by
  unfold Json.mask
  rw [Json.maskMembers_eq_map]
  rfl

/-!
# Readings
-/

def Reading.mask (reading : Reading) : Reading := { reading with value := reading.value.mask }

theorem Reading.payload_mask (reading : Reading) : reading.mask.payload = reading.payload.mask :=
  (Table.mask_object reading.value).symm

namespace SecretReader

variable {ε : Type u} {σ : Type v} {first second : SecretReader ε σ}

/-- Two readers that differ only in the characters of strings inside payloads. -/
structure Agree (first second : SecretReader ε σ) : Prop where
  authenticate : forall auth space,
    first.authenticate auth space = second.authenticate auth space
  read : forall session path,
    (first.read session path).map Reading.mask = (second.read session path).map Reading.mask

theorem Agree.readDefinition (h : Agree first second) (space : String)
    (definition : Projection.Definition) :
    (first.readDefinition space definition).map Reading.mask =
      (second.readDefinition space definition).map Reading.mask := by
  unfold SecretReader.readDefinition
  rw [Timed.map_mapFault, Timed.map_mapFault, Timed.map_bind, Timed.map_bind, h.authenticate]
  simp only [h.read]

end SecretReader

/-- Two sources that agree so at each position. -/
def SecretSource.Agree {ε : Type u} {σ : Type v} (first second : SecretSource ε σ) : Prop :=
  forall position, (first position).Agree (second position)

/-!
# Aggregates
-/

namespace Aggregate

open Projection

def mask (aggregate : Aggregate) : Aggregate := { aggregate with merged := aggregate.merged.mask }

theorem mask_addAll (aggregate : Aggregate) (pairs : List (Definition × Reading)) :
    (aggregate.addAll pairs).mask =
      aggregate.mask.addAll (pairs.map fun pair => (pair.1, pair.2.mask)) := by
  induction pairs generalizing aggregate with
  | nil => rfl
  | cons pair rest ih =>
      rcases pair with ⟨definition, reading⟩
      simp only [addAll, List.map_cons, ih]
      unfold mask
      rw [Table.mask_insert, Reading.payload_mask]
      rfl

theorem mask_addAll_zip (definitions : List Definition) (readings : List Reading) :
    (empty.addAll (definitions.zip readings)).mask =
      empty.addAll (definitions.zip (readings.map Reading.mask)) := by
  rw [mask_addAll, List.zip_map_right]
  rfl

theorem map_mask_read {ε : Type u} {σ : Type v} {first second : SecretSource ε σ}
    (h : SecretSource.Agree first second) (space : String) (definitions : List Definition) :
    (read first space definitions).map mask = (read second space definitions).map mask := by
  have hall : (Timed.all (first.attempts space definitions)).map (List.map Reading.mask) =
      (Timed.all (second.attempts space definitions)).map (List.map Reading.mask) := by
    rw [Timed.map_all, Timed.map_all, SecretSource.attempts, SecretSource.attempts,
      List.map_map, List.map_map]
    apply congrArg Timed.all
    apply List.map_congr_left
    intro request _
    exact (h request.2).readDefinition space request.1
  unfold read
  cases repeatedName? [] definitions with
  | some name => rfl
  | none =>
      have hmask : mask ∘ (fun readings => empty.addAll (definitions.zip readings)) =
          (fun readings => empty.addAll (definitions.zip readings)) ∘ List.map Reading.mask := by
        funext readings
        exact mask_addAll_zip definitions readings
      simp only [Timed.map_map, hmask]
      rw [← Timed.map_map, ← Timed.map_map, hall]

end Aggregate

namespace Sync

theorem map_mask_gather {ε : Type u} {σ : Type v} {first second : SecretSource ε σ}
    (h : SecretSource.Agree first second) (settings : Settings) (unit : Projection) :
    (gather first settings unit).map Aggregate.mask =
      (gather second settings unit).map Aggregate.mask := by
  unfold gather
  cases Schedule.validate unit.spec with
  | error fault => rfl
  | ok _ =>
      change (Timed.within _ _ _).map _ = (Timed.within _ _ _).map _
      rw [Timed.map_within, Timed.map_within, Aggregate.map_mask_read h]

end Sync

/-!
# Scripts
-/

def ScriptEntry.mask (entry : ScriptEntry) : ScriptEntry :=
  { entry with reading := entry.reading.mask }

/-- Scripts that differ below the mask only. -/
theorem Script.agree_toSource {first second : Script}
    (hidentities : first.identities = second.identities)
    (hpaths : first.paths.map (fun _ entry => entry.mask) =
      second.paths.map (fun _ entry => entry.mask)) :
    SecretSource.Agree first.toSource second.toSource := by
  intro position
  constructor
  · intro auth space
    change first.authenticate auth space = second.authenticate auth space
    unfold Script.authenticate
    rw [hidentities]
  · intro session path
    have hget : (first.paths.get? path).map ScriptEntry.mask =
        (second.paths.get? path).map ScriptEntry.mask := by
      have hentry := congrArg (fun table => table.get? path) hpaths
      simpa using hentry
    change (first.read session path).map _ = (second.read session path).map _
    unfold Script.read
    cases hfirst : first.paths.get? path with
    | none =>
        rw [hfirst] at hget
        rw [Option.map_eq_none_iff.mp hget.symm]
    | some entry =>
        rw [hfirst] at hget
        rcases Option.map_eq_some_iff.mp hget.symm with ⟨other, hsecond, hmask⟩
        injection hmask with hdelay hfault hreading
        simp only [hsecond, hdelay, hfault]
        cases entry.fault with
        | some fault => rfl
        | none =>
            simp only [Timed.map, Timed.event, Except.map, hreading]

end SecretProjection
