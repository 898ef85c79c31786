import SecretProjection.Json.Record
import SecretProjection.Proofs.Table

/-!
# Records read back

A record is written as an object and read by looking its members up.  A look-up among written
members finds what was written last under the key, and a kind of value that is read back by itself
is read back as a field of any record, be it required, optional, or with a default.

Reading back need not give the same value.  `ReadsBack encode decode keep` says that `decode`
gives `keep value` for what `encode` makes of `value`.
-/

namespace SecretProjection

universe u v

namespace Entries

variable {α : Type u}

/-!
## Written members
-/

/-- The value of the last entry with the given key. -/
def last? (key : String) : List (String × α) -> Option α
  | [] => none
  | entry :: rest => (last? key rest).or (if entry.1 = key then some entry.2 else none)

@[simp] theorem last?_nil (key : String) : last? key ([] : List (String × α)) = none := rfl

@[simp] theorem last?_cons (key : String) (entry : String × α) (rest : List (String × α)) :
    last? key (entry :: rest) =
      (last? key rest).or (if entry.1 = key then some entry.2 else none) := rfl

@[simp] theorem last?_append (key : String) (first second : List (String × α)) :
    last? key (first ++ second) = (last? key second).or (last? key first) := by
  induction first with
  | nil => simp
  | cons entry rest ih => simp [ih, Option.or_assoc]

theorem find?_foldl_insert (key : String) (entries done : List (String × α)) :
    find? key (entries.foldl (fun acc entry => insert entry.1 entry.2 acc) done) =
      (last? key entries).or (find? key done) := by
  induction entries generalizing done with
  | nil => simp
  | cons entry rest ih =>
      rw [List.foldl_cons, ih, last?_cons, Option.or_assoc]
      by_cases h : entry.1 = key
      · subst h
        rw [find?_insert_self, if_pos rfl, Option.some_or]
      · rw [find?_insert_of_ne (Ne.symm h), if_neg h, Option.none_or]

/-- Of equal keys the last one is found. -/
theorem find?_ofList (key : String) (entries : List (String × α)) :
    find? key (ofList entries) = last? key entries := by
  unfold ofList
  rw [find?_foldl_insert, find?_nil, Option.or_none]

end Entries

namespace Json

variable {α : Type u}

@[simp] theorem last?_memberOf (encode : α -> Json) (key other : String) (value : Option α) :
    Entries.last? key (memberOf encode other value) =
      if other = key then value.map encode else none := by
  cases value with
  | none => simp [memberOf]
  | some value => simp [memberOf]

@[simp] theorem members?_ofMembers (members : List (String × Json)) :
    (ofMembers members).members? = some (Entries.ofList members) := rfl

@[simp] theorem fields?_ofMembers (names : List String) (leading : Nat)
    (members : List (String × Json)) :
    (ofMembers members).fields? names leading = some (Entries.ofList members) := rfl

/-!
## Fields

What is read of a field depends on what the look-up of its key has given.
-/

def ofOptional (decode : Json -> Option α) : Option Json -> Option (Option α)
  | none => some none
  | some .null => some none
  | some value => (decode value).map some

def ofDefaulted (decode : Json -> Option α) (fallback : α) : Option Json -> Option α
  | none => some fallback
  | some value => decode value

theorem bind_some_eq {β : Type u} (value : α) (next : α -> Option β) :
    (some value >>= next) = next value := by
  simp only [Option.bind_eq_bind, Option.bind_some]

theorem required_eq (decode : Json -> Option α) (key : String) (fields : List (String × Json)) :
    required decode key fields = (Entries.find? key fields).bind decode := rfl

theorem optional_eq (decode : Json -> Option α) (key : String) (fields : List (String × Json)) :
    optional decode key fields = ofOptional decode (Entries.find? key fields) := by
  unfold optional
  cases Entries.find? key fields with
  | none => rfl
  | some value => cases value <;> rfl

theorem defaulted_eq (decode : Json -> Option α) (fallback : α) (key : String)
    (fields : List (String × Json)) :
    defaulted decode fallback key fields =
      ofDefaulted decode fallback (Entries.find? key fields) := by
  unfold defaulted
  cases Entries.find? key fields with
  | none => rfl
  | some value => rfl

theorem lenient_eq (decode : Json -> Option α) (fallback : α) (key : String)
    (fields : List (String × Json)) :
    lenient decode fallback key fields =
      (ofOptional decode (Entries.find? key fields)).map fun value => value.getD fallback := by
  unfold lenient
  rw [optional_eq]

/-- A kind of values that are read back, each as what `keep` makes of it. -/
structure ReadsBack (encode : α -> Json) (decode : Json -> Option α) (keep : α -> α) : Prop where
  present : forall value, encode value ≠ .null
  read : forall value, decode (encode value) = some (keep value)

namespace ReadsBack

variable {encode : α -> Json} {decode : Json -> Option α} {keep : α -> α}

theorem ofOptional_some (h : ReadsBack encode decode keep) (value : α) :
    ofOptional decode (some (encode value)) = some (some (keep value)) := by
  have hread := h.read value
  have hpresent := h.present value
  generalize encode value = written at hread hpresent
  cases written with
  | null => exact absurd rfl hpresent
  | _ => exact congrArg (Option.map some) hread

theorem ofOptional_map (h : ReadsBack encode decode keep) (value : Option α) :
    ofOptional decode (value.map encode) = some (value.map keep) := by
  cases value with
  | none => rfl
  | some value => exact h.ofOptional_some value

theorem ofDefaulted_some (h : ReadsBack encode decode keep) (fallback value : α) :
    ofDefaulted decode fallback (some (encode value)) = some (keep value) :=
  h.read value

end ReadsBack

/-!
## Kinds of values
-/

theorem readsBack_string : ReadsBack .string string? id :=
  ⟨fun _ => nofun, fun _ => rfl⟩

theorem readsBack_bool : ReadsBack .bool bool? id :=
  ⟨fun _ => nofun, fun _ => rfl⟩

theorem natural?_ofNat {n bound : Nat} (h : n < bound) : (ofNat n).natural? bound = some n := by
  have hrange : (0 : Int) ≤ n ∧ (n : Int) < bound := by omega
  simp only [natural?, ofNat, integer?, if_pos hrange, Option.map_some, Int.toNat_natCast]

theorem mapM_map {encode : α -> Json} {decode : Json -> Option α} {keep : α -> α}
    (h : forall value, decode (encode value) = some (keep value)) (values : List α) :
    (values.map encode).mapM decode = some (values.map keep) := by
  induction values with
  | nil => rfl
  | cons value rest ih => simp [List.mapM_cons, h, ih]

theorem ReadsBack.list {encode : α -> Json} {decode : Json -> Option α} {keep : α -> α}
    (h : ReadsBack encode decode keep) :
    ReadsBack (fun values => .array (values.map encode)) (listOf? decode) (List.map keep) := by
  constructor
  · intro values
    exact nofun
  · intro values
    exact mapM_map h.read values

theorem ReadsBack.listOfSame {encode : α -> Json} {decode : Json -> Option α}
    (h : ReadsBack encode decode id) :
    ReadsBack (fun values => .array (values.map encode)) (listOf? decode) id := by
  have hlist := h.list
  rwa [List.map_id_fun] at hlist

theorem mapM_entries {encode : α -> Json} {decode : Json -> Option α} {keep : α -> α}
    (h : forall value, decode (encode value) = some (keep value)) (entries : List (String × α)) :
    ((entries.map fun entry => (entry.1, encode entry.2)).mapM fun entry =>
        (decode entry.2).map fun value => (entry.1, value)) =
      some (entries.map fun entry => (entry.1, keep entry.2)) := by
  induction entries with
  | nil => rfl
  | cons entry rest ih => simp [List.mapM_cons, h, ih]

theorem ReadsBack.table {encode : α -> Json} {decode : Json -> Option α} {keep : α -> α}
    (h : ReadsBack encode decode keep) :
    ReadsBack (ofTable encode) (tableOf? decode) (Table.map fun _ => keep) := by
  constructor
  · intro table
    exact nofun
  · intro table
    have hordered := table.ordered.map fun _ => keep
    simp only [ofTable, tableOf?, mapM_entries h.read, Option.map_some, Option.some.injEq]
    apply Table.ext
    exact Table.entries_ofList_of_ordered hordered

end Json

end SecretProjection
