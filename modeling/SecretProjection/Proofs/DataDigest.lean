import SecretProjection.Proofs.Attempt
import SecretProjection.Proofs.TextOrder

/-!
# Digests of edited data

What is hashed are the keys and the values of the data, with a zero byte behind each of them.  A
zero byte inside a key or a value looks like one behind it.  The bytes therefore tell the pieces
between zero bytes, in order, but neither where an entry ends nor how many entries there are.

An edit that leaves the annotation alone goes unnoticed exactly when it keeps these pieces.
Without zero bytes in the data the pieces are the keys and values themselves, and every edit is
noticed.
-/

namespace SecretProjection

namespace Output

open Text

/-!
# Pieces between zero bytes
-/

/-- The pieces of all keys and values, cut at their zero bytes. -/
def pieces (data : Table Bytes) : List Bytes :=
  data.entries.flatMap fun entry => (Utf8.encode entry.1).splitOn 0 ++ entry.2.splitOn 0

def FreeOfZero (data : Table Bytes) : Prop :=
  forall entry, entry ∈ data.entries -> 0 ∉ Utf8.encode entry.1 ∧ 0 ∉ entry.2

theorem splitOn_entryBytes_append (entry : String × Bytes) (rest : Bytes) :
    (entryBytes entry ++ rest).splitOn 0 =
      (Utf8.encode entry.1).splitOn 0 ++ entry.2.splitOn 0 ++ rest.splitOn 0 := by
  have hcut : entryBytes entry ++ rest = Utf8.encode entry.1 ++ 0 :: (entry.2 ++ 0 :: rest) := by
    simp [entryBytes]
  rw [hcut, List.splitOn_append_cons_self, List.splitOn_append_cons_self, List.append_assoc]

/-- Behind the last zero byte nothing is left. -/
theorem splitOn_dataBytes (data : Table Bytes) :
    (dataBytes data).splitOn 0 = pieces data ++ [[]] := by
  unfold dataBytes pieces
  induction data.entries with
  | nil => rfl
  | cons entry rest ih =>
      rw [List.flatMap_cons, List.flatMap_cons, splitOn_entryBytes_append, ih]
      exact (List.append_assoc _ _ _).symm

/-- The hashed bytes determine the pieces and are determined by them. -/
theorem dataBytes_eq_iff {first second : Table Bytes} :
    dataBytes first = dataBytes second <-> pieces first = pieces second := by
  constructor
  · intro h
    have hsplit := congrArg (List.splitOn 0) h
    rw [splitOn_dataBytes, splitOn_dataBytes] at hsplit
    exact List.append_cancel_right hsplit
  · intro h
    calc
      dataBytes first = [0].intercalate ((dataBytes first).splitOn 0) :=
        (List.intercalate_splitOn 0).symm
      _ = [0].intercalate ((dataBytes second).splitOn 0) := by
        rw [splitOn_dataBytes, splitOn_dataBytes, h]
      _ = dataBytes second := List.intercalate_splitOn 0

/-!
# Data without zero bytes
-/

theorem pieces_of_freeOfZero {data : Table Bytes} (h : FreeOfZero data) :
    pieces data = data.entries.flatMap fun entry => [Utf8.encode entry.1, entry.2] := by
  unfold pieces
  rw [List.flatMap_def, List.flatMap_def]
  apply congrArg List.flatten
  apply List.map_congr_left
  intro entry hmem
  rcases h entry hmem with ⟨hkey, hvalue⟩
  rw [List.splitOn_eq_singleton hkey, List.splitOn_eq_singleton hvalue]
  rfl

theorem entries_eq_of_flatMap_eq {first second : List (String × Bytes)}
    (h : (first.flatMap fun entry => [Utf8.encode entry.1, entry.2]) =
      second.flatMap fun entry => [Utf8.encode entry.1, entry.2]) : first = second := by
  induction first generalizing second with
  | nil =>
      cases second with
      | nil => rfl
      | cons entry rest => simp at h
  | cons entry rest ih =>
      cases second with
      | nil => simp at h
      | cons other others =>
          rcases entry with ⟨key, value⟩
          rcases other with ⟨otherKey, otherValue⟩
          simp only [List.flatMap_cons, List.cons_append, List.nil_append,
            List.cons.injEq] at h
          rcases h with ⟨hkey, hvalue, hrest⟩
          rw [Utf8.encode_injective hkey, hvalue, ih hrest]

theorem eq_of_pieces_eq {first second : Table Bytes} (hfirst : FreeOfZero first)
    (hsecond : FreeOfZero second) (h : pieces first = pieces second) : first = second := by
  rw [pieces_of_freeOfZero hfirst, pieces_of_freeOfZero hsecond] at h
  exact Table.ext (entries_eq_of_flatMap_eq h)

end Output

/-!
# Edits of the data
-/

namespace Trigger

open Cluster Output

theorem outputDrifted_of_synced {unit : Projection} {time : Instant}
    (h : unit.lastSync = some time) (secret : Secret) :
    outputDrifted unit (some secret) = !hashMatches secret := by
  unfold outputDrifted
  rw [h]

theorem hashMatches_iff {secret : Secret} :
    hashMatches secret = true <->
      (filled secret.metadata.annotations).get? hashAnnotation =
        some (dataHash (filled secret.data)) := by
  unfold hashMatches
  exact beq_iff_eq

/-- An edit that keeps the annotation is noticed exactly when it changes the pieces of the data,
provided that the digest does not collide on the two inputs.  On data without zero bytes these are
all edits. -/
theorem edit_drifts_iff {unit : Projection} {time : Instant} {secret edited : Secret}
    (hsync : unit.lastSync = some time) (hmatches : hashMatches secret = true)
    (hkept : (filled edited.metadata.annotations).get? hashAnnotation =
      (filled secret.metadata.annotations).get? hashAnnotation)
    (hcollision : Digest.sha256 (dataBytes (filled edited.data)) =
        Digest.sha256 (dataBytes (filled secret.data)) ->
      dataBytes (filled edited.data) = dataBytes (filled secret.data)) :
    (outputDrifted unit (some edited) = true <->
        pieces (filled edited.data) ≠ pieces (filled secret.data)) ∧
      (FreeOfZero (filled edited.data) -> FreeOfZero (filled secret.data) ->
        (outputDrifted unit (some edited) = true <->
          filled edited.data ≠ filled secret.data)) := by
  have hunseen : hashMatches edited = true <->
      pieces (filled edited.data) = pieces (filled secret.data) := by
    rw [hashMatches_iff, hkept, hashMatches_iff.mp hmatches, ← dataBytes_eq_iff]
    constructor
    · intro h
      exact hcollision (Option.some.inj h).symm
    · intro h
      unfold dataHash
      rw [h]
  have hdrift : outputDrifted unit (some edited) = true <->
      pieces (filled edited.data) ≠ pieces (filled secret.data) := by
    rw [outputDrifted_of_synced hsync, Bool.not_eq_true', ne_eq, ← hunseen,
      Bool.not_eq_true]
  refine ⟨hdrift, ?_⟩
  intro hedited hsecret
  rw [hdrift]
  constructor
  · intro h heq
    exact h (congrArg pieces heq)
  · intro h heq
    exact h (eq_of_pieces_eq hedited hsecret heq)

namespace Sample

def fields (first second : Bytes) : Table Bytes := .ofList [("a", first), ("b", second)]

/-- The data of one field whose value spells the second field of `fields [120] [121]`. -/
def merged : Table Bytes := .ofList [("a", [120, 0, 98, 0, 121])]

/-- An output with some data and the digest annotation of other data. -/
def output (data hashed : Table Bytes) : Secret where
  data := some data
  immutable := none
  metadata := { Metadata.empty with
    annotations := some (Table.empty.insert hashAnnotation (dataHash hashed)) }
  stringData := none
  type := none

end Sample

theorem edited_field_drifts :
    outputDrifted (Sync.Sample.projection "" (some Sync.Sample.record))
      (some (Sample.output (Sample.fields [120] [122]) (Sample.fields [120] [121]))) = true := by
  have hmatches : hashMatches
      (Sample.output (Sample.fields [120] [121]) (Sample.fields [120] [121])) = true :=
    hashMatches_iff.mpr rfl
  have hdigests : ¬ Digest.sha256 (dataBytes (Sample.fields [120] [122])) =
      Digest.sha256 (dataBytes (Sample.fields [120] [121])) := by
    decide +kernel
  have hpieces : pieces (Sample.fields [120] [122]) ≠ pieces (Sample.fields [120] [121]) := by
    decide +kernel
  have hsync : (Sync.Sample.projection "" (some Sync.Sample.record)).lastSync = some .epoch := rfl
  have hkept :
      (filled (Sample.output (Sample.fields [120] [122])
        (Sample.fields [120] [121])).metadata.annotations).get? hashAnnotation =
      (filled (Sample.output (Sample.fields [120] [121])
        (Sample.fields [120] [121])).metadata.annotations).get? hashAnnotation := rfl
  exact (edit_drifts_iff hsync hmatches hkept fun h => absurd h hdigests).1.mpr hpieces

/-- Joining two fields into one keeps the hashed bytes. -/
theorem merged_fields_unnoticed :
    Sample.merged ≠ Sample.fields [120] [121] ∧
      hashMatches
        (Sample.output (Sample.fields [120] [121]) (Sample.fields [120] [121])) = true ∧
      outputDrifted (Sync.Sample.projection "" (some Sync.Sample.record))
        (some (Sample.output Sample.merged (Sample.fields [120] [121]))) = false := by
  have hbytes : dataBytes (Sample.fields [120] [121]) = dataBytes Sample.merged := by
    decide +kernel
  have hhash : dataHash (Sample.fields [120] [121]) = dataHash Sample.merged :=
    congrArg Digest.sha256 hbytes
  refine ⟨by decide +kernel, hashMatches_iff.mpr rfl, ?_⟩
  have hmatches : hashMatches
      (Sample.output Sample.merged (Sample.fields [120] [121])) = true := by
    apply hashMatches_iff.mpr
    change some (dataHash (Sample.fields [120] [121])) = some (dataHash Sample.merged)
    rw [hhash]
  rw [outputDrifted_of_synced rfl, hmatches]
  rfl

end Trigger

end SecretProjection
