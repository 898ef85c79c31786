import SecretProjection.Cluster.Shape
import SecretProjection.Proofs.PlainValues
import SecretProjection.Proofs.StoredForms

/-!
# Texts of cluster objects

The texts of metadata and conditions are read at their shapes and decoded to their stored forms.
Metadata may hold sets of fields, which are values of any kind; they have to be plain.
-/

namespace SecretProjection

namespace Json

namespace Shape

/-!
## Words and instants
-/

theorem head?_print_ofInt (n : Int) : (print (.ofInt n)).head? ≠ some 'n' := by
  rcases print_ofInt_eq_cons n with ⟨c, tail, htext, hopens⟩
  rw [htext, List.head?_cons]
  intro h
  exact hopens.ne (by decide) (by decide) (Option.some.inj h)

theorem readsAs_optionalText (levels : Nat) (text : Option String) (record : Shape) (key : String)
    (hfield : record.optionalAt key = some .string) :
    exists found,
      List.Forall₂ (record.MemberReadsAs levels) (memberOf .string key text)
          (memberOf id key found) ∧
        ofOptional string? found = some text := by
  have h := ReadsBackAt.optionalField (fun t (_ : text = some t) => readsBackAt_string levels t)
    record key hfield
  rwa [Option.map_id'] at h

theorem readsBackAt_bool (levels : Nat) (b : Bool) :
    boolean.ReadsBackAt levels (.bool b) bool? b where
  present := by
    cases b with
    | true =>
        show some 't' ≠ some 'n'
        decide
    | false =>
        show some 'f' ≠ some 'n'
        decide
  read := ⟨_, readsAs_boolean levels b, nofun, rfl⟩

theorem readsBackAt_word32 (levels : Nat) (n : UInt32) :
    (unsigned 32).ReadsBackAt levels (.ofNat n.toNat) word32? n where
  present := head?_print_ofInt n.toNat
  read := ⟨_, readsAs_unsigned levels (by decide) n.toNat_lt, nofun, readsBack_word32.read n⟩

theorem readsBackAt_word64 (levels : Nat) (n : UInt64) :
    (unsigned 64).ReadsBackAt levels (.ofNat n.toNat) word64? n where
  present := head?_print_ofInt n.toNat
  read := ⟨_, readsAs_unsigned levels (by decide) n.toNat_lt, nofun, readsBack_word64.read n⟩

theorem readsBackAt_signedWord (levels : Nat) (n : Int64) :
    signed.ReadsBackAt levels (ofSignedWord n) signedWord? n where
  present := head?_print_ofInt n.toInt
  read := ⟨_, readsAs_signed levels n.le_toInt n.toInt_lt, nofun, readsBack_signedWord.read n⟩

theorem readsBackAt_instant (levels : Nat) (t : Instant) :
    Cluster.instantShape.ReadsBackAt levels (ofInstant t) instant? t.wholeSecond where
  present := by
    show some '"' ≠ some 'n'
    decide
  read := by
    have hcheck : Cluster.checkInstant t.text = .ok () := by
      simp only [Cluster.checkInstant, Instant.parse_text]
    exact ⟨_, readsAs_checked levels _ hcheck, nofun, readsBack_instant.read t⟩

theorem readsBackAt_table (levels : Nat) (texts : Table String) :
    (table string).ReadsBackAt (levels + 1) (ofTable .string texts) (tableOf? string?) texts where
  present := by
    show some '\x7b' ≠ some 'n'
    decide
  read := by
    have hmembers : List.Forall₂ (MemberReadsAs (table string) levels)
        (texts.entries.map fun entry => (entry.1, Json.string entry.2))
        (texts.entries.map fun entry => (entry.1, Json.string entry.2)) := by
      rw [List.forall₂_map_left_iff, List.forall₂_map_right_iff, List.forall₂_same]
      intro entry _
      exact .mk rfl (readsAs_string levels entry.2)
    exact ⟨_, .table hmembers (texts.ordered.map fun _ => Json.string), nofun,
      readsBack_texts.read texts⟩

end Shape

end Json

namespace Cluster

open Json Json.Shape

/-!
## Metadata
-/

variable {levels : Nat}

theorem OwnerReference.readsBackAt (levels : Nat) (owner : OwnerReference) :
    ownerShape.ReadsBackAt (levels + 1) owner.toJson ofJson? owner := by
  rcases (readsBackAt_string levels owner.apiVersion).presentField ownerShape "apiVersion" rfl with
    ⟨_, hversion, hversionDecode⟩
  rcases ReadsBackAt.optionalField (fun b (_ : owner.blockOwnerDeletion = some b) =>
    readsBackAt_bool levels b) ownerShape "blockOwnerDeletion" rfl with ⟨_, hblock, hblockDecode⟩
  rcases ReadsBackAt.optionalField (fun b (_ : owner.controller = some b) =>
    readsBackAt_bool levels b) ownerShape "controller" rfl with
    ⟨_, hcontroller, hcontrollerDecode⟩
  rcases (readsBackAt_string levels owner.kind).presentField ownerShape "kind" rfl with
    ⟨_, hkind, hkindDecode⟩
  rcases (readsBackAt_string levels owner.name).presentField ownerShape "name" rfl with
    ⟨_, hname, hnameDecode⟩
  rcases (readsBackAt_string levels owner.uid).presentField ownerShape "uid" rfl with
    ⟨_, huid, huidDecode⟩
  refine .looseRecord _ (List.rel_append (List.rel_append (List.rel_append
    (.cons hversion .nil) hblock) hcontroller)
    (.cons hkind (.cons hname (.cons huid .nil)))) ?_
  simp [OwnerReference.ofJson?, lenient_eq, optional_eq, Entries.find?_ofList, hversionDecode,
    hblockDecode, hcontrollerDecode, hkindDecode, hnameDecode, huidDecode]

/-- The set of fields of an entry is plain. -/
def ManagedFields.Plain (levels : Nat) (entry : ManagedFields) : Prop :=
  forall value, entry.fields = some value -> value.Plain levels

/-- A set of fields that is null is read as one that is not set. -/
theorem ManagedFields.readsAs_fields {fields : Option Json}
    (h : forall value, fields = some value -> value.Plain levels) :
    exists found,
      List.Forall₂ (managedFieldsShape.MemberReadsAs levels) (memberOf id "fieldsV1" fields)
          (memberOf id "fieldsV1" found) ∧
        ofOptional some found = some (fields.filter (· ≠ .null)) := by
  cases fields with
  | none => exact ⟨none, .nil, rfl⟩
  | some value =>
      have hplain := h value rfl
      refine ⟨some value, .cons (.mk rfl ?_) .nil, ofOptional_fields (some value)⟩
      by_cases hnull : value = .null
      · rw [hnull]
        exact readsAs_null any levels
      · rcases hplain.opens with ⟨c, tail, htext, _, _, hpresent⟩
        have hhead : (print value).head? ≠ some 'n' := by
          rw [htext, List.head?_cons]
          exact fun hc => hpresent hnull (Option.some.inj hc)
        exact hplain.readsAs_any.nullable rfl hhead

theorem ManagedFields.readsBackAt {entry : ManagedFields} (h : entry.Plain levels) :
    managedFieldsShape.ReadsBackAt (levels + 1) entry.toJson ofJson? entry.stored := by
  rcases readsAs_optionalText levels entry.apiVersion managedFieldsShape "apiVersion" rfl with
    ⟨_, hversion, hversionDecode⟩
  rcases readsAs_optionalText levels entry.fieldsType managedFieldsShape "fieldsType" rfl with
    ⟨_, htype, htypeDecode⟩
  rcases readsAs_fields h with ⟨_, hfields, hfieldsDecode⟩
  rcases readsAs_optionalText levels entry.manager managedFieldsShape "manager" rfl with
    ⟨_, hmanager, hmanagerDecode⟩
  rcases readsAs_optionalText levels entry.operation managedFieldsShape "operation" rfl with
    ⟨_, hoperation, hoperationDecode⟩
  rcases readsAs_optionalText levels entry.subresource managedFieldsShape "subresource" rfl with
    ⟨_, hsubresource, hsubresourceDecode⟩
  rcases ReadsBackAt.optionalField (fun t (_ : entry.time = some t) =>
    readsBackAt_instant levels t) managedFieldsShape "time" rfl with ⟨_, htime, htimeDecode⟩
  refine .looseRecord _ (List.rel_append (List.rel_append (List.rel_append (List.rel_append
    (List.rel_append (List.rel_append hversion htype) hfields) hmanager) hoperation)
    hsubresource) htime) ?_
  simp [ManagedFields.ofJson?, optional_eq, Entries.find?_ofList, hversionDecode, htypeDecode,
    hfieldsDecode, hmanagerDecode, hoperationDecode, hsubresourceDecode, htimeDecode, stored]

/-- The sets of fields of all entries are plain. -/
def Metadata.Plain (levels : Nat) (m : Metadata) : Prop :=
  forall entries, m.managedFields = some entries ->
    forall entry, entry ∈ entries -> entry.Plain levels

theorem ManagedFields.Plain.stored {entry : ManagedFields} (h : entry.Plain levels) :
    entry.stored.Plain levels := by
  intro value hvalue
  exact h value (Option.eq_some_of_filter_eq_some hvalue)

theorem Metadata.Plain.stored {m : Metadata} (h : m.Plain levels) : m.stored.Plain levels := by
  intro entries hentries entry hmem
  rcases Option.map_eq_some_iff.mp hentries with ⟨written, hwritten, rfl⟩
  rcases List.mem_map.mp hmem with ⟨one, hone, rfl⟩
  exact (h written hwritten one hone).stored

theorem Metadata.readsBackAt {m : Metadata} (h : m.Plain levels) :
    metadataShape.ReadsBackAt (levels + 3) m.toJson ofJson? m.stored := by
  rcases ReadsBackAt.optionalField (fun table (_ : m.annotations = some table) =>
    readsBackAt_table (levels + 1) table) metadataShape "annotations" rfl with
    ⟨_, hannotations, hannotationsDecode⟩
  rcases ReadsBackAt.optionalField (fun t (_ : m.creationTimestamp = some t) =>
    readsBackAt_instant (levels + 2) t) metadataShape "creationTimestamp" rfl with
    ⟨_, hcreation, hcreationDecode⟩
  rcases ReadsBackAt.optionalField (fun n (_ : m.deletionGracePeriodSeconds = some n) =>
    readsBackAt_signedWord (levels + 2) n) metadataShape "deletionGracePeriodSeconds" rfl with
    ⟨_, hgrace, hgraceDecode⟩
  rcases ReadsBackAt.optionalField (fun t (_ : m.deletionTimestamp = some t) =>
    readsBackAt_instant (levels + 2) t) metadataShape "deletionTimestamp" rfl with
    ⟨_, hdeletion, hdeletionDecode⟩
  rcases ReadsBackAt.optionalField (fun texts (_ : m.finalizers = some texts) =>
    ReadsBackAt.list fun text (_ : text ∈ texts) => readsBackAt_string (levels + 1) text)
    metadataShape "finalizers" rfl with ⟨_, hfinalizers, hfinalizersDecode⟩
  rcases readsAs_optionalText (levels + 2) m.generateName metadataShape "generateName" rfl with
    ⟨_, hstem, hstemDecode⟩
  rcases ReadsBackAt.optionalField (fun n (_ : m.generation = some n) =>
    readsBackAt_signedWord (levels + 2) n) metadataShape "generation" rfl with
    ⟨_, hgeneration, hgenerationDecode⟩
  rcases ReadsBackAt.optionalField (fun table (_ : m.labels = some table) =>
    readsBackAt_table (levels + 1) table) metadataShape "labels" rfl with
    ⟨_, hlabels, hlabelsDecode⟩
  rcases ReadsBackAt.optionalField (fun entries hentries =>
    ReadsBackAt.list fun entry hmem => ManagedFields.readsBackAt (h entries hentries entry hmem))
    metadataShape "managedFields" rfl with ⟨_, hfields, hfieldsDecode⟩
  rcases readsAs_optionalText (levels + 2) m.name metadataShape "name" rfl with
    ⟨_, hname, hnameDecode⟩
  rcases readsAs_optionalText (levels + 2) m.namespaceName metadataShape "namespace" rfl with
    ⟨_, hnamespace, hnamespaceDecode⟩
  rcases ReadsBackAt.optionalField (fun owners (_ : m.ownerReferences = some owners) =>
    ReadsBackAt.list fun owner (_ : owner ∈ owners) => owner.readsBackAt levels)
    metadataShape "ownerReferences" rfl with ⟨_, howners, hownersDecode⟩
  rcases readsAs_optionalText (levels + 2) m.resourceVersion metadataShape "resourceVersion"
    rfl with ⟨_, hversion, hversionDecode⟩
  rcases readsAs_optionalText (levels + 2) m.selfLink metadataShape "selfLink" rfl with
    ⟨_, hlink, hlinkDecode⟩
  rcases readsAs_optionalText (levels + 2) m.uid metadataShape "uid" rfl with ⟨_, huid, huidDecode⟩
  refine .looseRecord _ (List.rel_append (List.rel_append (List.rel_append (List.rel_append
    (List.rel_append (List.rel_append (List.rel_append (List.rel_append (List.rel_append
    (List.rel_append (List.rel_append (List.rel_append (List.rel_append (List.rel_append
    hannotations hcreation) hgrace) hdeletion) hfinalizers) hstem) hgeneration) hlabels) hfields)
    hname) hnamespace) howners) hversion) hlink) huid) ?_
  simp [Metadata.ofJson?, bind_some_eq, optional_eq, Entries.find?_ofList, hannotationsDecode,
    hcreationDecode, hgraceDecode, hdeletionDecode, hfinalizersDecode, hstemDecode,
    hgenerationDecode, hlabelsDecode, hfieldsDecode, hnameDecode, hnamespaceDecode,
    hownersDecode, hversionDecode, hlinkDecode, huidDecode, stored, -Option.bind_eq_bind]

/-!
## Conditions
-/

theorem Condition.readsBackAt (condition : Condition) :
    conditionShape.ReadsBackAt 1 condition.toJson ofJson? condition.stored := by
  rcases (readsBackAt_instant 0 condition.lastTransitionTime).presentField conditionShape
    "lastTransitionTime" rfl with ⟨_, htime, htimeDecode⟩
  rcases (readsBackAt_string 0 condition.message).presentField conditionShape "message" rfl with
    ⟨_, hmessage, hmessageDecode⟩
  rcases ReadsBackAt.optionalField
    (fun generation (_ : condition.observedGeneration = some generation) =>
      readsBackAt_signedWord 0 generation) conditionShape "observedGeneration" rfl with
    ⟨_, hgeneration, hgenerationDecode⟩
  rcases (readsBackAt_string 0 condition.reason).presentField conditionShape "reason" rfl with
    ⟨_, hreason, hreasonDecode⟩
  rcases (readsBackAt_string 0 condition.status).presentField conditionShape "status" rfl with
    ⟨_, hstatus, hstatusDecode⟩
  rcases (readsBackAt_string 0 condition.type).presentField conditionShape "type" rfl with
    ⟨_, htype, htypeDecode⟩
  refine .looseRecord _ (List.rel_append (List.rel_append
    (.cons htime (.cons hmessage .nil)) hgeneration)
    (.cons hreason (.cons hstatus (.cons htype .nil)))) ?_
  simp [Condition.ofJson?, lenient_eq, optional_eq, Entries.find?_ofList, htimeDecode,
    hmessageDecode, hgenerationDecode, hreasonDecode, hstatusDecode, htypeDecode, stored]

end Cluster

end SecretProjection
