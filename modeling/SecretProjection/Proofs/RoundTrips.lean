import SecretProjection.Controller
import SecretProjection.Proofs.MetadataTexts

/-!
# Round trips

The text of a spec or a status is read at its shape and decoded to what was written, for a status
with its times cut to whole seconds.  What a record leaves out because it is empty is what the
shape fills in for it.  A whole projection is read back in its stored form: from its value in any
case, and from its text if the sets of fields in its metadata are plain.  These are values of any
kind, which may be null, nest deeper than a text can be read, or hold a number that a reader rounds
otherwise.

Each record is read back if its fields are, and is one level above the deepest of them.
-/

namespace SecretProjection

open Json Json.Shape

namespace Projection

/-!
## Specs
-/

theorem readsBackAt_texts (levels : Nat) (texts : Table String) :
    (Shape.table .string).ReadsBackAt (levels + 1) (ofTexts texts) texts? texts :=
  readsBackAt_table levels texts

theorem readsBackAt_name (name : String) :
    accountShape.ReadsBackAt 1 (ofName name) name? name := by
  rcases (readsBackAt_string 0 name).field accountShape "name" rfl with ⟨_, hname, hdecode⟩
  refine .strictRecord _ (.cons hname .nil) (by simp) ?_
  simp [name?, filled, required_eq, Entries.find?_ofList, hdecode]

theorem ServiceLogin.readsBackAt (login : ServiceLogin) :
    loginShape.ReadsBackAt 2 login.toJson ofJson? login := by
  rcases (readsBackAt_string 1 login.path).field loginShape "path" rfl with
    ⟨_, hpath, hpathDecode⟩
  rcases (readsBackAt_string 1 login.role).field loginShape "role" rfl with
    ⟨_, hrole, hroleDecode⟩
  rcases (readsBackAt_name login.serviceAccount).field loginShape "serviceAccount" rfl with
    ⟨_, haccount, haccountDecode⟩
  refine .strictRecord _ (.cons hpath (.cons hrole (.cons haccount .nil))) (by simp) ?_
  simp [ServiceLogin.ofJson?, filled, required_eq, defaulted_eq, ofDefaulted,
    Entries.find?_ofList, hpathDecode, hroleDecode, haccountDecode]

theorem SecretKey.readsBackAt (key : SecretKey) :
    secretKeyShape.ReadsBackAt 1 key.toJson ofJson? key := by
  rcases (readsBackAt_string 0 key.name).field secretKeyShape "name" rfl with
    ⟨_, hname, hnameDecode⟩
  rcases (readsBackAt_string 0 key.key).field secretKeyShape "key" rfl with
    ⟨_, hkey, hkeyDecode⟩
  refine .strictRecord _ (.cons hname (.cons hkey .nil)) (by simp) ?_
  simp [SecretKey.ofJson?, filled, required_eq, defaulted_eq, ofDefaulted,
    Entries.find?_ofList, hnameDecode, hkeyDecode]

theorem Authentication.readsBackAt_token (key : SecretKey) :
    tokenShape.ReadsBackAt 2 (Authentication.ofToken key) Authentication.token? key := by
  rcases key.readsBackAt.field tokenShape "secretRef" rfl with ⟨_, hkey, hkeyDecode⟩
  refine .strictRecord _ (.cons hkey .nil) (by simp) ?_
  simp [Authentication.token?, filled, required_eq, Entries.find?_ofList, hkeyDecode]

theorem Authentication.readsBackAt (auth : Authentication) :
    authenticationShape.ReadsBackAt 3 auth.toJson ofJson? auth := by
  rcases ReadsBackAt.optionalField (fun login (_ : auth.service = some login) =>
    login.readsBackAt) authenticationShape "kubernetes" rfl with ⟨_, hservice, hserviceDecode⟩
  rcases ReadsBackAt.optionalField (fun key (_ : auth.token = some key) =>
    readsBackAt_token key) authenticationShape "token" rfl with ⟨_, htoken, htokenDecode⟩
  rcases readsAs_optionalText 2 auth.vaultNamespace authenticationShape "namespace" rfl with
    ⟨_, hnamespace, hnamespaceDecode⟩
  refine .strictRecord _ (List.rel_append (List.rel_append hservice htoken) hnamespace)
    (by simp) ?_
  simp [Authentication.ofJson?, filled, optional_eq, Entries.find?_ofList, hserviceDecode,
    htokenDecode, hnamespaceDecode]

theorem Definition.readsBackAt (definition : Definition) :
    definitionShape.ReadsBackAt 4 definition.toJson ofJson? definition := by
  rcases (readsBackAt_string 3 definition.name).field definitionShape "name" rfl with
    ⟨_, hname, hnameDecode⟩
  rcases definition.authentication.readsBackAt.field definitionShape "authentication" rfl with
    ⟨_, hauth, hauthDecode⟩
  rcases (readsBackAt_string 3 definition.path).field definitionShape "path" rfl with
    ⟨_, hpath, hpathDecode⟩
  refine .strictRecord _ (.cons hname (.cons hauth (.cons hpath .nil))) (by simp) ?_
  simp [Definition.ofJson?, filled, required_eq, Entries.find?_ofList, hnameDecode, hauthDecode,
    hpathDecode]

/-- A table that is written only when it has entries. -/
theorem readsAs_textsMember (levels : Nat) (record : Shape) (key : String)
    (hfield : record.fieldAt key = some (.table .string)) (texts : Table String) :
    exists found,
      List.Forall₂ (record.MemberReadsAs (levels + 1)) (textsMember key texts)
          (memberOf id key found) ∧
        texts? (found.getD noMembers) = some texts := by
  have htexts := ofDefaulted_texts texts
  unfold textsMember
  by_cases hempty : texts.isEmpty = true
  · rw [if_pos hempty] at htexts ⊢
    exact ⟨none, .nil, htexts⟩
  · rw [if_neg hempty]
    rcases (readsBackAt_texts levels texts).field record key hfield with ⟨found, hread, hdecode⟩
    exact ⟨some found, .cons hread .nil, hdecode⟩

theorem OutputSpec.readsBackAt (output : OutputSpec) :
    outputShape.ReadsBackAt 2 output.toJson ofJson? output := by
  rcases (readsBackAt_string 1 output.name).field outputShape "name" rfl with
    ⟨_, hname, hnameDecode⟩
  rcases (readsBackAt_string 1 output.type).field outputShape "type" rfl with
    ⟨_, htype, htypeDecode⟩
  rcases (readsBackAt_texts 0 output.stringData).field outputShape "stringData" rfl with
    ⟨_, hdata, hdataDecode⟩
  rcases readsAs_textsMember 0 outputShape "labels" rfl output.labels with
    ⟨_, hlabels, hlabelsDecode⟩
  rcases readsAs_textsMember 0 outputShape "annotations" rfl output.annotations with
    ⟨_, hannotations, hannotationsDecode⟩
  refine .strictRecord _ (List.rel_append (List.rel_append
    (.cons hname (.cons htype (.cons hdata .nil))) hlabels) hannotations) (by simp) ?_
  simp [OutputSpec.ofJson?, filled, required_eq, defaulted_eq, ofDefaulted,
    Entries.find?_ofList, hnameDecode, htypeDecode, hdataDecode, hlabelsDecode,
    hannotationsDecode]

theorem Spec.readsBackAt (spec : Spec) :
    specShape.ReadsBackAt 6 spec.toJson ofJson? spec := by
  rcases readsAs_optionalText 5 spec.refreshPeriod specShape "refreshPeriod" rfl with
    ⟨_, hperiod, hperiodDecode⟩
  rcases (readsBackAt_word32 5 spec.refreshThreshold).field specShape "refreshThreshold" rfl with
    ⟨_, hthreshold, hthresholdDecode⟩
  rcases (ReadsBackAt.list fun definition (_ : definition ∈ spec.definitions) =>
    definition.readsBackAt).field specShape "vaultSecretDefinitions" rfl with
    ⟨_, hdefinitions, hdefinitionsDecode⟩
  rcases (spec.output.readsBackAt.mono (show 2 ≤ 5 by decide)).field specShape "output" rfl with
    ⟨_, houtput, houtputDecode⟩
  refine .strictRecord _ (List.rel_append hperiod
    (.cons hthreshold (.cons hdefinitions (.cons houtput .nil)))) (by simp) ?_
  simp [Spec.ofJson?, filled, required_eq, optional_eq, defaulted_eq, ofDefaulted,
    Entries.find?_ofList, hperiodDecode, hthresholdDecode, hdefinitionsDecode, houtputDecode]

/-!
## Statuses
-/

theorem Lease.readsBackAt (lease : Lease) :
    leaseShape.ReadsBackAt 1 lease.toJson ofJson? lease := by
  rcases (readsBackAt_string 0 lease.name).field leaseShape "name" rfl with
    ⟨_, hname, hnameDecode⟩
  rcases (readsBackAt_string 0 lease.leaseId).field leaseShape "leaseId" rfl with
    ⟨_, hid, hidDecode⟩
  rcases (readsBackAt_word64 0 lease.leaseDuration).field leaseShape "leaseDuration" rfl with
    ⟨_, hduration, hdurationDecode⟩
  rcases (readsBackAt_bool 0 lease.renewable).field leaseShape "renewable" rfl with
    ⟨_, hrenewable, hrenewableDecode⟩
  refine .strictRecord _ (.cons hname (.cons hid (.cons hduration (.cons hrenewable .nil))))
    (by simp) ?_
  simp [Lease.ofJson?, filled, required_eq, defaulted_eq, ofDefaulted, Entries.find?_ofList,
    hnameDecode, hidDecode, hdurationDecode, hrenewableDecode]

end Projection

namespace Projection

namespace Status

theorem readsAs_conditionsMember (conditions : List Cluster.Condition) :
    exists found,
      List.Forall₂ (statusShape.MemberReadsAs 2) (conditionsMember conditions)
          (memberOf id "conditions" found) ∧
        listOf? Cluster.Condition.ofJson? (found.getD (.array [])) =
          some (conditions.map Cluster.Condition.stored) := by
  unfold conditionsMember
  by_cases hempty : conditions = []
  · rw [if_pos hempty, hempty]
    exact ⟨none, .nil, rfl⟩
  · rw [if_neg hempty]
    rcases (ReadsBackAt.list fun condition (_ : condition ∈ conditions) =>
      condition.readsBackAt).field statusShape "conditions" rfl with ⟨found, hread, hdecode⟩
    exact ⟨some found, .cons hread .nil, hdecode⟩

/-- The time of the next update is written in any case, be it as null. -/
theorem readsAs_nextUpdate (time : Option Instant) :
    exists found,
      statusShape.MemberReadsAs 2 ("nextVaultSecretUpdate", ofInstant? time)
          ("nextVaultSecretUpdate", found) ∧
        ofOptional instant? (some found) = some (time.map Instant.wholeSecond) := by
  cases time with
  | none => exact ⟨.null, .mk rfl (readsAs_null _ 2), rfl⟩
  | some t => exact (readsBackAt_instant 2 t).presentField statusShape _ rfl

theorem readsBackAt (status : Status) :
    statusShape.ReadsBackAt 3 status.toJson ofJson? status.stored := by
  rcases readsAs_conditionsMember status.conditions with ⟨_, hconditions, hconditionsDecode⟩
  rcases ReadsBackAt.optionalField (fun t (_ : status.lastUpdate = some t) =>
    readsBackAt_instant 2 t) statusShape "lastVaultSecretUpdate" rfl with
    ⟨_, hlast, hlastDecode⟩
  rcases readsAs_nextUpdate status.nextUpdate with ⟨_, hnext, hnextDecode⟩
  rcases (ReadsBackAt.list fun lease (_ : lease ∈ status.leases) =>
    lease.readsBackAt).field statusShape
    "vaultSecretDefinitionsStatus" rfl with ⟨_, hleases, hleasesDecode⟩
  refine .strictRecord _ (List.rel_append (List.rel_append hconditions hlast)
    (.cons hnext (.cons hleases .nil))) (by simp) ?_
  simp [ofJson?, filled, optional_eq, defaulted_eq, ofDefaulted, Entries.find?_ofList,
    hconditionsDecode, hlastDecode, hnextDecode, hleasesDecode, stored]

end Status

/-!
## Projections
-/

theorem passedOver_apiVersion : PassedOver (.string apiVersion) := by
  intro fuel depth rest offset hfuel
  cases fuel with
  | zero => cases hfuel
  | succ fuel => exact ⟨_, _, rfl⟩

theorem passedOver_kind : PassedOver (.string kind) := by
  intro fuel depth rest offset hfuel
  cases fuel with
  | zero => cases hfuel
  | succ fuel => exact ⟨_, _, rfl⟩

/-- Version and kind, which nobody asks for, are written in front of the fields. -/
theorem toJson_eq (unit : Projection) :
    unit.toJson = .object ([("apiVersion", .string apiVersion), ("kind", .string kind)] ++
      Entries.ofList ([("metadata", unit.metadata.toJson), ("spec", unit.spec.toJson)] ++
        memberOf Status.toJson "status" unit.status)) := by
  have hordered : Entries.Ordered ([("apiVersion", .string apiVersion), ("kind", .string kind)] ++
      ([("metadata", unit.metadata.toJson), ("spec", unit.spec.toJson)] ++
        memberOf Status.toJson "status" unit.status)) := by
    rw [Entries.ordered_iff_keys]
    cases unit.status with
    | none =>
        show ["apiVersion", "kind", "metadata", "spec"].Pairwise (· < ·)
        decide
    | some status =>
        show ["apiVersion", "kind", "metadata", "spec", "status"].Pairwise (· < ·)
        decide
  have hfields := (List.pairwise_append.mp hordered).2.1
  rw [Entries.ofList_of_ordered hfields]
  exact congrArg Json.object (Entries.ofList_of_ordered hordered)

theorem readsBackAt {unit : Projection} (h : unit.metadata.Plain 123) :
    shape.ReadsBackAt 127 unit.toJson ofJson? unit.stored where
  present := head?_print_ofMembers _
  read := by
    rcases (Cluster.Metadata.readsBackAt h).field shape "metadata" rfl with
      ⟨_, hmetadata, hmetadataDecode⟩
    rcases (unit.spec.readsBackAt.mono (show 6 ≤ 126 by decide)).field shape "spec" rfl with
      ⟨_, hspec, hspecDecode⟩
    rcases ReadsBackAt.optionalField (fun status (_ : unit.status = some status) =>
      status.readsBackAt.mono (show 3 ≤ 126 by decide)) shape "status" rfl with
      ⟨_, hstatus, hstatusDecode⟩
    rw [toJson_eq]
    refine ⟨_, .strictRecord _ ?_ (List.rel_append (.cons hmetadata (.cons hspec .nil)) hstatus)
      (by simp), nofun, ?_⟩
    · simp [passedOver_apiVersion, passedOver_kind]
    · simp [ofJson?, filled, required_eq, optional_eq, Entries.find?_ofList, hmetadataDecode,
        hspecDecode, hstatusDecode, stored]

/-- A client reads the stored form of a projection from its text, unless the metadata holds values
that are not read as they were written. -/
theorem parse_compact {unit : Projection} (h : unit.metadata.Plain 123) :
    Controller.unitFormat.parse unit.toJson.compact = .ok unit.stored :=
  (readsBackAt h).parse (by decide)

def specFormat : Cluster.Format Spec := ⟨specShape, Spec.ofJson?⟩

def statusFormat : Cluster.Format Status := ⟨statusShape, Status.ofJson?⟩

/-- A spec that is written and read back is the same spec, be it as a value or as a text; a status
that is read from its text is the same one with its times cut to whole seconds.  A projection is
the same one with this cut and without the field sets that are null, from its value in any case and
from its text if the field sets are plain; written and read back once more it does not change, and
the recorded facts are those from before, with the same cut. -/
theorem round_trip_cuts_times :
    (forall spec : Spec,
        Spec.ofJson? spec.toJson = some spec ∧
          specFormat.parse spec.toJson.compact = .ok spec) ∧
      (forall status : Status,
        statusFormat.parse status.toJson.compact = .ok status.stored) ∧
      forall unit : Projection,
        ofJson? unit.toJson = some unit.stored ∧
          ofJson? unit.stored.toJson = some unit.stored ∧
          (unit.metadata.Plain 123 ->
            Controller.unitFormat.parse unit.toJson.compact = .ok unit.stored ∧
              Controller.unitFormat.parse unit.stored.toJson.compact = .ok unit.stored) ∧
          unit.stored.spec = unit.spec ∧
          unit.stored.lastSync = unit.lastSync.map Instant.wholeSecond ∧
          unit.stored.nextSync = unit.nextSync.map Instant.wholeSecond ∧
          unit.stored.leases = unit.leases ∧
          unit.stored.lastCondition = unit.lastCondition.map Cluster.Condition.stored := by
  refine ⟨?_, ?_, ?_⟩
  · intro spec
    exact ⟨Spec.readsBack.read spec, spec.readsBackAt.parse (by decide)⟩
  · intro status
    exact status.readsBackAt.parse (by decide)
  · intro unit
    have hagain : ofJson? unit.stored.toJson = some unit.stored := by
      rw [ofJson?_toJson, stored_stored]
    have htext (hplain : unit.metadata.Plain 123) :
        Controller.unitFormat.parse unit.stored.toJson.compact = .ok unit.stored := by
      have hstored : unit.stored.metadata.Plain 123 := hplain.stored
      rw [parse_compact hstored, stored_stored]
    exact ⟨ofJson?_toJson unit, hagain, fun hplain => ⟨parse_compact hplain, htext hplain⟩, rfl,
      lastSync_stored unit, nextSync_stored unit, leases_stored unit, lastCondition_stored unit⟩

/-- A projection whose metadata holds a set of fields, or none. -/
def managing (fields : Option Json) : Projection where
  metadata :=
    { Cluster.Metadata.empty with
      generation := some 1
      managedFields := some [⟨none, some "FieldsV1", fields, some "kubectl", some "Update", none,
        none⟩]
      name := some "app"
      namespaceName := some "team-a"
      uid := some "uid-1" }
  spec := ⟨none, 90, [], ⟨"app-creds", "Opaque", .empty, .empty, .empty⟩⟩
  status := none

theorem plain_managing {fields : Option Json}
    (h : forall value, fields = some value -> value.Plain 123) :
    (managing fields).metadata.Plain 123 := by
  intro entries hentries entry hmem
  cases hentries
  cases List.mem_singleton.mp hmem
  exact h

/-- A set of fields with a null inside and a number that is read back, one half. -/
def fieldSet : Json :=
  .object [("f:data", .array [.null, .number (.float false ⟨4503599627370496, -53⟩)])]

theorem round_trip_of_field_set :
    (managing (some fieldSet)).metadata.Plain 123 ∧
      Controller.unitFormat.parse (managing (some fieldSet)).toJson.compact =
        .ok (managing (some fieldSet)) := by
  have hhalf : FloatReadsBack false ⟨4503599627370496, -53⟩ := ⟨3, by decide +kernel⟩
  have hset : fieldSet.Plain 123 := by
    refine .object (List.pairwise_singleton _ _) ?_
    simpa using Json.Plain.array (by simpa using ⟨.null, .float hhalf⟩)
  have hplain : (managing (some fieldSet)).metadata.Plain 123 := by
    apply plain_managing
    rintro _ ⟨⟩
    exact hset
  have hstored : (managing (some fieldSet)).stored = managing (some fieldSet) := by rfl
  have htext := ((round_trip_cuts_times.2.2 (managing (some fieldSet))).2.2.1 hplain).1
  rw [hstored] at htext
  exact ⟨hplain, htext⟩

/-- Lists one inside the other, so many, around a null. -/
def nestedList : Nat -> Json
  | 0 => .null
  | levels + 1 => .array [nestedList levels]

/-- The number next to `10 ^ -23`, and the one above it, which a reader finds where `1e-23` is
written. -/
def tinyNumber : Json := .number (.float false ⟨6805647338418769, -129⟩)

def tinyNumberRead : Json := .number (.float false ⟨6805647338418770, -129⟩)

/-- A field set that is null is gone, one that nests a level deeper than plain ones is not read
again, and one that holds a number with an inexact text is read as another. -/
theorem field_sets_change :
    (ofJson? (managing (some .null)).toJson = some (managing none) ∧
        Controller.unitFormat.parse (managing (some .null)).toJson.compact =
          .ok (managing none) ∧
        managing (some .null) ≠ managing none) ∧
      (exists message,
        Controller.unitFormat.parse (managing (some (nestedList 124))).toJson.compact =
          .error message) ∧
      Controller.unitFormat.parse (managing (some tinyNumber)).toJson.compact =
          .ok (managing (some tinyNumberRead)) ∧
        managing (some tinyNumber) ≠ managing (some tinyNumberRead) := by
  have hnull : (managing (some .null)).metadata.Plain 123 := by
    apply plain_managing
    rintro _ ⟨⟩
    exact .null
  have hstored : (managing (some .null)).stored = managing none := by rfl
  have hdeep : shape.parseChars (print (managing (some (nestedList 124))).toJson) =
      .error ⟨.tooDeep, 270⟩ := by
    decide +kernel
  have hrounded : (shape.parseChars (print (managing (some tinyNumber)).toJson)).toOption.bind
      ofJson? = some (managing (some tinyNumberRead)) := by
    decide +kernel
  refine ⟨⟨?_, ?_, by decide⟩, ⟨_, parse_compact_of_error hdeep⟩, parse_compact_of_ok hrounded,
    by decide⟩
  · rw [ofJson?_toJson, hstored]
  · rw [parse_compact hnull, hstored]

end Projection

end SecretProjection
