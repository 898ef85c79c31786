import Mathlib.Data.List.Basic
import SecretProjection.Proofs.Results
import SecretProjection.Proofs.Stops
import SecretProjection.Proofs.TextOrder

/-!
# Documents as a whole

A document is rendered when each of its templates can be read and yields an output, and then holds
under each key the output of the template of that key.  When some templates fail, the document fails
as the one whose key comes first in the order of bytes.
-/

namespace SecretProjection

namespace Template

theorem render_eq_ok {source : String} {root : Json} {text : String} :
    render source root = .ok text <->
      exists template, parse source = .ok template ∧ execute root template = .ok text := by
  cases hparse : parse source with
  | error fault => simp [render_of_unparsed hparse]
  | ok template =>
      rw [render_of_parsed hparse]
      cases hexecute : execute root template <;> simp [Except.mapError, hexecute]

end Template

namespace Document

open Projection

variable {output : OutputSpec} {merged : Table Json}

theorem keys_data_of_render {document : Document} (h : render output merged = .ok document) :
    document.data.keys = output.stringData.keys := by
  rcases render_eq_ok.mp h with ⟨fields, hfields, rfl⟩
  change (Table.ofList fields).entries.map (·.1) = _
  rw [entries_data_of_renderFields hfields, keys_of_renderFields hfields]
  rfl

/-- The fields before the one where a rendering stops do not fail. -/
theorem FieldStops.exists_before {root : Json} {entries : List (String × String)} {key : String}
    {place : Template.Place} {fault : Fault} (h : FieldStops root entries key place fault) :
    exists before source after reason, entries = before ++ (key, source) :: after ∧
      (forall entry, entry ∈ before -> exists text, Template.render entry.2 root = .ok text) ∧
      Template.render source root = .error reason ∧ fault = fieldFault key reason := by
  induction h with
  | @here key source rest place reason hsource =>
      exact ⟨[], source, rest, reason, rfl, by simp,
        Template.render_eq_error.mpr ⟨place, hsource⟩, rfl⟩
  | @next other source text key rest place fault htext _ ih =>
      rcases ih with ⟨before, failing, after, reason, rfl, hbefore, hlast⟩
      refine ⟨(other, source) :: before, failing, after, reason, rfl, ?_, hlast⟩
      intro entry hentry
      rcases List.mem_cons.mp hentry with rfl | hentry
      · exact ⟨text, htext⟩
      · exact hbefore entry hentry

/-- The field whose fault is reported is the first one that fails. -/
theorem exists_least_fault {fault : Fault} (h : render output merged = .error fault) :
    exists key source reason, output.stringData.get? key = some source ∧
      Template.render source (.object merged.entries) = .error reason ∧
      fault = fieldFault key reason ∧
      forall other failing cause, output.stringData.get? other = some failing ->
        Template.render failing (.object merged.entries) = .error cause -> key ≤ other := by
  rcases render_eq_error.mp h with ⟨key, place, hstops⟩
  rcases hstops.exists_before with ⟨before, source, after, reason, hentries, hbefore, hreason,
    hfault⟩
  have hordered := output.stringData.ordered
  have hkey : (key, source) ∈ output.stringData.entries := by
    rw [hentries]
    simp
  refine ⟨key, source, reason, Table.mem_entries_iff.mp hkey, hreason, hfault, ?_⟩
  intro other failing cause hother hcause
  have hmem := Table.mem_entries_iff.mpr hother
  rw [hentries] at hmem hordered
  rcases List.mem_append.mp hmem with hfront | hback
  · rcases hbefore _ hfront with ⟨text, htext⟩
    exact absurd (htext.symm.trans hcause) (by simp)
  · rcases List.mem_cons.mp hback with heq | hafter
    · cases heq
      exact String.le_refl key
    · have hlater := (List.pairwise_append.mp hordered).2.1
      have hlt : key < other := (List.pairwise_cons.mp hlater).1 _ hafter
      apply String.not_lt.mp
      intro hless
      exact String.lt_irrefl key (String.lt_trans hlt hless)

theorem exists_render_iff :
    (exists document, render output merged = .ok document) <->
      forall key source, output.stringData.get? key = some source ->
        exists text, Template.render source (.object merged.entries) = .ok text := by
  constructor
  · rintro ⟨document, h⟩ key source hsource
    rcases render_eq_ok.mp h with ⟨fields, hfields, _⟩
    rcases find?_of_renderFields hfields hsource with ⟨text, htext, _⟩
    exact ⟨text, htext⟩
  · intro hall
    cases h : render output merged with
    | ok document => exact ⟨document, rfl⟩
    | error fault =>
        rcases exists_least_fault h with ⟨key, source, reason, hsource, hreason, _⟩
        rcases hall key source hsource with ⟨text, htext⟩
        exact absurd (htext.symm.trans hreason) (by simp)

theorem render_eq_error_iff_least {fault : Fault} :
    render output merged = .error fault <->
      exists key source reason, output.stringData.get? key = some source ∧
        Template.render source (.object merged.entries) = .error reason ∧
        fault = fieldFault key reason ∧
        forall other failing cause, output.stringData.get? other = some failing ->
          Template.render failing (.object merged.entries) = .error cause -> key ≤ other := by
  constructor
  · exact exists_least_fault
  · rintro ⟨key, source, reason, hsource, hreason, rfl, hleast⟩
    cases h : render output merged with
    | ok document =>
        rcases exists_render_iff.mp ⟨document, h⟩ key source hsource with ⟨text, htext⟩
        exact absurd (htext.symm.trans hreason) (by simp)
    | error fault =>
        rcases exists_least_fault h with
          ⟨other, failing, cause, hother, hcause, rfl, hfirst⟩
        have hkey : key = other := String.le_antisymm
          (hleast other failing cause hother hcause) (hfirst key source reason hsource hreason)
        subst hkey
        cases hsource.symm.trans hother
        cases hreason.symm.trans hcause
        rfl

/-- A document is rendered exactly when each of its templates can be read and executed.  It then
holds under each key the output of the template of that key, and the rest is copied.  Otherwise it
fails as the template whose key comes first in the order of bytes among those that fail. -/
theorem render_is_all_or_nothing (output : OutputSpec) (merged : Table Json) :
    ((exists document, render output merged = .ok document) <->
      forall key source, output.stringData.get? key = some source ->
        exists template text, Template.parse source = .ok template ∧
          Template.execute (.object merged.entries) template = .ok text) ∧
    (forall document, render output merged = .ok document ->
      document.name = output.name ∧ document.type = output.type ∧
      document.labels = output.labels ∧ document.annotations = output.annotations ∧
      document.data.keys = output.stringData.keys ∧
      forall key source, output.stringData.get? key = some source ->
        exists template text, Template.parse source = .ok template ∧
          Template.execute (.object merged.entries) template = .ok text ∧
          document.data.get? key = some text) ∧
    forall fault, render output merged = .error fault <->
      exists key source reason, output.stringData.get? key = some source ∧
        Template.render source (.object merged.entries) = .error reason ∧
        fault = ⟨.template, "stringData '" ++ key ++ "': " ++ reason.message⟩ ∧
        forall other failing cause, output.stringData.get? other = some failing ->
          Template.render failing (.object merged.entries) = .error cause ->
          Text.Utf8.encode key ≤ Text.Utf8.encode other := by
  refine ⟨?_, ?_, ?_⟩
  · rw [exists_render_iff]
    simp only [Template.render_eq_ok]
    exact forall₃_congr fun _ _ _ => exists_comm
  · intro document h
    rcases render_eq_ok.mp h with ⟨fields, _, hdocument⟩
    have hkeys := keys_data_of_render h
    refine ⟨by rw [hdocument], by rw [hdocument], by rw [hdocument], by rw [hdocument], hkeys, ?_⟩
    intro key source hsource
    rcases exists_render_iff.mp ⟨document, h⟩ key source hsource with ⟨text, htext⟩
    rcases Template.render_eq_ok.mp htext with ⟨template, htemplate, hexecute⟩
    refine ⟨template, text, htemplate, hexecute, ?_⟩
    rw [get?_data_of_render h, hsource, Option.bind_some, htext]
    rfl
  · intro fault
    rw [render_eq_error_iff_least]
    simp only [Text.Utf8.encode_le_encode_iff]
    rfl

/-- Three fields, of which the second in the order of bytes cannot be read and the last one is
missing a value. -/
def faulty : OutputSpec where
  name := "app"
  type := "Opaque"
  stringData := .ofList [("é", "\x7b\x7b .db.nope \x7d\x7d"), ("a", "fine"), ("z", "\x7b\x7b .db")]
  labels := .empty
  annotations := .ofList [("note", "\x7b\x7b .not.templated \x7d\x7d")]

/-- The same fields in a state in which all of them can be rendered. -/
def mended : OutputSpec :=
  { faulty with
    stringData := .ofList [("é", "\x7b\x7b .db.user \x7d\x7d"), ("a", "fine")] }

def onePayload : Table Json := .ofList [("db", .object [("user", .string "ana")])]

theorem mended_document_rendered :
    (exists document, render mended onePayload = .ok document ∧
      document.annotations = faulty.annotations ∧ document.data.keys = ["a", "é"] ∧
      document.data.get? "é" = some "ana") ∧
    render faulty onePayload = .error ⟨.template, "stringData 'z': unclosed action"⟩ := by
  constructor
  · have hrendered : (render mended onePayload).toOption.isSome = true := by decide +kernel
    rcases Option.isSome_iff_exists.mp hrendered with ⟨document, hdocument⟩
    have hok := ok_of_toOption hdocument
    rcases (render_is_all_or_nothing mended onePayload).2.1 document hok with
      ⟨_, _, _, hannotations, hkeys, hfields⟩
    rcases hfields "é" "\x7b\x7b .db.user \x7d\x7d" (by decide +kernel) with
      ⟨template, text, htemplate, hexecute, htext⟩
    have hparse : Template.parse "\x7b\x7b .db.user \x7d\x7d" =
        .ok [.action [.operand (.field ["db", "user"])]] := by
      decide +kernel
    cases hparse.symm.trans htemplate
    cases hexecute
    have hnames : mended.stringData.keys = ["a", "é"] := by decide +kernel
    exact ⟨document, hok, hannotations, hkeys.trans hnames, htext⟩
  · have hentries : faulty.stringData.entries = [("a", "fine"), ("z", "\x7b\x7b .db"),
        ("é", "\x7b\x7b .db.nope \x7d\x7d")] := by
      decide +kernel
    apply ((render_is_all_or_nothing faulty onePayload).2.2 _).mpr
    refine ⟨"z", "\x7b\x7b .db", .parse .unclosedAction, by decide +kernel, by decide +kernel,
      by decide +kernel, ?_⟩
    intro other failing cause hother hcause
    have hmem := Table.mem_entries_iff.mpr hother
    rw [hentries] at hmem
    simp only [List.mem_cons, Prod.mk.injEq, List.not_mem_nil, or_false] at hmem
    rcases hmem with ⟨rfl, rfl⟩ | ⟨rfl, rfl⟩ | ⟨rfl, rfl⟩
    · have hfine : Template.render "fine" (.object onePayload.entries) = .ok "fine" := by
        decide +kernel
      exact absurd (hfine.symm.trans hcause) (by simp)
    · exact List.le_refl _
    · decide +kernel

end Document

end SecretProjection
