import SecretProjection.Document
import SecretProjection.Proofs.Table

/-!
# Rendered fields

A rendered document has the keys of its templates, and under each key the output of the template
of that key alone.
-/

namespace SecretProjection

namespace Document

open Projection

theorem renderFields_cons_of_ok {root : Json} {key source text : String}
    {rest : List (String × String)} (h : Template.render source root = .ok text) :
    renderFields root ((key, source) :: rest) =
      (renderFields root rest).map ((key, text) :: ·) := by
  simp only [renderFields, h]

theorem renderFields_cons_of_error {root : Json} {key source : String} {fault : Template.Fault}
    {rest : List (String × String)} (h : Template.render source root = .error fault) :
    renderFields root ((key, source) :: rest) = .error (fieldFault key fault) := by
  simp only [renderFields, h]

/-- A successful rendering starts with a successful template. -/
theorem renderFields_cons_eq_ok {root : Json} {key source : String}
    {rest fields : List (String × String)}
    (h : renderFields root ((key, source) :: rest) = .ok fields) :
    exists text others, Template.render source root = .ok text ∧
      renderFields root rest = .ok others ∧ fields = (key, text) :: others := by
  cases hfield : Template.render source root with
  | error fault =>
      rw [renderFields_cons_of_error hfield] at h
      cases h
  | ok text =>
      rw [renderFields_cons_of_ok hfield] at h
      cases hrest : renderFields root rest with
      | error fault =>
          rw [hrest] at h
          cases h
      | ok others =>
          rw [hrest] at h
          cases h
          exact ⟨text, others, rfl, rfl, rfl⟩

theorem keys_of_renderFields {root : Json} {entries fields : List (String × String)}
    (h : renderFields root entries = .ok fields) :
    fields.map (·.1) = entries.map (·.1) := by
  induction entries generalizing fields with
  | nil =>
      cases h
      rfl
  | cons head rest ih =>
      rcases head with ⟨key, source⟩
      rcases renderFields_cons_eq_ok h with ⟨text, others, _, hrest, rfl⟩
      simp [ih hrest]

theorem find?_of_renderFields {root : Json} {entries fields : List (String × String)}
    (h : renderFields root entries = .ok fields) {key source : String}
    (hkey : Entries.find? key entries = some source) :
    exists text, Template.render source root = .ok text ∧
      Entries.find? key fields = some text := by
  induction entries generalizing fields with
  | nil => cases hkey
  | cons head rest ih =>
      rcases head with ⟨k, first⟩
      rcases renderFields_cons_eq_ok h with ⟨text, others, htext, hrest, rfl⟩
      by_cases heq : k = key
      · simp only [Entries.find?, heq, ↓reduceIte] at hkey ⊢
        cases hkey
        exact ⟨text, htext, rfl⟩
      · simp only [Entries.find?, heq, ↓reduceIte] at hkey ⊢
        exact ih hrest hkey

theorem render_eq_ok {output : OutputSpec} {merged : Table Json} {document : Document} :
    render output merged = .ok document <->
      exists fields,
        renderFields (.object merged.entries) output.stringData.entries = .ok fields ∧
        document = ⟨output.name, output.type, output.labels, output.annotations,
          Table.ofList fields⟩ := by
  unfold render
  cases renderFields (.object merged.entries) output.stringData.entries with
  | error fault => simp
  | ok fields => simp [eq_comm]

theorem name_of_render {output : OutputSpec} {merged : Table Json} {document : Document}
    (h : render output merged = .ok document) : document.name = output.name := by
  rcases render_eq_ok.mp h with ⟨fields, _, rfl⟩
  rfl

/-- The fields of a document are the list they were rendered to. -/
theorem entries_data_of_renderFields {root : Json} {templates : Table String}
    {fields : List (String × String)} (h : renderFields root templates.entries = .ok fields) :
    (Table.ofList fields).entries = fields :=
  Table.entries_ofList_of_ordered (templates.ordered.of_keys_eq (keys_of_renderFields h))

/-- Under a key stands the output of its own template, and nothing where there is no template. -/
theorem get?_data_of_render {output : OutputSpec} {merged : Table Json} {document : Document}
    (h : render output merged = .ok document) (key : String) :
    document.data.get? key = (output.stringData.get? key).bind fun source =>
      (Template.render source (.object merged.entries)).toOption := by
  rcases render_eq_ok.mp h with ⟨fields, hfields, rfl⟩
  change Entries.find? key (Table.ofList fields).entries = _
  rw [entries_data_of_renderFields hfields]
  cases hsource : output.stringData.get? key with
  | none =>
      rw [Option.bind_none, Option.eq_none_iff_forall_ne_some]
      intro text htext
      have hmem : key ∈ fields.map (·.1) := Entries.mem_keys_iff.mpr ⟨text, htext⟩
      rw [keys_of_renderFields hfields] at hmem
      rcases Entries.mem_keys_iff.mp hmem with ⟨source, hfound⟩
      exact absurd (hsource.symm.trans hfound) (by simp)
  | some source =>
      rcases find?_of_renderFields hfields hsource with ⟨text, htext, hfind⟩
      rw [hfind, Option.bind_some, htext]
      rfl

end Document

end SecretProjection
