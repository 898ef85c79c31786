import Mathlib.Data.List.Basic
import SecretProjection.Proofs.ParsedTrees
import SecretProjection.Proofs.Rendering
import SecretProjection.Proofs.Stops

/-!
# What an output depends on

A chain of field names starts with the name of a definition.  A template in which the root does
not stand alone looks at the payloads of the definitions that its chains name, and at nothing else:
whatever the others are, its output and its fault stay the same.
-/

namespace SecretProjection

namespace Template

/-!
# Operands of a template
-/

def Command.operands : Command -> List Operand
  | .operand value => [value]
  | .call _ arguments => arguments

def Node.operands : Node -> List Operand
  | .text _ => []
  | .action pipeline => pipeline.flatMap Command.operands

/-- All operands of a template, in the order in which they are written. -/
def written (template : Template) : List Operand := template.flatMap Node.operands

/-- The definition that an operand names: the first name of a chain. -/
def Operand.definition? : Operand -> Option String
  | .field names => names.head?
  | _ => none

def named (template : Template) : List String := (written template).filterMap Operand.definition?

/-- Whether the template of a source names a definition or looks at all payloads at once. -/
def Concerns (definition source : String) : Prop :=
  exists template, parse source = .ok template ∧
    (.root ∈ written template ∨ definition ∈ named template)

theorem wellFormed_of_mem_written {source : String} {template : Template}
    (h : parse source = .ok template) {operand : Operand} (hmem : operand ∈ written template) :
    operand.WellFormed := by
  rcases List.mem_flatMap.mp hmem with ⟨node, hnode, hmem⟩
  cases node with
  | text content => cases hmem
  | action pipeline =>
      rcases List.mem_flatMap.mp hmem with ⟨command, hcommand, hoperand⟩
      have hwell := (wellFormedPipeline_of_parseFrom h hnode).commands command hcommand
      cases command with
      | operand value =>
          cases List.mem_singleton.mp hoperand
          exact hwell
      | call function arguments => exact hwell operand hoperand

/-!
# Roots on which the operands agree
-/

section Agreement

variable {first second : Json}

theorem evalOperands_congr {operands : List Operand}
    (h : forall operand, operand ∈ operands -> operand.eval first = operand.eval second) :
    evalOperands first operands = evalOperands second operands := by
  induction operands with
  | nil => rfl
  | cons operand rest ih =>
      rw [evalOperands, evalOperands, h operand List.mem_cons_self,
        ih fun other hother => h other (List.mem_cons_of_mem _ hother)]

theorem Command.eval_congr {command : Command}
    (h : forall operand, operand ∈ command.operands -> operand.eval first = operand.eval second)
    (piped : List Json) : command.eval first piped = command.eval second piped := by
  cases command with
  | operand value => exact h value List.mem_cons_self
  | call function arguments =>
      have hoperands : evalOperands first arguments = evalOperands second arguments :=
        evalOperands_congr h
      rw [Command.eval, Command.eval, hoperands]

theorem evalPipeline_congr {pipeline : List Command}
    (h : forall operand, operand ∈ pipeline.flatMap Command.operands ->
      operand.eval first = operand.eval second) (piped : List Json) :
    evalPipeline first piped pipeline = evalPipeline second piped pipeline := by
  induction pipeline generalizing piped with
  | nil => rfl
  | cons command rest ih =>
      rw [List.flatMap_cons] at h
      have hcommand := Command.eval_congr
        (fun operand hmem => h operand (List.mem_append_left _ hmem)) piped
      have hrest := ih fun operand hmem => h operand (List.mem_append_right _ hmem)
      simp only [evalPipeline, hcommand, hrest]

theorem Node.output_congr {node : Node}
    (h : forall operand, operand ∈ node.operands -> operand.eval first = operand.eval second) :
    node.output first = node.output second := by
  cases node with
  | text content => rfl
  | action pipeline => rw [Node.output, Node.output, evalPipeline_congr h]

theorem execute_congr {template : Template}
    (h : forall operand, operand ∈ written template ->
      operand.eval first = operand.eval second) :
    execute first template = execute second template := by
  induction template with
  | nil => rfl
  | cons node rest ih =>
      rw [written, List.flatMap_cons] at h
      have hnode := Node.output_congr fun operand hmem => h operand (List.mem_append_left _ hmem)
      have hrest := ih fun operand hmem => h operand (List.mem_append_right _ hmem)
      rw [execute, execute, hnode, hrest]

end Agreement

/-!
# Payloads that a template does not name
-/

section Payloads

variable {first second : Table Json}

/-- Of an operand other than the root, only the payload that it names matters. -/
theorem Operand.eval_of_definition {operand : Operand} (hwell : operand.WellFormed)
    (hroot : operand ≠ .root)
    (h : forall name, operand.definition? = some name -> first.get? name = second.get? name) :
    operand.eval (.object first.entries) = operand.eval (.object second.entries) := by
  cases operand with
  | root => exact absurd rfl hroot
  | literal value => rfl
  | field names =>
      rcases List.exists_cons_of_ne_nil hwell.1 with ⟨name, others, rfl⟩
      have hpayload : Entries.find? name first.entries = Entries.find? name second.entries :=
        h name rfl
      rw [Operand.eval, Operand.eval, lookup, lookup, hpayload]

theorem execute_of_named {source : String} {template : Template}
    (hparse : parse source = .ok template) (hroot : .root ∉ written template)
    (h : forall name, name ∈ named template -> first.get? name = second.get? name) :
    execute (.object first.entries) template = execute (.object second.entries) template := by
  apply execute_congr
  intro operand hmem
  apply Operand.eval_of_definition (wellFormed_of_mem_written hparse hmem)
  · rintro rfl
    exact hroot hmem
  · intro name hname
    exact h name (List.mem_filterMap.mpr ⟨operand, hmem, hname⟩)

/-- A source that does not concern a definition is rendered alike whatever its payload is. -/
theorem render_of_not_concerns {changed source : String} (hsource : ¬ Concerns changed source)
    (h : forall name, name ≠ changed -> first.get? name = second.get? name) :
    render source (.object first.entries) = render source (.object second.entries) := by
  cases hparse : parse source with
  | error fault => rw [render_of_unparsed hparse, render_of_unparsed hparse]
  | ok template =>
      rw [render_of_parsed hparse, render_of_parsed hparse]
      congr 1
      apply execute_of_named hparse
      · intro hroot
        exact hsource ⟨template, hparse, .inl hroot⟩
      · intro name hname
        apply h
        rintro rfl
        exact hsource ⟨template, hparse, .inr hname⟩

end Payloads

end Template

namespace Document

open Projection

theorem renderFields_congr {first second : Json} {entries : List (String × String)}
    (h : forall entry, entry ∈ entries ->
      Template.render entry.2 first = Template.render entry.2 second) :
    renderFields first entries = renderFields second entries := by
  induction entries with
  | nil => rfl
  | cons head rest ih =>
      rcases head with ⟨key, source⟩
      have hhead : Template.render source first = Template.render source second :=
        h (key, source) List.mem_cons_self
      have hrest := ih fun entry hentry => h entry (List.mem_cons_of_mem _ hentry)
      rw [renderFields, renderFields, hhead, hrest]

theorem render_congr {output : OutputSpec} {first second : Table Json}
    (h : forall key source, output.stringData.get? key = some source ->
      Template.render source (.object first.entries) =
        Template.render source (.object second.entries)) :
    render output first = render output second := by
  have hfields : renderFields (.object first.entries) output.stringData.entries =
      renderFields (.object second.entries) output.stringData.entries := by
    apply renderFields_congr
    rintro ⟨key, source⟩ hentry
    exact h key source (Table.mem_entries_iff.mp hentry)
  rw [render, render, hfields]

/-- A template yields the same for all payloads of the definitions that it does not name, unless
the root stands alone in it.  So another payload of one definition changes only the fields whose
templates name the definition or have the root, and a rendering comes out differently only if
there is such a field. -/
theorem fields_depend_on_named_definitions :
    (forall (source : String) (template : Template) (first second : Table Json),
      Template.parse source = .ok template -> .root ∉ Template.written template ->
      (forall name, name ∈ Template.named template -> first.get? name = second.get? name) ->
      Template.execute (.object first.entries) template =
        Template.execute (.object second.entries) template) ∧
    forall (output : OutputSpec) (changed : String) (first second : Table Json),
      (forall name, name ≠ changed -> first.get? name = second.get? name) ->
      (forall key source, output.stringData.get? key = some source ->
        ¬ Template.Concerns changed source ->
        Template.render source (.object first.entries) =
          Template.render source (.object second.entries)) ∧
      (forall document other key,
        render output first = .ok document -> render output second = .ok other ->
        (forall source, output.stringData.get? key = some source ->
          ¬ Template.Concerns changed source) ->
        document.data.get? key = other.data.get? key) ∧
      (render output first ≠ render output second ->
        exists key source, output.stringData.get? key = some source ∧
          Template.Concerns changed source) := by
  constructor
  · intro source template first second hparse hroot h
    exact Template.execute_of_named hparse hroot h
  · intro output changed first second h
    refine ⟨?_, ?_, ?_⟩
    · intro key source _ hsource
      exact Template.render_of_not_concerns hsource h
    · intro document other key hdocument hother hkey
      rw [get?_data_of_render hdocument, get?_data_of_render hother]
      cases hsource : output.stringData.get? key with
      | none => rfl
      | some source =>
          rw [Option.bind_some, Option.bind_some,
            Template.render_of_not_concerns (hkey source hsource) h]
    · intro hne
      by_contra hnone
      apply hne
      apply render_congr
      intro key source hsource
      apply Template.render_of_not_concerns _ h
      intro hconcerns
      exact hnone ⟨key, source, hsource, hconcerns⟩

def noteSource : String := "\x7b\x7b .cfg.note | upper \x7d\x7d"

def urlSource : String := "\x7b\x7b .db.user \x7d\x7d@\x7b\x7b .net.host \x7d\x7d"

def noteAndUrl : OutputSpec where
  name := "app"
  type := "Opaque"
  stringData := .ofList [("note", noteSource), ("url", urlSource)]
  labels := .empty
  annotations := .empty

def payloads : Table Json :=
  .ofList [("cfg", .object [("note", .string "n")]), ("db", .object [("user", .string "ana")]),
    ("net", .object [("host", .string "old")])]

def movedHost : Table Json := payloads.insert "net" (.object [("host", .string "new")])

theorem moved_host_changes_url_only :
    Template.execute (.object payloads.entries)
        [.action [.operand (.field ["cfg", "note"]), .call .upper []]] =
      Template.execute (.object movedHost.entries)
        [.action [.operand (.field ["cfg", "note"]), .call .upper []]] ∧
    (exists document other, render noteAndUrl payloads = .ok document ∧
      render noteAndUrl movedHost = .ok other ∧
      document.data.get? "note" = other.data.get? "note" ∧
      document.data.get? "url" = some "ana@old" ∧ other.data.get? "url" = some "ana@new") ∧
    exists key source, noteAndUrl.stringData.get? key = some source ∧
      Template.Concerns "net" source := by
  have hnote : Template.parse noteSource =
      .ok [.action [.operand (.field ["cfg", "note"]), .call .upper []]] := by
    decide +kernel
  have hmoved : forall name, name ≠ "net" -> payloads.get? name = movedHost.get? name :=
    fun name hname => (Table.get?_insert_of_ne payloads hname _).symm
  have hurl : noteAndUrl.stringData.get? "url" = some urlSource := by decide +kernel
  refine ⟨?_, ?_, ?_⟩
  · apply fields_depend_on_named_definitions.1 noteSource _ _ _ hnote (by decide)
    intro name hname
    apply hmoved
    rintro rfl
    exact absurd hname (by decide)
  · have hbefore : (render noteAndUrl payloads).toOption.isSome = true := by decide +kernel
    have hafter : (render noteAndUrl movedHost).toOption.isSome = true := by decide +kernel
    rcases Option.isSome_iff_exists.mp hbefore with ⟨document, hdocument⟩
    rcases Option.isSome_iff_exists.mp hafter with ⟨other, hother⟩
    have hfirst := ok_of_toOption hdocument
    have hsecond := ok_of_toOption hother
    refine ⟨document, other, hfirst, hsecond, ?_, ?_, ?_⟩
    · apply (fields_depend_on_named_definitions.2 noteAndUrl "net" payloads movedHost hmoved).2.1
        document other "note" hfirst hsecond
      rintro source hsource ⟨template, hparse, hconcerns⟩
      have hfound : noteAndUrl.stringData.get? "note" = some noteSource := by decide +kernel
      cases hfound.symm.trans hsource
      cases hnote.symm.trans hparse
      exact absurd hconcerns (by decide)
    · rw [get?_data_of_render hfirst, hurl]
      decide +kernel
    · rw [get?_data_of_render hsecond, hurl]
      decide +kernel
  · apply (fields_depend_on_named_definitions.2 noteAndUrl "net" payloads movedHost hmoved).2.2
    intro heq
    have hsame := congrArg
      (fun result => result.toOption.bind fun document => document.data.get? "url") heq
    exact absurd hsame (by decide +kernel)

end Document

end SecretProjection
