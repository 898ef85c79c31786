import SecretProjection.Proofs.Rendering

/-!
# Where a rendering stops

A document that cannot be rendered stops at the first field that fails, a field at the first
piece of its template, and a piece at a stage of its pipeline or at the printing of the value.
The relations below tell the place together with the fault.  Everything before the place has
succeeded, so that there is a place exactly when there is a fault.
-/

namespace SecretProjection

namespace Template

/-!
# Places
-/

inductive Spot where
  /-- At a stage of the pipeline, with the function that is called there. -/
  | stage (index : Nat) (function : Option Function)
  /-- Behind the pipeline, when its value has no printable form. -/
  | printing
  deriving DecidableEq, Repr

inductive Place where
  | parsing
  | piece (index : Nat) (spot : Spot)
  deriving DecidableEq, Repr

def Command.function? : Command -> Option Function
  | .operand _ => none
  | .call function _ => some function

section Relations

variable (root : Json)

inductive PipelineStops :
    List Json -> List Command -> Nat -> Option Function -> EvalFault -> Prop where
  | empty : PipelineStops [] [] 0 none .emptyPipeline
  | here {piped : List Json} {command : Command} {rest : List Command} {fault : EvalFault} :
      command.eval root piped = .error fault ->
      PipelineStops piped (command :: rest) 0 command.function? fault
  | next {piped : List Json} {command : Command} {rest : List Command} {value : Json}
      {index : Nat} {function : Option Function} {fault : EvalFault} :
      command.eval root piped = .ok value ->
      PipelineStops [value] rest index function fault ->
      PipelineStops piped (command :: rest) (index + 1) function fault

inductive Stops : Template -> Nat -> Spot -> EvalFault -> Prop where
  | stage {commands : List Command} {rest : Template} {index : Nat}
      {function : Option Function} {fault : EvalFault} :
      PipelineStops root [] commands index function fault ->
      Stops (.action commands :: rest) 0 (.stage index function) fault
  | printing {commands : List Command} {rest : Template} {value : Json} {fault : EvalFault} :
      evalPipeline root [] commands = .ok value ->
      printable value = .error fault ->
      Stops (.action commands :: rest) 0 .printing fault
  | next {node : Node} {rest : Template} {text : String} {index : Nat} {spot : Spot}
      {fault : EvalFault} :
      node.output root = .ok text ->
      Stops rest index spot fault ->
      Stops (node :: rest) (index + 1) spot fault

inductive SourceStops (source : String) : Place -> Fault -> Prop where
  | parsing {fault : ParseFault} :
      parse source = .error fault ->
      SourceStops source .parsing (.parse fault)
  | piece {template : Template} {index : Nat} {spot : Spot} {fault : EvalFault} :
      parse source = .ok template ->
      Stops root template index spot fault ->
      SourceStops source (.piece index spot) (.execute fault)

end Relations

/-!
# Faults and places
-/

variable {root : Json}

theorem evalPipeline_cons_of_error {piped : List Json} {command : Command}
    {rest : List Command} {fault : EvalFault} (h : command.eval root piped = .error fault) :
    evalPipeline root piped (command :: rest) = .error fault := by
  simp only [evalPipeline, h]

theorem evalPipeline_cons_of_ok {piped : List Json} {command : Command} {rest : List Command}
    {value : Json} (h : command.eval root piped = .ok value) :
    evalPipeline root piped (command :: rest) = evalPipeline root [value] rest := by
  simp only [evalPipeline, h]

theorem evalPipeline_eq_error {piped : List Json} {commands : List Command}
    {fault : EvalFault} :
    evalPipeline root piped commands = .error fault <->
      exists index function, PipelineStops root piped commands index function fault := by
  constructor
  · intro h
    induction commands generalizing piped with
    | nil =>
        cases piped with
        | nil =>
            cases h
            exact ⟨0, none, .empty⟩
        | cons value _ => cases h
    | cons command rest ih =>
        cases hcommand : command.eval root piped with
        | error reason =>
            rw [evalPipeline_cons_of_error hcommand] at h
            cases h
            exact ⟨0, command.function?, .here hcommand⟩
        | ok value =>
            rw [evalPipeline_cons_of_ok hcommand] at h
            rcases ih h with ⟨index, function, hstops⟩
            exact ⟨index + 1, function, .next hcommand hstops⟩
  · intro h
    rcases h with ⟨index, function, hstops⟩
    induction hstops with
    | empty => rfl
    | here hcommand => exact evalPipeline_cons_of_error hcommand
    | next hcommand _ ih =>
        rw [evalPipeline_cons_of_ok hcommand]
        exact ih

theorem output_action_of_error {commands : List Command} {fault : EvalFault}
    (h : evalPipeline root [] commands = .error fault) :
    (Node.action commands).output root = .error fault := by
  simp only [Node.output, h]

theorem output_action_of_ok {commands : List Command} {value : Json}
    (h : evalPipeline root [] commands = .ok value) :
    (Node.action commands).output root = printable value := by
  simp only [Node.output, h]

theorem execute_cons_of_error {node : Node} {rest : Template} {fault : EvalFault}
    (h : node.output root = .error fault) : execute root (node :: rest) = .error fault := by
  simp only [execute, h]

theorem execute_cons_of_ok {node : Node} {rest : Template} {text : String}
    (h : node.output root = .ok text) :
    execute root (node :: rest) = (execute root rest).map (text ++ ·) := by
  simp only [execute, h]

/-- A piece that fails is an action that stops in its pipeline or behind it. -/
theorem stops_of_output {node : Node} {rest : Template} {fault : EvalFault}
    (h : node.output root = .error fault) :
    exists spot, Stops root (node :: rest) 0 spot fault := by
  cases node with
  | text literal => cases h
  | action commands =>
      cases hvalue : evalPipeline root [] commands with
      | error reason =>
          rw [output_action_of_error hvalue] at h
          cases h
          rcases evalPipeline_eq_error.mp hvalue with ⟨index, function, hstops⟩
          exact ⟨.stage index function, .stage hstops⟩
      | ok value =>
          rw [output_action_of_ok hvalue] at h
          exact ⟨.printing, .printing hvalue h⟩

theorem execute_eq_error {template : Template} {fault : EvalFault} :
    execute root template = .error fault <->
      exists index spot, Stops root template index spot fault := by
  constructor
  · intro h
    induction template with
    | nil => cases h
    | cons node rest ih =>
        cases hnode : node.output root with
        | error reason =>
            rw [execute_cons_of_error hnode] at h
            cases h
            rcases stops_of_output hnode with ⟨spot, hstops⟩
            exact ⟨0, spot, hstops⟩
        | ok text =>
            rw [execute_cons_of_ok hnode] at h
            cases hrest : execute root rest with
            | error reason =>
                rw [hrest] at h
                cases h
                rcases ih hrest with ⟨index, spot, hstops⟩
                exact ⟨index + 1, spot, .next hnode hstops⟩
            | ok others =>
                rw [hrest] at h
                cases h
  · intro h
    rcases h with ⟨index, spot, hstops⟩
    induction hstops with
    | stage hpipeline =>
        have hvalue := evalPipeline_eq_error.mpr ⟨_, _, hpipeline⟩
        exact execute_cons_of_error (output_action_of_error hvalue)
    | printing hvalue hprint =>
        apply execute_cons_of_error
        rw [output_action_of_ok hvalue]
        exact hprint
    | next hnode _ ih =>
        rw [execute_cons_of_ok hnode, ih]
        rfl

theorem render_of_unparsed {source : String} {fault : ParseFault}
    (h : parse source = .error fault) : render source root = .error (.parse fault) := by
  simp only [render, h]

theorem render_of_parsed {source : String} {template : Template}
    (h : parse source = .ok template) :
    render source root = (execute root template).mapError .execute := by
  simp only [render, h]
  cases execute root template with
  | error fault => rfl
  | ok text => rfl

theorem render_eq_error {source : String} {fault : Fault} :
    render source root = .error fault <->
      exists place, SourceStops root source place fault := by
  constructor
  · intro h
    cases hparse : parse source with
    | error reason =>
        rw [render_of_unparsed hparse] at h
        cases h
        exact ⟨.parsing, .parsing hparse⟩
    | ok template =>
        rw [render_of_parsed hparse] at h
        cases hexecute : execute root template with
        | error reason =>
            rw [hexecute] at h
            cases h
            rcases execute_eq_error.mp hexecute with ⟨index, spot, hstops⟩
            exact ⟨.piece index spot, .piece hparse hstops⟩
        | ok text =>
            rw [hexecute] at h
            cases h
  · intro h
    rcases h with ⟨place, hstops⟩
    cases hstops with
    | parsing hparse => exact render_of_unparsed hparse
    | piece hparse hpiece =>
        rw [render_of_parsed hparse, execute_eq_error.mpr ⟨_, _, hpiece⟩]
        rfl

end Template

namespace Document

open Template

/-- A document stops at a field, and there at a place. -/
inductive FieldStops (root : Json) :
    List (String × String) -> String -> Place -> SecretProjection.Fault -> Prop where
  | here {key source : String} {rest : List (String × String)} {place : Place}
      {fault : Template.Fault} :
      SourceStops root source place fault ->
      FieldStops root ((key, source) :: rest) key place (fieldFault key fault)
  | next {other source text key : String} {rest : List (String × String)} {place : Place}
      {fault : SecretProjection.Fault} :
      Template.render source root = .ok text ->
      FieldStops root rest key place fault ->
      FieldStops root ((other, source) :: rest) key place fault

variable {root : Json}

theorem renderFields_eq_error {entries : List (String × String)}
    {fault : SecretProjection.Fault} :
    renderFields root entries = .error fault <->
      exists key place, FieldStops root entries key place fault := by
  constructor
  · intro h
    induction entries with
    | nil => cases h
    | cons head rest ih =>
        rcases head with ⟨key, source⟩
        cases hfield : Template.render source root with
        | error reason =>
            rw [renderFields_cons_of_error hfield] at h
            cases h
            rcases render_eq_error.mp hfield with ⟨place, hstops⟩
            exact ⟨key, place, .here hstops⟩
        | ok text =>
            rw [renderFields_cons_of_ok hfield] at h
            cases hrest : renderFields root rest with
            | error reason =>
                rw [hrest] at h
                cases h
                rcases ih hrest with ⟨other, place, hstops⟩
                exact ⟨other, place, .next hfield hstops⟩
            | ok others =>
                rw [hrest] at h
                cases h
  · intro h
    rcases h with ⟨key, place, hstops⟩
    induction hstops with
    | here hsource => exact renderFields_cons_of_error (render_eq_error.mpr ⟨_, hsource⟩)
    | next hfield _ ih =>
        rw [renderFields_cons_of_ok hfield, ih]
        rfl

theorem FieldStops.mem_keys {entries : List (String × String)} {key : String} {place : Place}
    {fault : SecretProjection.Fault} (h : FieldStops root entries key place fault) :
    key ∈ entries.map (·.1) := by
  induction h with
  | here _ => exact List.mem_cons_self
  | next _ _ ih => exact List.mem_cons_of_mem _ ih

theorem FieldStops.kind_eq {entries : List (String × String)} {key : String} {place : Place}
    {fault : SecretProjection.Fault} (h : FieldStops root entries key place fault) :
    fault.kind = .template := by
  induction h with
  | here _ => rfl
  | next _ _ ih => exact ih

theorem render_eq_error {output : Projection.OutputSpec} {merged : Table Json}
    {fault : SecretProjection.Fault} :
    render output merged = .error fault <->
      exists key place,
        FieldStops (.object merged.entries) output.stringData.entries key place fault := by
  rw [← renderFields_eq_error]
  unfold render
  cases renderFields (.object merged.entries) output.stringData.entries with
  | error reason => simp
  | ok fields => simp

end Document

end SecretProjection
