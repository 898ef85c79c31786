import SecretProjection.Proofs.Masking
import SecretProjection.Proofs.Stops

/-!
# What template faults disclose

Two payloads that differ below the mask only lead every chain of field names to values that
differ below the mask only, or to the same fault.  So the operands of a template fail alike.

For the functions this depends on the function.  The fault of most functions is settled by the
number of their arguments, but `index`, `b64dec` and `printf` word their faults after what they
were given, and these three are the functions that can disclose something.
-/

namespace SecretProjection

namespace Template

open Json

/-!
# Operands
-/

theorem getD_mask (value : Option Json) :
    (value.map mask).getD .null = (value.getD .null).mask := by
  cases value with
  | none => rfl
  | some value => rfl

theorem lookup_mask (names : List String) (value : Json) :
    lookup names value.mask = (lookup names value).map mask := by
  induction names generalizing value with
  | nil => rfl
  | cons name names ih =>
      cases value with
      | object members =>
          simp only [mask, lookup, find?_maskMembers, getD_mask]
          exact ih _
      | null => exact ih .null
      | bool b => rfl
      | number n => rfl
      | string text => rfl
      | array items => rfl

variable {first second : Json}

theorem Operand.map_mask_eval (h : first.mask = second.mask) (operand : Operand) :
    (operand.eval first).map mask = (operand.eval second).map mask := by
  cases operand with
  | root =>
      change Except.ok first.mask = Except.ok second.mask
      rw [h]
  | field names =>
      change (lookup names first).map mask = (lookup names second).map mask
      rw [← lookup_mask, ← lookup_mask, h]
  | literal value => rfl

theorem map_mask_evalOperands (h : first.mask = second.mask) (operands : List Operand) :
    (evalOperands first operands).map (List.map mask) =
      (evalOperands second operands).map (List.map mask) := by
  induction operands with
  | nil => rfl
  | cons operand rest ih =>
      have hoperand := operand.map_mask_eval h
      cases hfirst : operand.eval first with
      | error fault =>
          have hsecond := eq_error_of_map_eq hoperand hfirst
          simp only [evalOperands, hfirst, hsecond]
      | ok value =>
          rcases exists_ok_of_map_eq hoperand hfirst with ⟨other, hsecond, hmask⟩
          simp only [evalOperands, hfirst, hsecond]
          cases hrest : evalOperands first rest with
          | error fault =>
              rw [eq_error_of_map_eq ih hrest]
              rfl
          | ok values =>
              rcases exists_ok_of_map_eq ih hrest with ⟨others, hothers, hmasks⟩
              rw [hothers]
              simp [Except.map, hmask, hmasks]

/-!
# Functions
-/

/-- Whether the faults of a function are worded after its arguments. -/
def Function.discloses : Function -> Bool
  | .index | .b64dec | .printf => true
  | _ => false

theorem printable_eq_error {value : Json} {fault : EvalFault}
    (h : printable value = .error fault) : fault = .noValue := by
  cases value with
  | null =>
      cases h
      rfl
  | bool b => cases h
  | number n => cases h
  | string text => cases h
  | array items => cases h
  | object members => cases h

/-- A function of one text that cannot fail itself. -/
theorem onText_eq_error {function : Function} {arguments : List Json}
    {f : String -> Except EvalFault String} {fault : EvalFault}
    (hf : forall text, exists output, f text = .ok output)
    (h : onText function arguments f = .error fault) :
    fault = if arguments.length = 1 then .noValue
      else .wrongArguments function 1 arguments.length := by
  rcases arguments with _ | ⟨argument, _ | ⟨other, rest⟩⟩
  · cases h
    rfl
  · simp only [onText] at h
    cases hprint : printable argument with
    | error reason =>
        rw [hprint] at h
        cases h
        exact printable_eq_error hprint
    | ok text =>
        rcases hf text with ⟨output, houtput⟩
        rw [hprint] at h
        simp only [houtput] at h
        cases h
  · cases h
    rfl

/-- The fault of a function that does not disclose anything, by the number of its arguments. -/
def Function.plainFault (function : Function) (count : Nat) : EvalFault :=
  match function with
  | .default => .wrongArguments .default 2 count
  | .toJson => .wrongArguments .toJson 1 count
  | _ => if count = 1 then .noValue else .wrongArguments function 1 count

theorem Function.apply_eq_error {function : Function} {arguments : List Json}
    {fault : EvalFault} (hplain : function.discloses = false)
    (h : function.apply arguments = .error fault) :
    fault = function.plainFault arguments.length := by
  cases function with
  | index => cases hplain
  | b64dec => cases hplain
  | printf => cases hplain
  | default =>
      rcases arguments with _ | ⟨fallback, _ | ⟨given, _ | ⟨other, rest⟩⟩⟩ <;> cases h <;> rfl
  | toJson => rcases arguments with _ | ⟨argument, _ | ⟨other, rest⟩⟩ <;> cases h <;> rfl
  | b64enc => exact onText_eq_error (fun _ => ⟨_, rfl⟩) h
  | upper => exact onText_eq_error (fun _ => ⟨_, rfl⟩) h
  | lower => exact onText_eq_error (fun _ => ⟨_, rfl⟩) h
  | trim => exact onText_eq_error (fun _ => ⟨_, rfl⟩) h
  | quote => exact onText_eq_error (fun _ => ⟨_, rfl⟩) h

/-- A spelling of one symbol outside the alphabet. -/
theorem apply_b64dec_of_encode {spelling : String} {byte : UInt8}
    (hencode : Text.Utf8.encode spelling = [byte]) (hpad : (byte != Text.Base64.pad) = true)
    (hvalue : Text.Base64.value? byte = none) :
    Function.apply .b64dec [.string spelling] = .error (.badEncoding (.badSymbol byte 0)) := by
  simp [Function.apply, onText, printable, decodeBase64, hencode, Text.Base64.decode, hpad, hvalue,
    Except.map]

/-- The functions that disclose are those whose faults can differ on arguments that differ below
the mask only. -/
theorem Function.discloses_iff {function : Function} :
    function.discloses = true <->
      exists arguments others fault reason,
        arguments.map mask = others.map mask ∧
        function.apply arguments = .error fault ∧ function.apply others = .error reason ∧
        fault.message ≠ reason.message := by
  constructor
  · intro h
    cases function with
    | index =>
        exact ⟨[.object [("a", .bool true), ("b", .array [])], .string "a", .null],
          [.object [("a", .bool true), ("b", .array [])], .string "b", .null],
          .notIndexable "bool" "nil", .notIndexable "array" "nil", rfl, rfl, rfl,
          by decide +kernel⟩
    | b64dec =>
        exact ⟨[.string "!"], [.string "?"], .badEncoding (.badSymbol 33 0),
          .badEncoding (.badSymbol 63 0), rfl,
          apply_b64dec_of_encode (by decide +kernel) rfl rfl,
          apply_b64dec_of_encode (by decide +kernel) rfl rfl,
          by decide +kernel⟩
    | printf =>
        exact ⟨[.string "%d", .string "x"], [.string "%d", .string "y"],
          .notAnInteger (.string "x"), .notAnInteger (.string "y"), rfl, rfl, rfl,
          by decide +kernel⟩
    | default => cases h
    | b64enc => cases h
    | upper => cases h
    | lower => cases h
    | trim => cases h
    | quote => cases h
    | toJson => cases h
  · intro h
    rcases h with ⟨arguments, others, fault, reason, hmask, hfault, hreason, hne⟩
    cases hplain : function.discloses with
    | true => rfl
    | false =>
        have hlength : arguments.length = others.length := by
          simpa using congrArg List.length hmask
        have heq : fault = reason := by
          rw [apply_eq_error hplain hfault, apply_eq_error hplain hreason, hlength]
        exact absurd (congrArg EvalFault.message heq) hne

/-!
# Runs side by side

Up to the place where both of them stop, two runs pass the same stages with values that may have
come apart: `default` looks at the characters of a string.  What they still have in common is the
number of values that are passed on.
-/

/-- Whether a function that discloses is called at a spot. -/
def Spot.discloses : Spot -> Bool
  | .stage _ function => function.any Function.discloses
  | .printing => false

/-- Whether a function that discloses is called at a place. -/
def Place.discloses : Place -> Bool
  | .parsing => false
  | .piece _ spot => spot.discloses

theorem Command.fault_eq {command : Command} {piped others : List Json}
    {fault reason : EvalFault} (h : first.mask = second.mask)
    (hlength : piped.length = others.length)
    (hplain : command.function?.any Function.discloses = false)
    (hfault : command.eval first piped = .error fault)
    (hreason : command.eval second others = .error reason) : fault = reason := by
  cases command with
  | operand operand =>
      have hsecond := eq_error_of_map_eq (operand.map_mask_eval h) hfault
      have heq : Except.error reason = Except.error fault := hreason.symm.trans hsecond
      cases heq
      rfl
  | call function operands =>
      have hoperands := map_mask_evalOperands h operands
      cases hfirst : evalOperands first operands with
      | error stop =>
          have hsecond := eq_error_of_map_eq hoperands hfirst
          simp only [Command.eval, hfirst] at hfault
          simp only [Command.eval, hsecond] at hreason
          cases hfault
          cases hreason
          rfl
      | ok values =>
          rcases exists_ok_of_map_eq hoperands hfirst with ⟨results, hsecond, hmasks⟩
          have hcount : values.length = results.length := by
            simpa using congrArg List.length hmasks
          simp only [Command.eval, hfirst] at hfault
          simp only [Command.eval, hsecond] at hreason
          have harguments : (values ++ piped).length = (results ++ others).length := by
            rw [List.length_append, List.length_append, hcount, hlength]
          rw [Function.apply_eq_error hplain hfault, Function.apply_eq_error hplain hreason,
            harguments]

theorem PipelineStops.fault_eq {piped others : List Json} {commands : List Command}
    {index : Nat} {function : Option Function} {fault reason : EvalFault}
    (h : first.mask = second.mask) (hlength : piped.length = others.length)
    (hplain : function.any Function.discloses = false)
    (hfault : PipelineStops first piped commands index function fault)
    (hreason : PipelineStops second others commands index function reason) :
    fault = reason := by
  induction hfault generalizing others with
  | empty =>
      cases hreason
      rfl
  | here hfirst =>
      cases hreason with
      | here hsecond => exact Command.fault_eq h hlength hplain hfirst hsecond
  | next _ _ ih =>
      cases hreason with
      | next _ hrest =>
          refine ih ?_ hplain hrest
          rfl

theorem Stops.fault_eq {template : Template} {index : Nat} {spot : Spot}
    {fault reason : EvalFault} (h : first.mask = second.mask) (hplain : spot.discloses = false)
    (hfault : Stops first template index spot fault)
    (hreason : Stops second template index spot reason) : fault = reason := by
  induction hfault with
  | stage hfirst =>
      cases hreason with
      | stage hsecond => exact hfirst.fault_eq h rfl hplain hsecond
  | printing _ hfirst =>
      cases hreason with
      | printing _ hsecond => rw [printable_eq_error hfirst, printable_eq_error hsecond]
  | next _ _ ih =>
      cases hreason with
      | next _ hrest => exact ih hplain hrest

theorem SourceStops.fault_eq {source : String} {place : Place} {fault reason : Fault}
    (h : first.mask = second.mask) (hplain : place.discloses = false)
    (hfault : SourceStops first source place fault)
    (hreason : SourceStops second source place reason) : fault = reason := by
  cases hfault with
  | parsing hfirst =>
      cases hreason with
      | parsing hsecond =>
          rw [hfirst] at hsecond
          cases hsecond
          rfl
  | piece hfirst hstops =>
      cases hreason with
      | piece hsecond hothers =>
          rw [hfirst] at hsecond
          cases hsecond
          rw [hstops.fault_eq h hplain hothers]

end Template

namespace Document

open Template

/-- Two documents that stop at the same place, where nothing is disclosed, stop with the same
fault. -/
theorem FieldStops.fault_eq {first second : Json} {entries : List (String × String)}
    {key : String} {place : Place} {fault reason : SecretProjection.Fault}
    (h : first.mask = second.mask) (hnodup : (entries.map (·.1)).Nodup)
    (hplain : place.discloses = false) (hfault : FieldStops first entries key place fault)
    (hreason : FieldStops second entries key place reason) : fault = reason := by
  induction hfault with
  | here hfirst =>
      cases hreason with
      | here hsecond => rw [hfirst.fault_eq h hplain hsecond]
      -- A field of the same name further on would repeat the key.
      | next _ hrest => exact absurd hrest.mem_keys (List.nodup_cons.mp hnodup).1
  | next _ hstops ih =>
      cases hreason with
      | here _ => exact absurd hstops.mem_keys (List.nodup_cons.mp hnodup).1
      | next _ hrest => exact ih (List.nodup_cons.mp hnodup).2 hplain hrest

end Document

end SecretProjection
