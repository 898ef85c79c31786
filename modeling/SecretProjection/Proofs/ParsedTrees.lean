import SecretProjection.Proofs.CanonicalSource
import SecretProjection.Proofs.Results

/-!
# What is read is well formed

The reader builds well-formed pipelines only: a chain has at least one name and its names are
identifiers, an integer fits 64 bits, a pipeline has at least one command, and all of its commands
but the first are calls.
-/

namespace SecretProjection

namespace Template

/-!
# Operands
-/

theorem splitAt_ne_nil (separator : Char) (chars : List Char) : splitAt separator chars ≠ [] := by
  cases chars with
  | nil => exact List.cons_ne_nil _ _
  | cons c rest =>
      rw [splitAt]
      split
      · exact List.cons_ne_nil _ _
      · split <;> exact List.cons_ne_nil _ _

theorem bounds_of_integer? {word : List Char} {n : Int} (h : integer? word = some n) :
    -2 ^ 63 ≤ n ∧ n < 2 ^ 63 := by
  have hbounded : forall {m : Option Nat} {f : Nat -> Int},
      (m.bind fun k =>
        if -Int.pow 2 63 ≤ f k ∧ f k < Int.pow 2 63 then some (f k) else none) = some n ->
      -2 ^ 63 ≤ n ∧ n < 2 ^ 63 := by
    intro m f hread
    rcases Option.bind_eq_some_iff.mp hread with ⟨k, _, hk⟩
    split at hk
    · rename_i hrange
      cases hk
      exact hrange
    · cases hk
  unfold integer? at h
  split at h <;> exact hbounded h

theorem Operand.wellFormed_of_ofWord {word : String} {operand : Operand}
    (h : Operand.ofWord word = .ok operand) : operand.WellFormed := by
  unfold Operand.ofWord at h
  split_ifs at h
  · cases h
    trivial
  · cases h
    trivial
  · cases h
    trivial
  · cases h
    trivial
  · split at h
    · rename_i chain _
      simp only at h
      split_ifs at h with hnames
      cases h
      refine ⟨?_, ?_⟩
      · simpa using splitAt_ne_nil '.' chain
      · intro name hname
        rcases List.mem_map.mp hname with ⟨part, hpart, rfl⟩
        rw [String.toList_ofList]
        exact List.all_eq_true.mp hnames part hpart
    · split at h
      · rename_i n hread
        cases h
        exact bounds_of_integer? hread
      · cases h

theorem Operand.wellFormed_of_ofToken {token : Token} {operand : Operand}
    (h : Operand.ofToken token = .ok operand) : operand.WellFormed := by
  cases token with
  | string text =>
      cases h
      trivial
  | pipe => cases h
  | word word => exact Operand.wellFormed_of_ofWord h

theorem wellFormed_of_operands {tokens : List Token} {arguments : List Operand}
    (h : operands tokens = .ok arguments) :
    forall argument, argument ∈ arguments -> argument.WellFormed := by
  induction tokens generalizing arguments with
  | nil =>
      cases h
      simp
  | cons token rest ih =>
      rw [operands] at h
      cases htoken : Operand.ofToken token with
      | error fault =>
          rw [htoken] at h
          cases h
      | ok operand =>
          rw [htoken] at h
          rcases map_eq_ok_iff.mp h with ⟨others, hrest, rfl⟩
          intro argument hmem
          rcases List.mem_cons.mp hmem with rfl | hmem
          · exact Operand.wellFormed_of_ofToken htoken
          · exact ih hrest argument hmem

/-!
# Pipelines
-/

theorem Command.wellFormed_of_ofTokens {body : String} {tokens : List Token} {command : Command}
    (h : Command.ofTokens body tokens = .ok command) : command.WellFormed := by
  cases tokens with
  | nil => cases h
  | cons first rest =>
      rw [Command.ofTokens] at h
      split at h
      · split at h
        · cases h
        · rcases map_eq_ok_iff.mp h with ⟨arguments, hrest, rfl⟩
          exact wellFormed_of_operands hrest
      · split_ifs at h
        rcases map_eq_ok_iff.mp h with ⟨operand, hfirst, rfl⟩
        exact Operand.wellFormed_of_ofToken hfirst

theorem wellFormed_of_commands {body : String} {rows : List (List Token)}
    {pipeline : List Command} (h : commands body rows = .ok pipeline) :
    pipeline.length = rows.length ∧
      forall command, command ∈ pipeline -> command.WellFormed := by
  induction rows generalizing pipeline with
  | nil =>
      cases h
      simp
  | cons row rest ih =>
      rw [commands] at h
      cases hrow : Command.ofTokens body row with
      | error fault =>
          rw [hrow] at h
          cases h
      | ok command =>
          rw [hrow] at h
          rcases map_eq_ok_iff.mp h with ⟨others, hrest, rfl⟩
          rcases ih hrest with ⟨hlength, hothers⟩
          refine ⟨by rw [List.length_cons, List.length_cons, hlength], ?_⟩
          intro other hmem
          rcases List.mem_cons.mp hmem with rfl | hmem
          · exact Command.wellFormed_of_ofTokens hrow
          · exact hothers other hmem

theorem stages_ne_nil (tokens : List Token) : stages tokens ≠ [] := by
  fun_cases stages tokens <;> exact List.cons_ne_nil _ _

theorem wellFormedPipeline_of_pipeline {chars : List Char} {found : List Command}
    (h : pipeline chars = .ok found) : WellFormedPipeline found := by
  unfold pipeline at h
  split_ifs at h
  simp only at h
  split at h
  · cases h
  · rename_i tokens _
    split at h
    · cases h
    · rename_i read hread
      split_ifs at h with hcalls
      cases h
      rcases wellFormed_of_commands hread with ⟨hlength, hcommands⟩
      refine ⟨?_, hcommands, ?_⟩
      · rintro rfl
        exact stages_ne_nil tokens (List.length_eq_zero_iff.mp hlength.symm)
      · rw [← List.drop_one]
        exact List.all_eq_true.mp hcalls

/-!
# Templates
-/

theorem action_not_mem_textNode (trimLeft trimRight : Bool) (text : List Char)
    (pipeline : List Command) : Node.action pipeline ∉ textNode trimLeft trimRight text := by
  simp only [textNode]
  split_ifs <;> simp

theorem wellFormedPipeline_of_spanNode {span : Span} {nodes : List Node}
    {pipeline : List Command} (h : spanNode span = .ok nodes) (hmem : .action pipeline ∈ nodes) :
    WellFormedPipeline pipeline := by
  unfold spanNode at h
  split at h
  · cases h
    cases hmem
  · rename_i body _
    rcases map_eq_ok_iff.mp h with ⟨found, hread, rfl⟩
    cases List.mem_singleton.mp hmem
    exact wellFormedPipeline_of_pipeline hread

theorem wellFormedPipeline_of_parseFrom {trimNext : Bool} {source : List Char}
    {template : Template} {pipeline : List Command}
    (h : parseFrom trimNext source = .ok template) (hmem : .action pipeline ∈ template) :
    WellFormedPipeline pipeline := by
  fun_induction parseFrom trimNext source generalizing template with
  | case1 => cases h
  | case2 trimNext source hnext =>
      cases h
      exact absurd hmem (action_not_mem_textNode _ _ _ _)
  | case3 => cases h
  | case4 trimNext source text span rest hnext nodes hspan ih =>
      rcases map_eq_ok_iff.mp h with ⟨later, hrest, rfl⟩
      rcases List.mem_append.mp hmem with hmem | hmem
      · rcases List.mem_append.mp hmem with htext | hnodes
        · exact absurd htext (action_not_mem_textNode _ _ _ _)
        · exact wellFormedPipeline_of_spanNode hspan hnodes
      · exact ih hrest hmem

end Template

end SecretProjection
