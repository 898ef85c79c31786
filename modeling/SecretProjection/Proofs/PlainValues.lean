import SecretProjection.Proofs.NumberTexts
import SecretProjection.Proofs.ShapedTexts

/-!
# Plain values

A value that anything may stand for is read from its text as it was written if its integers have
64 bits, its floating point numbers are read back from their texts, and it nests no deeper than a
reader goes.
-/

namespace SecretProjection

namespace Json

/-- Values whose numbers are read back and that nest at most so deep. -/
inductive Plain : Nat -> Json -> Prop where
  | null {levels : Nat} : Plain levels .null
  | bool {levels : Nat} (b : Bool) : Plain levels (.bool b)
  | integer {levels : Nat} {n : Int} (hlow : -(2 ^ 63) ≤ n) (hhigh : n < 2 ^ 64) :
      Plain levels (.number (.integer n))
  | float {levels : Nat} {negative : Bool} {magnitude : Binary64}
      (h : FloatReadsBack negative magnitude) : Plain levels (.number (.float negative magnitude))
  | string {levels : Nat} (text : String) : Plain levels (.string text)
  | array {levels : Nat} {items : List Json} (h : forall item, item ∈ items -> Plain levels item) :
      Plain (levels + 1) (.array items)
  | object {levels : Nat} {members : List (String × Json)} (hordered : Entries.Ordered members)
      (h : forall member, member ∈ members -> Plain levels member.2) :
      Plain (levels + 1) (.object members)

/-- What a printed value starts with. -/
theorem Plain.opens {levels : Nat} {value : Json} (h : value.Plain levels) :
    exists c tail, print value = c :: tail ∧ Cursor.isJsonBlank c = false ∧ c ≠ ']' ∧
      (value ≠ .null -> c ≠ 'n') := by
  cases h with
  | null => exact ⟨_, _, rfl, by decide, by decide, fun h => absurd rfl h⟩
  | bool b =>
      cases b with
      | true => exact ⟨_, _, rfl, by decide, by decide, fun _ => by decide⟩
      | false => exact ⟨_, _, rfl, by decide, by decide, fun _ => by decide⟩
  | @integer _ n _ _ =>
      rcases print_ofInt_eq_cons n with ⟨c, tail, htext, hopens⟩
      exact ⟨c, tail, htext, hopens.not_blank, hopens.ne (by decide) (by decide),
        fun _ => hopens.ne (by decide) (by decide)⟩
  | float h =>
      rcases h.print_eq_cons with ⟨c, tail, htext, hopens⟩
      exact ⟨c, tail, htext, hopens.not_blank, hopens.ne (by decide) (by decide),
        fun _ => hopens.ne (by decide) (by decide)⟩
  | string text => exact ⟨_, _, rfl, by decide, by decide, fun _ => by decide⟩
  | array _ => exact ⟨_, _, rfl, by decide, by decide, fun _ => by decide⟩
  | object _ _ => exact ⟨_, _, rfl, by decide, by decide, fun _ => by decide⟩

/-- A value is read where it was printed, whatever follows it that does not go on with a number. -/
def ReadsItself (levels : Nat) (value : Json) : Prop :=
  forall fuel depth rest offset, (print value).length ≤ fuel -> levels < depth ->
    EndsNumber rest -> exists later,
      readValue .keep fuel depth ⟨print value ++ rest, offset⟩ = .ok (value, ⟨rest, later⟩)

section Readers

variable {levels : Nat}

theorem readItems_itemsText {items : List Json}
    (hplain : forall item, item ∈ items -> item.Plain levels)
    (hread : forall item, item ∈ items -> item.ReadsItself levels) (first : Bool)
    (done : List Json) (fuel depth : Nat) (rest : List Char) (offset : Nat)
    (hfuel : (itemsText first items).length < fuel) (hdepth : levels < depth) :
    exists later, readItems .keep fuel depth first done
        ⟨itemsText first items ++ ']' :: rest, offset⟩ =
      .ok (.array (done.reverse ++ items), ⟨rest, later⟩) := by
  induction items generalizing first done fuel offset with
  | nil =>
      cases fuel with
      | zero => omega
      | succ fuel =>
          rw [List.append_nil, itemsText, List.nil_append, readItems, nextItem_close]
          exact ⟨_, rfl⟩
  | cons item items ih =>
      rcases (hplain item List.mem_cons_self).opens with ⟨c, tail, htext, hblank, hclose, _⟩
      cases fuel with
      | zero => omega
      | succ fuel =>
          have hlength : 0 < (print item).length := by simp [htext]
          simp only [itemsText, List.length_append] at hfuel
          rcases nextItem_open first hblank hclose
            (tail ++ (itemsText false items ++ ']' :: rest)) offset with ⟨start, hnext⟩
          rcases hread item List.mem_cons_self fuel depth _ start (by omega) hdepth
            (endsNumber_itemsText items rest) with ⟨middle, hitem⟩
          rcases ih (fun other hmem => hplain other (List.mem_cons_of_mem _ hmem))
            (fun other hmem => hread other (List.mem_cons_of_mem _ hmem)) false (item :: done)
            fuel middle (by omega) with ⟨later, hrest⟩
          refine ⟨later, ?_⟩
          rw [htext, List.cons_append] at hitem
          rw [itemsText, htext, List.append_assoc, List.append_assoc, List.cons_append, readItems,
            hnext]
          simp only [hitem, hrest, List.reverse_cons, List.append_assoc, List.singleton_append]

theorem readMembers_membersText {members done : List (String × Json)}
    (hread : forall member, member ∈ members -> member.2.ReadsItself levels) (first : Bool)
    (hordered : Entries.Ordered (done ++ members)) (fuel depth : Nat) (rest : List Char)
    (offset : Nat) (hfuel : (membersText first members).length < fuel) (hdepth : levels < depth) :
    exists later, readMembers .keep fuel depth first done
        ⟨membersText first members ++ '\x7d' :: rest, offset⟩ =
      .ok (.object (done ++ members), ⟨rest, later⟩) := by
  induction members generalizing first done fuel offset with
  | nil =>
      cases fuel with
      | zero => omega
      | succ fuel =>
          rw [membersText, List.nil_append, List.append_nil, readMembers, nextKey_close]
          exact ⟨_, rfl⟩
  | cons member members ih =>
      rcases member with ⟨key, value⟩
      rcases Shape.insert_next hordered with ⟨hinsert, _, hnext⟩
      cases fuel with
      | zero => omega
      | succ fuel =>
          simp only [membersText, List.length_append, List.length_cons] at hfuel
          rcases readKey first key (print value ++ (membersText false members ++ '\x7d' :: rest))
            offset with ⟨here, behind, start, hstart, hkey, hcolon⟩
          have hvalueFuel : (print value).length ≤ fuel := by omega
          rcases hread (key, value) List.mem_cons_self fuel depth _ start hvalueFuel hdepth
            (endsNumber_membersText members rest) with ⟨middle, hvalue⟩
          rcases ih (fun other hmem => hread other (List.mem_cons_of_mem _ hmem)) false hnext fuel
            middle (by omega) with ⟨later, hrest⟩
          refine ⟨later, ?_⟩
          rw [membersText, List.append_assoc, List.append_assoc, List.cons_append,
            List.append_assoc, readMembers, hstart]
          simp only [hkey, hcolon, hvalue, hinsert, hrest, List.append_assoc,
            List.singleton_append]

/-- At least one step is taken to read a value. -/
theorem readsItself_of_step {value : Json} {c : Char} {tail : List Char}
    (htext : print value = c :: tail)
    (h : forall fuel depth rest offset, tail.length ≤ fuel -> levels < depth ->
      EndsNumber rest -> exists later,
        readValue .keep (fuel + 1) depth ⟨c :: (tail ++ rest), offset⟩ =
          .ok (value, ⟨rest, later⟩)) : value.ReadsItself levels := by
  intro fuel depth rest offset hfuel hdepth hrest
  rw [htext, List.length_cons] at hfuel
  cases fuel with
  | zero => omega
  | succ fuel =>
      rw [htext]
      exact h fuel depth rest offset (by omega) hdepth hrest

/-- Plain values are read as they were written. -/
theorem Plain.readsItself {value : Json} (h : value.Plain levels) :
    value.ReadsItself levels := by
  induction h with
  | null => exact readsItself_of_step rfl fun fuel depth rest offset _ _ _ =>
      readValue_null fuel depth rest offset
  | bool b =>
      cases b with
      | true => exact readsItself_of_step rfl fun fuel depth rest offset _ _ _ =>
          readValue_bool fuel depth true rest offset
      | false => exact readsItself_of_step rfl fun fuel depth rest offset _ _ _ =>
          readValue_bool fuel depth false rest offset
  | @integer _ n hlow hhigh =>
      rcases print_ofInt_eq_cons n with ⟨c, tail, htext, _⟩
      apply readsItself_of_step htext
      intro fuel depth rest offset _ _ hrest
      rw [← List.cons_append, ← htext]
      exact readValue_integer fuel depth hlow hhigh hrest offset
  | float h =>
      rcases h.print_eq_cons with ⟨c, tail, htext, _⟩
      apply readsItself_of_step htext
      intro fuel depth rest offset _ _ hrest
      rw [← List.cons_append, ← htext]
      exact h.readValue fuel depth hrest offset
  | string text => exact readsItself_of_step rfl fun fuel depth rest offset _ _ _ =>
      readValue_quote fuel depth text rest offset
  | @array levels items hitems ih =>
      have htext : print (.array items) = '[' :: (itemsText true items ++ [']']) := by
        rw [print, printItems_eq]
      apply readsItself_of_step htext
      intro fuel depth rest offset hfuel hdepth _
      rw [List.length_append, List.length_singleton] at hfuel
      rcases readItems_itemsText hitems ih true [] fuel (depth - 1) rest (offset + 1) (by omega)
        (by omega) with ⟨later, hread⟩
      refine ⟨later, ?_⟩
      rw [readValue, Cursor.skipBlank_cons (by decide)]
      simp only [checkDepth_of_lt (show 1 < depth by omega), List.append_assoc]
      exact hread
  | @object levels members hordered _ ih =>
      have htext : print (.object members) = '\x7b' :: (membersText true members ++ ['\x7d']) := by
        rw [print, printMembers_eq]
      have hstart : Entries.Ordered ([] ++ members) := hordered
      apply readsItself_of_step htext
      intro fuel depth rest offset hfuel hdepth _
      rw [List.length_append, List.length_singleton] at hfuel
      rcases readMembers_membersText ih true hstart fuel (depth - 1) rest (offset + 1) (by omega)
        (by omega) with ⟨later, hread⟩
      refine ⟨later, ?_⟩
      rw [readValue, Cursor.skipBlank_cons (by decide)]
      simp only [checkDepth_of_lt (show 1 < depth by omega), List.append_assoc]
      exact hread

/-- Where anything may stand, a plain value is read as it was written. -/
theorem Plain.readsAs_any {value : Json} (h : value.Plain levels) :
    Shape.any.ReadsAs levels (print value) value := by
  rcases h.opens with ⟨c, tail, htext, hblank, hclose, _⟩
  have hread := h.readsItself
  unfold ReadsItself at hread
  rw [htext] at hread ⊢
  apply Shape.ReadsAs.of_step hblank hclose
  intro fuel depth rest offset _ hdepth hrest
  rw [Shape.read, Cursor.skipBlank_cons hblank]
  apply hread _ depth rest offset _ hdepth hrest
  simp only [fuelFor, List.length_cons, List.length_append]
  omega

end Readers

end Json

end SecretProjection
