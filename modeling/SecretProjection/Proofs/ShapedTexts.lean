import Mathlib.Data.List.Forall2
import SecretProjection.Cluster.Client
import SecretProjection.Proofs.JsonTexts
import SecretProjection.Proofs.Records

/-!
# Texts read at shapes

At a shape, the text of a value is read as a value again, with the fields filled in that were left
out.  Each kind of shape is read if its parts are, so that the proofs follow the shapes from simple
values upwards.  The reader takes two steps for each character at most, and one more where a value
may be null; `levels` counts how deep the text nests.

What was read at the shape of a record is decoded to the record that was written.
-/

namespace SecretProjection

universe u

namespace Json

namespace Shape

/-!
## Simple values
-/

/-- The steps that a reader takes at a shape before it looks at the text. -/
def lead : Shape -> Nat
  | .nullable _ => 1
  | _ => 0

theorem lead_le_one (shape : Shape) : shape.lead ≤ 1 := by
  cases shape <;> simp [lead]

/-- At a shape, a text is read as a value, whatever follows it that does not go on with a number.
`levels` bounds how deep the text nests. -/
structure ReadsAs (shape : Shape) (levels : Nat) (text : List Char) (value : Json) : Prop where
  opens : exists c tail, text = c :: tail ∧ Cursor.isJsonBlank c = false ∧ c ≠ ']'
  read : forall fuel depth rest offset, 2 * text.length + shape.lead ≤ fuel + 1 ->
    levels < depth -> EndsNumber rest -> exists later,
      shape.read fuel depth ⟨text ++ rest, offset⟩ = .ok (value, ⟨rest, later⟩)

section Texts

variable {levels : Nat} {text : List Char} {value : Json}

/-- To read a text at least one step has to be taken. -/
theorem ReadsAs.of_step {shape : Shape} {c : Char} {tail : List Char}
    (hblank : Cursor.isJsonBlank c = false) (hclose : c ≠ ']')
    (h : forall fuel depth rest offset, 2 * tail.length + shape.lead ≤ fuel -> levels < depth ->
      EndsNumber rest -> exists later,
        shape.read (fuel + 1) depth ⟨c :: (tail ++ rest), offset⟩ = .ok (value, ⟨rest, later⟩)) :
    shape.ReadsAs levels (c :: tail) value := by
  refine ⟨⟨c, tail, rfl, hblank, hclose⟩, ?_⟩
  intro fuel depth rest offset hfuel hdepth hrest
  rw [List.length_cons] at hfuel
  cases fuel with
  | zero => omega
  | succ fuel => exact h fuel depth rest offset (by omega) hdepth hrest

theorem ReadsAs.read_of_le {shape : Shape} (h : shape.ReadsAs levels text value)
    {fuel depth : Nat} {rest : List Char} (offset : Nat) (hfuel : 2 * text.length ≤ fuel)
    (hdepth : levels < depth) (hrest : EndsNumber rest) :
    exists later, shape.read fuel depth ⟨text ++ rest, offset⟩ = .ok (value, ⟨rest, later⟩) := by
  have hlead := shape.lead_le_one
  exact h.read fuel depth rest offset (by omega) hdepth hrest

theorem ReadsAs.mono {shape : Shape} {higher : Nat} (h : shape.ReadsAs levels text value)
    (hlevels : levels ≤ higher) : shape.ReadsAs higher text value where
  opens := h.opens
  read fuel depth rest offset hfuel hdepth hrest :=
    h.read fuel depth rest offset hfuel (by omega) hrest

theorem readsAs_string (levels : Nat) (text : String) :
    string.ReadsAs levels (print (.string text)) (.string text) := by
  apply ReadsAs.of_step (by decide) (by decide)
  intro fuel depth rest offset _ _ _
  rcases readValue_quote 0 depth text rest offset with ⟨later, hread⟩
  refine ⟨later, ?_⟩
  rw [read]
  exact hread

theorem readsAs_boolean (levels : Nat) (b : Bool) :
    boolean.ReadsAs levels (print (.bool b)) (.bool b) := by
  cases b with
  | true =>
      apply ReadsAs.of_step (by decide) (by decide)
      intro fuel depth rest offset _ _ _
      rw [read]
      exact readValue_bool 0 depth true rest offset
  | false =>
      apply ReadsAs.of_step (by decide) (by decide)
      intro fuel depth rest offset _ _ _
      rw [read]
      exact readValue_bool 0 depth false rest offset

theorem readsAs_checked {check : String -> Except String Unit} (levels : Nat) (expected : String)
    {text : String} (h : check text = .ok ()) :
    (checked expected check).ReadsAs levels (print (.string text)) (.string text) := by
  apply ReadsAs.of_step (by decide) (by decide)
  intro fuel depth rest offset _ _ _
  rcases readString_escaped text rest (offset + 1) with ⟨later, hread⟩
  have hadvance : (⟨'"' :: (text.toList.flatMap escapeChar ++ ['"'] ++ rest), offset⟩ :
      Cursor).advance = ⟨text.toList.flatMap escapeChar ++ '"' :: rest, offset + 1⟩ := by
    rw [List.append_assoc]
    rfl
  refine ⟨later, ?_⟩
  rw [read, Cursor.skipBlank_cons (by decide)]
  simp only [hadvance, hread, h]

/-- An integer of 64 bits is read at a shape of integers that it fits. -/
theorem readsAs_integer {shape : Shape} {expected : String} {fits : Int -> Bool}
    (hshape : forall fuel depth cursor,
      shape.read (fuel + 1) depth cursor = readInteger expected fits cursor.skipBlank)
    (levels : Nat) {n : Int} (hlow : -(2 ^ 63) ≤ n) (hhigh : n < 2 ^ 64) (hfits : fits n = true) :
    shape.ReadsAs levels (print (.ofInt n)) (.ofInt n) := by
  rcases print_ofInt_eq_cons n with ⟨c, tail, htext, hopens⟩
  rw [htext]
  apply ReadsAs.of_step hopens.not_blank (hopens.ne (by decide) (by decide))
  intro fuel depth rest offset _ _ hrest
  rcases readInteger_print hlow hhigh hfits expected hrest offset with ⟨later, hread⟩
  refine ⟨later, ?_⟩
  rw [hshape, Cursor.skipBlank_cons hopens.not_blank, ← List.cons_append, ← htext]
  exact hread

theorem readsAs_unsigned (levels : Nat) {bits n : Nat} (hbits : bits ≤ 64)
    (hn : n < Nat.pow 2 bits) :
    (unsigned bits).ReadsAs levels (print (.ofNat n)) (.ofNat n) := by
  have hlimit : n < 2 ^ 64 := Nat.lt_of_lt_of_le hn (Nat.pow_le_pow_right (by decide) hbits)
  have hbound : (n : Int) < (2 : Int) ^ bits := by exact_mod_cast hn
  have hhigh : (n : Int) < 2 ^ 64 := by exact_mod_cast hlimit
  have hfits : (0 ≤ (n : Int) && (n : Int) < Int.pow 2 bits) = true := by simpa using hbound
  exact readsAs_integer (fun _ _ _ => by rw [read]) levels (by omega) hhigh hfits

theorem readsAs_signed (levels : Nat) {n : Int} (hlow : -(2 ^ 63) ≤ n) (hhigh : n < 2 ^ 63) :
    signed.ReadsAs levels (print (.ofInt n)) (.ofInt n) := by
  have hfits : (-Int.pow 2 63 ≤ n && n < Int.pow 2 63) = true := by
    have hbounds : -Int.pow 2 63 ≤ n ∧ n < Int.pow 2 63 := ⟨hlow, hhigh⟩
    simpa using hbounds
  exact readsAs_integer (fun _ _ _ => by rw [read]) levels hlow (by omega) hfits

theorem readsAs_null (inner : Shape) (levels : Nat) :
    (nullable inner).ReadsAs levels (print .null) .null := by
  apply ReadsAs.of_step (by decide) (by decide)
  intro fuel depth rest offset _ _ _
  rw [read]
  exact readValue_null 0 depth rest offset

/-- A text that does not start as a null is read at a shape whether or not it may be null. -/
theorem ReadsAs.nullable {inner : Shape} (h : inner.ReadsAs levels text value)
    (hlead : inner.lead = 0) (hpresent : text.head? ≠ some 'n') :
    (nullable inner).ReadsAs levels text value := by
  rcases h.opens with ⟨c, tail, rfl, hblank, hclose⟩
  have hnull : c ≠ 'n' := by
    rintro rfl
    exact hpresent rfl
  apply ReadsAs.of_step hblank hclose
  intro fuel depth rest offset hfuel hdepth hrest
  have hinner : 2 * (c :: tail).length + inner.lead ≤ fuel + 1 := by
    rw [hlead, List.length_cons]
    simp only [lead] at hfuel
    omega
  rcases h.read fuel depth rest offset hinner hdepth hrest with ⟨later, hread⟩
  refine ⟨later, ?_⟩
  rw [Shape.read, Cursor.skipBlank_cons hblank]
  split
  · rename_i hhead
    injection hhead with hc _
    exact absurd hc hnull
  · exact hread

/-!
## Lists
-/

theorem readList_itemsText {inner : Shape} {items values : List Json}
    (h : List.Forall₂ (fun item value => inner.ReadsAs levels (print item) value) items values)
    (first : Bool) (done : List Json) (fuel depth : Nat) (rest : List Char) (offset : Nat)
    (hfuel : 2 * (itemsText first items).length < fuel) (hdepth : levels < depth) :
    exists later, readList fuel depth inner first done
        ⟨itemsText first items ++ ']' :: rest, offset⟩ =
      .ok (.array (done.reverse ++ values), ⟨rest, later⟩) := by
  induction h generalizing first done fuel offset with
  | nil =>
      cases fuel with
      | zero => omega
      | succ fuel =>
          rw [List.append_nil, itemsText, List.nil_append, readList, nextItem_close]
          exact ⟨_, rfl⟩
  | @cons item value items values hitem _ ih =>
      rcases hitem.opens with ⟨c, tail, htext, hblank, hclose⟩
      cases fuel with
      | zero => omega
      | succ fuel =>
          have hlength : 0 < (print item).length := by simp [htext]
          simp only [itemsText, List.length_append] at hfuel
          rcases nextItem_open first hblank hclose
            (tail ++ (itemsText false items ++ ']' :: rest)) offset with ⟨start, hnext⟩
          have hvalue : 2 * (print item).length ≤ fuel := by omega
          rcases hitem.read_of_le start hvalue hdepth (endsNumber_itemsText items rest) with
            ⟨middle, hread⟩
          rcases ih false (value :: done) fuel middle (by omega) with ⟨later, hrest⟩
          refine ⟨later, ?_⟩
          rw [htext, List.cons_append] at hread
          rw [itemsText, htext, List.append_assoc, List.append_assoc, List.cons_append, readList,
            hnext]
          simp only [hread, hrest, List.reverse_cons, List.append_assoc, List.singleton_append]

theorem ReadsAs.list {inner : Shape} {items values : List Json}
    (h : List.Forall₂ (fun item value => inner.ReadsAs levels (print item) value) items values) :
    (list inner).ReadsAs (levels + 1) (print (.array items)) (.array values) := by
  rw [print, printItems_eq]
  apply ReadsAs.of_step (by decide) (by decide)
  intro fuel depth rest offset hfuel hdepth _
  rw [List.length_append, List.length_singleton] at hfuel
  rcases readList_itemsText h true [] fuel (depth - 1) rest (offset + 1) (by omega) (by omega) with
    ⟨later, hread⟩
  refine ⟨later, ?_⟩
  rw [Shape.read, Cursor.skipBlank_cons (by decide)]
  simp only [checkDepth_of_lt (show 1 < depth by omega), List.append_assoc]
  exact hread

/-!
## Members
-/

/-- The shape at which the value of a key is read. -/
def fieldAt : Shape -> String -> Option Shape
  | .table inner, _ => some inner
  | .strict _ fields, key => (fields.find? fun field => field.1 == key).map fun field => field.2.2
  | .loose _ fields, key => (fields.find? fun field => field.1 == key).map fun field => field.2
  | _, _ => none

/-- The shape at which the value of a key is read when it is not null, for a key whose value may be
null. -/
def optionalAt (record : Shape) (key : String) : Option Shape :=
  match record.fieldAt key with
  | some (.nullable inner) => if inner.lead = 0 then some inner else none
  | _ => none

theorem fieldAt_of_optionalAt {record inner : Shape} {key : String}
    (h : record.optionalAt key = some inner) :
    record.fieldAt key = some (.nullable inner) ∧ inner.lead = 0 := by
  unfold optionalAt at h
  split at h
  · rename_i found hfield
    split at h
    · rename_i hlead
      cases h
      exact ⟨hfield, hlead⟩
    · cases h
  · cases h

/-- A member is read at the shape of its key. -/
inductive MemberReadsAs (shape : Shape) (levels : Nat) :
    String × Json -> String × Json -> Prop where
  | mk {key : String} {written found : Json} {inner : Shape} :
      shape.fieldAt key = some inner -> inner.ReadsAs levels (print written) found ->
      MemberReadsAs shape levels (key, written) (key, found)

/-- The steps that lead over a member. -/
theorem readMember {inner : Shape} {written found : Json}
    (h : inner.ReadsAs levels (print written) found) (first : Bool) (key : String)
    (members : List (String × Json)) (fuel depth : Nat) (rest : List Char) (offset : Nat)
    (hfuel : 2 * (print written).length ≤ fuel) (hdepth : levels < depth) :
    exists here behind start later,
      nextKey .keep first
          ⟨membersText first ((key, written) :: members) ++ '\x7d' :: rest, offset⟩ =
        .ok (some here) ∧
        readString .keep here = .ok (key, behind) ∧ readColon behind = .ok start ∧
        inner.read fuel depth start =
          .ok (found, ⟨membersText false members ++ '\x7d' :: rest, later⟩) := by
  rcases readKey first key (print written ++ (membersText false members ++ '\x7d' :: rest))
    offset with ⟨here, behind, start, hstart, hkey, hcolon⟩
  rcases h.read_of_le start hfuel hdepth (endsNumber_membersText members rest) with
    ⟨later, hread⟩
  refine ⟨here, behind, _, later, ?_, hkey, hcolon, hread⟩
  rwa [membersText, List.append_assoc, List.append_assoc, List.cons_append, List.append_assoc]

/-- The members that were read so far lie below the next one, so that it is put behind them. -/
theorem insert_next {done values : List (String × Json)} {key : String} {found : Json}
    (h : Entries.Ordered (done ++ (key, found) :: values)) :
    Entries.insert key found done = done ++ [(key, found)] ∧
      Entries.find? key done = none ∧ Entries.Ordered (done ++ [(key, found)] ++ values) := by
  have hbelow : forall entry, entry ∈ done -> entry.1 < key := fun entry hmem =>
    (List.pairwise_append.mp h).2.2 entry hmem (key, found) List.mem_cons_self
  refine ⟨Entries.insert_of_forall_lt hbelow, ?_, by rwa [List.append_assoc]⟩
  cases hfound : Entries.find? key done with
  | none => rfl
  | some other =>
      rcases List.mem_map.mp (Entries.mem_keys_iff.mpr ⟨other, hfound⟩) with ⟨entry, hmem, hkey⟩
      have hlt := hbelow entry hmem
      rw [hkey] at hlt
      exact absurd hlt (String.lt_irrefl _)

/-- What a reader finds under the key of a field. -/
theorem find?_of_fieldAt {α : Type} {fields : List (String × α)} {key : String} {inner : Shape}
    (shapeOf : α -> Shape)
    (h : (fields.find? fun field => field.1 == key).map (fun field => shapeOf field.2) =
      some inner) :
    exists description, fields.find? (fun field => field.1 == key) = some (key, description) ∧
      shapeOf description = inner := by
  rcases Option.map_eq_some_iff.mp h with ⟨⟨name, description⟩, hfield, hshape⟩
  have hname : name = key := by simpa using List.find?_some hfield
  subst hname
  exact ⟨description, hfield, hshape⟩

/-!
### Tables
-/

theorem readTable_membersText {inner : Shape} {members values done : List (String × Json)}
    (h : List.Forall₂ (MemberReadsAs (.table inner) levels) members values) (first : Bool)
    (hordered : Entries.Ordered (done ++ values)) (fuel depth : Nat) (rest : List Char)
    (offset : Nat) (hfuel : 2 * (membersText first members).length < fuel)
    (hdepth : levels < depth) :
    exists later, readTable fuel depth inner first done
        ⟨membersText first members ++ '\x7d' :: rest, offset⟩ =
      .ok (.object (done ++ values), ⟨rest, later⟩) := by
  induction h generalizing first done fuel offset with
  | nil =>
      cases fuel with
      | zero => omega
      | succ fuel =>
          rw [membersText, List.nil_append, List.append_nil, readTable, nextKey_close]
          exact ⟨_, rfl⟩
  | @cons _ _ members values hmember _ ih =>
      rcases hmember with ⟨⟨⟩, hvalue⟩
      rcases insert_next hordered with ⟨hinsert, _, hnext⟩
      cases fuel with
      | zero => omega
      | succ fuel =>
          simp only [membersText, List.length_append, List.length_cons] at hfuel
          rcases readMember hvalue first _ members fuel depth rest offset (by omega) hdepth with
            ⟨here, behind, start, middle, hstart, hkey, hcolon, hread⟩
          rcases ih false hnext fuel middle (by omega) with ⟨later, hrest⟩
          refine ⟨later, ?_⟩
          rw [readTable, hstart]
          simp only [hkey, hcolon, hread, hinsert, hrest, List.append_assoc,
            List.singleton_append]

/-- Behind its opening brace, an object is read as its members are. -/
theorem ReadsAs.braced {shape : Shape} {members : List (String × Json)}
    (h : forall fuel depth rest offset, 2 * (membersText true members).length < fuel ->
      levels < depth -> exists later,
        shape.read (fuel + 1) (depth + 1)
            ⟨'\x7b' :: (membersText true members ++ '\x7d' :: rest), offset⟩ =
          .ok (value, ⟨rest, later⟩)) :
    shape.ReadsAs (levels + 1) (print (.object members)) value := by
  rw [print, printMembers_eq]
  apply ReadsAs.of_step (by decide) (by decide)
  intro fuel depth rest offset hfuel hdepth _
  rw [List.length_append, List.length_singleton] at hfuel
  cases depth with
  | zero => omega
  | succ depth =>
      rcases h fuel depth rest offset (by omega) (by omega) with ⟨later, hread⟩
      refine ⟨later, ?_⟩
      rw [List.append_assoc]
      exact hread

theorem ReadsAs.table {inner : Shape} {members values : List (String × Json)}
    (h : List.Forall₂ (MemberReadsAs (.table inner) levels) members values)
    (hordered : Entries.Ordered values) :
    (table inner).ReadsAs (levels + 1) (print (.object members)) (.object values) := by
  apply ReadsAs.braced
  intro fuel depth rest offset hfuel hdepth
  have hstart : Entries.Ordered ([] ++ values) := hordered
  rcases readTable_membersText h true hstart fuel depth rest (offset + 1) hfuel hdepth with
    ⟨later, hread⟩
  refine ⟨later, ?_⟩
  rw [Shape.read, Cursor.skipBlank_cons (by decide)]
  simp only [checkDepth_of_lt (show 1 < depth + 1 by omega)]
  exact hread

/-!
### Loose records
-/

theorem readLoose_membersText {title : String} {fields : List (String × Shape)}
    {members values done : List (String × Json)}
    (h : List.Forall₂ (MemberReadsAs (.loose title fields) levels) members values) (first : Bool)
    (hordered : Entries.Ordered (done ++ values)) (fuel depth : Nat) (rest : List Char)
    (offset : Nat) (hfuel : 2 * (membersText first members).length < fuel)
    (hdepth : levels < depth) :
    exists later, readLoose fuel depth fields first done
        ⟨membersText first members ++ '\x7d' :: rest, offset⟩ =
      .ok (.object (done ++ values), ⟨rest, later⟩) := by
  induction h generalizing first done fuel offset with
  | nil =>
      cases fuel with
      | zero => omega
      | succ fuel =>
          rw [membersText, List.nil_append, List.append_nil, readLoose, nextKey_close]
          exact ⟨_, rfl⟩
  | @cons _ _ members values hmember _ ih =>
      rcases hmember with ⟨hinner, hvalue⟩
      rcases find?_of_fieldAt id hinner with ⟨_, hfield, rfl⟩
      rcases insert_next hordered with ⟨hinsert, _, hnext⟩
      cases fuel with
      | zero => omega
      | succ fuel =>
          simp only [membersText, List.length_append, List.length_cons] at hfuel
          rcases readMember hvalue first _ members fuel depth rest offset (by omega) hdepth with
            ⟨here, behind, start, middle, hstart, hkey, hcolon, hread⟩
          rcases ih false hnext fuel middle (by omega) with ⟨later, hrest⟩
          refine ⟨later, ?_⟩
          rw [readLoose, hstart]
          simp only [id] at hread
          simp only [hkey, hcolon, hfield, hread, hinsert, hrest, List.append_assoc,
            List.singleton_append]

theorem ReadsAs.loose {fields : List (String × Shape)} {members values : List (String × Json)}
    (title : String) (h : List.Forall₂ (MemberReadsAs (.loose title fields) levels) members values)
    (hordered : Entries.Ordered values) :
    (loose title fields).ReadsAs (levels + 1) (print (.object members)) (.object values) := by
  apply ReadsAs.braced
  intro fuel depth rest offset hfuel hdepth
  have hstart : Entries.Ordered ([] ++ values) := hordered
  rcases readLoose_membersText h true hstart fuel depth rest (offset + 1) hfuel hdepth with
    ⟨later, hread⟩
  refine ⟨later, ?_⟩
  rw [Shape.read, Cursor.skipBlank_cons (by decide)]
  simp only [checkDepth_of_lt (show 1 < depth + 1 by omega)]
  exact hread

/-!
### Strict records
-/

theorem readStrict_membersText {title : String} {fields : List (String × Presence × Shape)}
    {members values done filled : List (String × Json)}
    (h : List.Forall₂ (MemberReadsAs (.strict title fields) levels) members values) (first : Bool)
    (hordered : Entries.Ordered (done ++ values))
    (hcomplete : complete fields (done ++ values) = .ok filled) (fuel depth : Nat)
    (rest : List Char) (offset : Nat)
    (hfuel : 2 * (membersText first members).length < fuel) (hdepth : levels < depth) :
    exists later, readStrict fuel depth fields first done
        ⟨membersText first members ++ '\x7d' :: rest, offset⟩ =
      .ok (.object filled, ⟨rest, later⟩) := by
  induction h generalizing first done fuel offset with
  | nil =>
      rw [List.append_nil] at hcomplete
      cases fuel with
      | zero => omega
      | succ fuel =>
          rw [membersText, List.nil_append, readStrict, nextKey_close]
          simp only [hcomplete]
          exact ⟨_, rfl⟩
  | @cons _ _ members values hmember _ ih =>
      rcases hmember with @⟨key, written, found, _, hinner, hvalue⟩
      rcases find?_of_fieldAt Prod.snd hinner with ⟨⟨presence, _⟩, hfield, rfl⟩
      rcases insert_next hordered with ⟨hinsert, hnew, hnext⟩
      cases fuel with
      | zero => omega
      | succ fuel =>
          simp only [membersText, List.length_append, List.length_cons] at hfuel
          rcases readMember hvalue first _ members fuel depth rest offset (by omega) hdepth with
            ⟨here, behind, start, middle, hstart, hkey, hcolon, hread⟩
          have hcompleteNext : complete fields (done ++ [(key, found)] ++ values) = .ok filled := by
            rwa [List.append_assoc]
          rcases ih false hnext hcompleteNext fuel middle (by omega) with ⟨later, hrest⟩
          refine ⟨later, ?_⟩
          rw [readStrict, hstart]
          simp only [hkey, hnew, hfield, Option.isSome_none, Option.isSome_some, Bool.and_false,
            Bool.false_eq_true, if_false, hcolon, hread, hinsert, hrest]

/-- A value of which a reader finds the end, wherever it is not asked for. -/
def PassedOver (value : Json) : Prop :=
  forall fuel depth rest offset, 0 < fuel -> exists found later,
    readValue .skip fuel depth ⟨print value ++ rest, offset⟩ = .ok (found, ⟨rest, later⟩)

/-- Members in front of the fields are passed over. -/
theorem readStrict_behind {title : String} {fields : List (String × Presence × Shape)}
    {front members values filled : List (String × Json)}
    (hfront : forall member, member ∈ front ->
      fields.find? (fun field => field.1 == member.1) = none ∧ PassedOver member.2)
    (h : List.Forall₂ (MemberReadsAs (.strict title fields) levels) members values) (first : Bool)
    (hordered : Entries.Ordered values) (hcomplete : complete fields values = .ok filled)
    (fuel depth : Nat) (rest : List Char) (offset : Nat)
    (hfuel : 2 * (membersText first (front ++ members)).length < fuel)
    (hdepth : levels < depth) :
    exists later, readStrict fuel depth fields first []
        ⟨membersText first (front ++ members) ++ '\x7d' :: rest, offset⟩ =
      .ok (.object filled, ⟨rest, later⟩) := by
  induction front generalizing first fuel offset with
  | nil =>
      have hstart : Entries.Ordered ([] ++ values) := hordered
      exact readStrict_membersText h first hstart hcomplete fuel depth rest offset hfuel hdepth
  | cons member front ih =>
      rcases member with ⟨key, value⟩
      rcases hfront _ List.mem_cons_self with ⟨hfield, hvalue⟩
      cases fuel with
      | zero => omega
      | succ fuel =>
          simp only [List.cons_append, membersText, List.length_append, List.length_cons] at hfuel
          rcases readKey first key
            (print value ++ (membersText false (front ++ members) ++ '\x7d' :: rest)) offset with
            ⟨here, behind, start, hstart, hkey, hcolon⟩
          rcases hvalue (fuelFor _) depth (membersText false (front ++ members) ++ '\x7d' :: rest)
            start (Nat.succ_pos _) with ⟨found, middle, hskip⟩
          rcases ih (fun other hmem => hfront other (List.mem_cons_of_mem _ hmem)) false fuel middle
            (by omega) with ⟨later, hrest⟩
          refine ⟨later, ?_⟩
          rw [List.cons_append, membersText, List.append_assoc, List.append_assoc,
            List.cons_append, List.append_assoc, readStrict, hstart]
          simp only [hkey, hfield, hcolon, Option.isSome_none, Bool.false_and, Bool.false_eq_true,
            if_false]
          rw [hskip]
          exact hrest

theorem ReadsAs.strict {fields : List (String × Presence × Shape)}
    {front members values filled : List (String × Json)} (title : String)
    (hfront : forall member, member ∈ front ->
      fields.find? (fun field => field.1 == member.1) = none ∧ PassedOver member.2)
    (h : List.Forall₂ (MemberReadsAs (.strict title fields) levels) members values)
    (hordered : Entries.Ordered values) (hcomplete : complete fields values = .ok filled) :
    (strict title fields).ReadsAs (levels + 1) (print (.object (front ++ members)))
      (.object filled) := by
  apply ReadsAs.braced
  intro fuel depth rest offset hfuel hdepth
  rcases readStrict_behind hfront h true hordered hcomplete fuel depth rest (offset + 1) hfuel
    hdepth with ⟨later, hread⟩
  refine ⟨later, ?_⟩
  rw [Shape.read, Cursor.skipBlank_cons (by decide)]
  simp only [checkDepth_of_lt (show 1 < depth + 1 by omega)]
  exact hread

/-!
## Records
-/

section Insertion

variable {r : String × Json -> String × Json -> Prop}

theorem forall₂_insert (hkeys : forall member value, r member value -> member.1 = value.1)
    {member value : String × Json} (hnew : r member value)
    {members values : List (String × Json)} (h : List.Forall₂ r members values) :
    List.Forall₂ r (Entries.insert member.1 member.2 members)
      (Entries.insert value.1 value.2 values) := by
  rcases member with ⟨key, written⟩
  rcases value with ⟨same, found⟩
  have hsame : key = same := hkeys _ _ hnew
  subst hsame
  induction h with
  | nil => exact .cons hnew .nil
  | @cons member value members values hfirst hrest ih =>
      rcases member with ⟨other, first⟩
      rcases value with ⟨otherSame, firstFound⟩
      have hother : other = otherSame := hkeys _ _ hfirst
      subst hother
      simp only [Entries.insert]
      split
      · exact .cons hnew (.cons hfirst hrest)
      · split
        · exact .cons hnew hrest
        · exact .cons hfirst ih

theorem forall₂_foldl_insert (hkeys : forall member value, r member value -> member.1 = value.1)
    {members values : List (String × Json)} (h : List.Forall₂ r members values)
    {done found : List (String × Json)} (hdone : List.Forall₂ r done found) :
    List.Forall₂ r (members.foldl (fun acc member => Entries.insert member.1 member.2 acc) done)
      (values.foldl (fun acc value => Entries.insert value.1 value.2 acc) found) := by
  induction h generalizing done found with
  | nil => exact hdone
  | cons hfirst _ ih => exact ih (forall₂_insert hkeys hfirst hdone)

end Insertion

/-- Members that are read one by one are read in the order of their keys as well. -/
theorem forall₂_ofList {shape : Shape} {members values : List (String × Json)}
    (h : List.Forall₂ (shape.MemberReadsAs levels) members values) :
    List.Forall₂ (shape.MemberReadsAs levels) (Entries.ofList members)
      (Entries.ofList values) := by
  apply forall₂_foldl_insert _ h .nil
  rintro _ _ ⟨⟩
  rfl

/-- What a field holds after its record was read. -/
def fill (presence : Presence) (found : Option Json) : Option Json :=
  match found, presence with
  | some value, _ => some value
  | none, .required => none
  | none, .optional => some .null
  | none, .default value => some value

@[simp] theorem fill_some (presence : Presence) (value : Json) :
    fill presence (some value) = some value := rfl

@[simp] theorem fill_optional (found : Option Json) :
    fill .optional found = some (found.getD .null) := by
  cases found <;> rfl

@[simp] theorem fill_default (value : Json) (found : Option Json) :
    fill (.default value) found = some (found.getD value) := by
  cases found <;> rfl

def filled (fields : List (String × Presence × Shape)) (values : List (String × Json)) :
    List (String × Json) :=
  fields.map fun field =>
    (field.1, (fill field.2.1 (Entries.last? field.1 values)).getD .null)

theorem complete_eq {fields : List (String × Presence × Shape)} {values : List (String × Json)}
    (h : forall field, field ∈ fields ->
      (fill field.2.1 (Entries.last? field.1 values)).isSome) :
    complete fields (Entries.ofList values) = .ok (Entries.ofList (filled fields values)) := by
  simp only [complete, Entries.find?_ofList]
  unfold Entries.ofList
  generalize ([] : List (String × Json)) = done
  induction fields generalizing done with
  | nil => rfl
  | cons field rest ih =>
      rcases field with ⟨name, presence, shape⟩
      have hfirst := h _ List.mem_cons_self
      have hrest := ih fun field hmem => h field (List.mem_cons_of_mem _ hmem)
      simp only [List.foldl_cons, filled, List.map_cons] at hfirst ⊢
      cases hfound : Entries.last? name values with
      | some value => exact hrest _
      | none =>
          cases presence with
          | required =>
              rw [hfound] at hfirst
              cases hfirst
          | optional => exact hrest _
          | default value => exact hrest _

theorem ReadsAs.strictRecord {fields : List (String × Presence × Shape)}
    {front members values : List (String × Json)} (title : String)
    (hfront : forall member, member ∈ front ->
      fields.find? (fun field => field.1 == member.1) = none ∧ PassedOver member.2)
    (h : List.Forall₂ (MemberReadsAs (.strict title fields) levels) members values)
    (hfill : forall field, field ∈ fields ->
      (fill field.2.1 (Entries.last? field.1 values)).isSome) :
    ReadsAs (.strict title fields) (levels + 1)
      (print (.object (front ++ Entries.ofList members))) (.ofMembers (filled fields values)) :=
  .strict title hfront (forall₂_ofList h) (Entries.ordered_ofList _) (complete_eq hfill)

theorem ReadsAs.looseRecord {fields : List (String × Shape)}
    {members values : List (String × Json)} (title : String)
    (h : List.Forall₂ (MemberReadsAs (.loose title fields) levels) members values) :
    ReadsAs (.loose title fields) (levels + 1) (print (.ofMembers members))
      (.ofMembers values) :=
  .loose title (forall₂_ofList h) (Entries.ordered_ofList _)

end Texts

/-!
## Values that are read back
-/

section Decoding

variable {α : Type u} {levels : Nat} {decode : Json -> Option α} {shape : Shape}

/-- The text of what was written is read at a shape and decoded to a result. -/
structure ReadsBackAt (shape : Shape) (levels : Nat) (written : Json) (decode : Json -> Option α)
    (result : α) : Prop where
  present : (print written).head? ≠ some 'n'
  read : exists found, shape.ReadsAs levels (print written) found ∧ found ≠ .null ∧
    decode found = some result

theorem head?_print_ofMembers (members : List (String × Json)) :
    (print (.ofMembers members)).head? ≠ some 'n' := by
  show some '\x7b' ≠ some 'n'
  decide

/-- A record is read back if its members are read and the filled record is decoded. -/
theorem ReadsBackAt.strictRecord {fields : List (String × Presence × Shape)}
    {members values : List (String × Json)} {result : α} (title : String)
    (h : List.Forall₂ (MemberReadsAs (.strict title fields) levels) members values)
    (hfill : forall field, field ∈ fields ->
      (fill field.2.1 (Entries.last? field.1 values)).isSome)
    (hdecode : decode (.ofMembers (filled fields values)) = some result) :
    ReadsBackAt (.strict title fields) (levels + 1) (.ofMembers members) decode result where
  present := head?_print_ofMembers members
  read := ⟨_, .strictRecord title (List.forall_mem_nil _) h hfill, nofun, hdecode⟩

theorem ReadsBackAt.looseRecord {fields : List (String × Shape)}
    {members values : List (String × Json)} {result : α} (title : String)
    (h : List.Forall₂ (MemberReadsAs (.loose title fields) levels) members values)
    (hdecode : decode (.ofMembers values) = some result) :
    ReadsBackAt (.loose title fields) (levels + 1) (.ofMembers members) decode result where
  present := head?_print_ofMembers members
  read := ⟨_, .looseRecord title h, nofun, hdecode⟩

theorem readsBackAt_string (levels : Nat) (text : String) :
    string.ReadsBackAt levels (.string text) string? text where
  present := by
    show some '"' ≠ some 'n'
    decide
  read := ⟨_, readsAs_string levels text, nofun, rfl⟩

theorem ReadsBackAt.mono {higher : Nat} {written : Json} {result : α}
    (h : shape.ReadsBackAt levels written decode result) (hlevels : levels ≤ higher) :
    shape.ReadsBackAt higher written decode result where
  present := h.present
  read := by
    rcases h.read with ⟨found, hread, hrest⟩
    exact ⟨found, hread.mono hlevels, hrest⟩

theorem ReadsBackAt.list {encode : α -> Json} {keep : α -> α} {values : List α}
    (h : forall value, value ∈ values ->
      shape.ReadsBackAt levels (encode value) decode (keep value)) :
    ReadsBackAt (.list shape) (levels + 1) (.array (values.map encode)) (listOf? decode)
      (values.map keep) where
  present := by
    show some '[' ≠ some 'n'
    decide
  read := by
    have hitems : exists found,
        List.Forall₂ (fun item value => shape.ReadsAs levels (print item) value)
            (values.map encode) found ∧
          found.mapM decode = some (values.map keep) := by
      induction values with
      | nil => exact ⟨[], .nil, rfl⟩
      | cons value rest ih =>
          rcases (h value List.mem_cons_self).read with ⟨first, hread, _, hfirst⟩
          rcases ih fun other hmem => h other (List.mem_cons_of_mem _ hmem) with
            ⟨found, hrest, hdecode⟩
          exact ⟨first :: found, .cons hread hrest, by simp [List.mapM_cons, hfirst, hdecode]⟩
    rcases hitems with ⟨found, hread, hdecode⟩
    exact ⟨_, .list hread, nofun, hdecode⟩

theorem ReadsBackAt.nullable {written : Json} {result : α}
    (h : shape.ReadsBackAt levels written decode result) (hlead : shape.lead = 0) :
    (nullable shape).ReadsBackAt levels written decode result where
  present := h.present
  read := by
    rcases h.read with ⟨found, hread, hrest⟩
    exact ⟨found, hread.nullable hlead h.present, hrest⟩

/-- A field of a record whose value is read back. -/
theorem ReadsBackAt.field {written : Json} {result : α}
    (h : shape.ReadsBackAt levels written decode result) (record : Shape) (key : String)
    (hfield : record.fieldAt key = some shape) :
    exists found, record.MemberReadsAs levels (key, written) (key, found) ∧
      decode found = some result := by
  rcases h.read with ⟨found, hread, _, hdecode⟩
  exact ⟨found, .mk hfield hread, hdecode⟩

/-- A field that may be null, and is not. -/
theorem ReadsBackAt.presentField {written : Json} {result : α}
    (h : shape.ReadsBackAt levels written decode result) (record : Shape) (key : String)
    (hfield : record.optionalAt key = some shape) :
    exists found, record.MemberReadsAs levels (key, written) (key, found) ∧
      ofOptional decode (some found) = some (some result) := by
  rcases fieldAt_of_optionalAt hfield with ⟨hplace, hlead⟩
  rcases (h.nullable hlead).read with ⟨found, hread, hpresent, hdecode⟩
  refine ⟨found, .mk hplace hread, ?_⟩
  cases found with
  | null => exact absurd rfl hpresent
  | _ => exact congrArg (Option.map some) hdecode

/-- A field that may be null and is written only when it is set. -/
theorem ReadsBackAt.optionalField {encode : α -> Json} {keep : α -> α} {value : Option α}
    (h : forall v, value = some v -> shape.ReadsBackAt levels (encode v) decode (keep v))
    (record : Shape) (key : String) (hfield : record.optionalAt key = some shape) :
    exists found,
      List.Forall₂ (record.MemberReadsAs levels) (memberOf encode key value)
          (memberOf id key found) ∧
        ofOptional decode found = some (value.map keep) := by
  cases value with
  | none => exact ⟨none, .nil, rfl⟩
  | some v =>
      rcases (h v rfl).presentField record key hfield with ⟨found, hread, hdecode⟩
      exact ⟨some found, .cons hread .nil, hdecode⟩

@[simp] theorem ofOptional_getD_null (found : Option Json) :
    ofOptional decode (some (found.getD .null)) = ofOptional decode found := by
  cases found <;> rfl

theorem parse_compact_of_ok {format : Cluster.Format α} {written : Json} {result : α}
    (h : (format.shape.parseChars (print written)).toOption.bind format.ofJson? = some result) :
    format.parse written.compact = .ok result := by
  have htext : written.compact.toList = print written := String.toList_ofList
  rcases Option.bind_eq_some_iff.mp h with ⟨found, hfound, hdecode⟩
  cases hread : format.shape.parseChars (print written) with
  | error fault =>
      rw [hread] at hfound
      cases hfound
  | ok value =>
      rw [hread] at hfound
      cases hfound
      simp only [Cluster.Format.parse, Shape.parse, htext, hread, hdecode]

theorem parse_compact_of_error {format : Cluster.Format α} {written : Json} {fault : Fault}
    (h : format.shape.parseChars (print written) = .error fault) :
    format.parse written.compact = .error (fault.message (print written)) := by
  have htext : written.compact.toList = print written := String.toList_ofList
  simp only [Cluster.Format.parse, Shape.parse, htext, h]

/-- A whole text is read at a shape and decoded. -/
theorem ReadsBackAt.parse {written : Json} {result : α}
    (h : shape.ReadsBackAt levels written decode result) (hlevels : levels < depthLimit) :
    (⟨shape, decode⟩ : Cluster.Format α).parse written.compact = .ok result := by
  rcases h.read with ⟨found, hread, _, hdecode⟩
  have hfuel : 2 * (print written).length ≤ fuelFor (print written) := by
    unfold fuelFor
    omega
  rcases hread.read_of_le 0 hfuel hlevels endsNumber_nil with ⟨later, hend⟩
  rw [List.append_nil] at hend
  have hparse : shape.parseChars (print written) = .ok found := by
    unfold Shape.parseChars Cursor.start
    rw [hend]
    rfl
  apply parse_compact_of_ok
  rw [hparse]
  exact hdecode

end Decoding

end Shape

end Json

end SecretProjection
