import Mathlib.Data.List.Nodup
import SecretProjection.Proofs.ShapedTexts

/-!
# Fields of decoded records

Whatever text a record was decoded from, as an object or as an array, it has all of its fields,
and each holds what was read at the shape of the field or what stands for an absent one.
-/

namespace SecretProjection

namespace Json

namespace Shape

/-!
# Absent fields
-/

section Completion

variable {fields : List (String × Presence × Shape)} {members done : List (String × Json)}

/-- Adds a field to those that are complete already. -/
def addField (members done : List (String × Json)) (field : String × Presence × Shape) :
    Except String (List (String × Json)) :=
  match fill field.2.1 (Entries.find? field.1 members) with
  | none => .error field.1
  | some value => .ok (Entries.insert field.1 value done)

theorem complete_eq_foldlM (fields : List (String × Presence × Shape))
    (members : List (String × Json)) :
    complete fields members = fields.foldlM (addField members) [] := by
  unfold complete
  generalize ([] : List (String × Json)) = done
  induction fields generalizing done with
  | nil => rfl
  | cons field rest ih =>
      rcases field with ⟨name, presence, shape⟩
      rw [List.foldl_cons, List.foldlM_cons, addField]
      dsimp only
      cases Entries.find? name members with
      | some value => exact ih _
      | none =>
          cases presence with
          | required =>
              -- A missing field ends the walk.
              clear ih
              induction rest with
              | nil => rfl
              | cons next rest ih => exact ih
          | optional => exact ih _
          | default value => exact ih _

/-- A complete record has each of its fields: as it was read, or filled in. -/
theorem find?_foldlM_addField {acc : List (String × Json)} (hnames : (fields.map (·.1)).Nodup)
    (h : fields.foldlM (addField members) acc = .ok done) :
    (forall name, name ∉ fields.map (·.1) -> Entries.find? name done = Entries.find? name acc) ∧
      forall field, field ∈ fields -> exists value,
        fill field.2.1 (Entries.find? field.1 members) = some value ∧
          Entries.find? field.1 done = some value := by
  induction fields generalizing acc with
  | nil =>
      cases h
      exact ⟨fun _ _ => rfl, fun _ hmem => nomatch hmem⟩
  | cons field rest ih =>
      rcases List.nodup_cons.mp hnames with ⟨hfresh, hrest⟩
      rw [List.foldlM_cons] at h
      unfold addField at h
      cases hfill : fill field.2.1 (Entries.find? field.1 members) with
      | none =>
          rw [hfill] at h
          cases h
      | some value =>
          rw [hfill] at h
          rcases ih hrest h with ⟨hother, hfields⟩
          constructor
          · intro name hname
            rw [List.map_cons, List.mem_cons, not_or] at hname
            rcases hname with ⟨hne, hname⟩
            rw [hother name hname, Entries.find?_insert_of_ne hne]
          · intro field' hmem
            rcases List.mem_cons.mp hmem with rfl | hmem
            · exact ⟨value, hfill, by rw [hother _ hfresh, Entries.find?_insert_self]⟩
            · exact hfields field' hmem

theorem find?_complete (hnames : (fields.map (·.1)).Nodup) (h : complete fields members = .ok done)
    {field : String × Presence × Shape} (hfield : field ∈ fields) :
    exists value, fill field.2.1 (Entries.find? field.1 members) = some value ∧
      Entries.find? field.1 done = some value := by
  rw [complete_eq_foldlM] at h
  exact (find?_foldlM_addField hnames h).2 field hfield

end Completion

/-!
# Values read at a shape
-/

/-- A value that is read at a shape, from some text. -/
def Yields (shape : Shape) (value : Json) : Prop :=
  exists fuel depth cursor after, shape.read fuel depth cursor = .ok (value, after)

/-- A value that a field may have in a decoded record. -/
def FieldHolds (field : String × Presence × Shape) (value : Json) : Prop :=
  fill field.2.1 none = some value ∨ field.2.2.Yields value

section Records

variable {fields : List (String × Presence × Shape)} {members : List (String × Json)}
variable {field : String × Presence × Shape} {value : Json} {cursor after : Cursor}
variable {fuel depth : Nat}

/-- What has been read of the fields so far was read at their shapes. -/
def FieldsHold (fields : List (String × Presence × Shape)) (members : List (String × Json)) :
    Prop :=
  forall field, field ∈ fields -> forall found, Entries.find? field.1 members = some found ->
    FieldHolds field found

theorem eq_of_name_eq (hnames : (fields.map (·.1)).Nodup) {other : String × Presence × Shape}
    (hfield : field ∈ fields) (hother : other ∈ fields) (h : field.1 = other.1) : field = other :=
  List.inj_on_of_nodup_map hnames hfield hother h

/-- A value that is read for a field takes its place among the others. -/
theorem FieldsHold.insert (hnames : (fields.map (·.1)).Nodup) (h : FieldsHold fields members)
    (hfield : field ∈ fields) (hvalue : FieldHolds field value) :
    FieldsHold fields (Entries.insert field.1 value members) := by
  intro other hother found hfound
  by_cases hname : other.1 = field.1
  · rw [hname, Entries.find?_insert_self] at hfound
    cases hfound
    rw [eq_of_name_eq hnames hother hfield hname]
    exact hvalue
  · rw [Entries.find?_insert_of_ne hname] at hfound
    exact h other hother found hfound

theorem FieldsHold.complete (hnames : (fields.map (·.1)).Nodup) (h : FieldsHold fields members)
    {done : List (String × Json)} (hdone : complete fields members = .ok done)
    (hfield : field ∈ fields) :
    exists found, Entries.find? field.1 done = some found ∧ FieldHolds field found := by
  rcases find?_complete hnames hdone hfield with ⟨value, hfill, hvalue⟩
  refine ⟨value, hvalue, ?_⟩
  cases hfound : Entries.find? field.1 members with
  | none =>
      rw [hfound] at hfill
      exact .inl hfill
  | some found =>
      rw [hfound, fill_some] at hfill
      cases hfill
      exact h field hfield value hfound

theorem field_of_readStrict (hnames : (fields.map (·.1)).Nodup) {first : Bool}
    (hmembers : FieldsHold fields members)
    (h : readStrict fuel depth fields first members cursor = .ok (value, after))
    (hfield : field ∈ fields) :
    exists found, value.member? field.1 = some found ∧ FieldHolds field found := by
  induction fuel generalizing first members cursor with
  | zero =>
      rw [readStrict] at h
      cases h
  | succ fuel ih =>
      rw [readStrict] at h
      split at h
      case h_1 => cases h
      case h_2 =>
        -- The record ends.
        split at h
        case h_1 done hdone =>
          cases h
          exact hmembers.complete hnames hdone hfield
        case h_2 => cases h
      case h_3 =>
        split at h
        case h_1 => cases h
        case h_2 key cursor _ =>
          dsimp only at h
          split at h
          case isTrue => cases h
          case isFalse =>
            split at h
            case h_1 => cases h
            case h_2 =>
              split at h
              case h_1 =>
                -- A member that is no field is passed over.
                split at h
                case h_1 => cases h
                case h_2 => exact ih hmembers h
              case h_2 name presence shape hknown =>
                split at h
                case h_1 => cases h
                case h_2 found _ hread =>
                  have hmem := List.mem_of_find?_eq_some hknown
                  exact ih (hmembers.insert hnames hmem (.inr ⟨_, _, _, _, hread⟩)) h

theorem readPositional_nil {title : String} {count index : Nat} :
    readPositional (fuel + 1) depth title count index [] members cursor =
      endArray (.object members) cursor := by
  rw [readPositional]

theorem endArray_eq_ok {end_ : Json} (h : endArray end_ cursor = .ok (value, after)) :
    value = end_ := by
  unfold endArray at h
  dsimp only at h
  split at h
  case h_1 => cases h
  case h_2 =>
    cases h
    rfl
  case h_3 => split at h <;> cases h
  case h_4 => cases h

/-- Of a record given as an array, `rest` holds the fields that are still to be read. -/
theorem field_of_readPositional {title : String} {count index : Nat}
    {rest : List (String × Presence × Shape)} (hnames : (fields.map (·.1)).Nodup)
    (hrest : rest ⊆ fields) (hmembers : FieldsHold fields members)
    (hread : field ∈ rest ∨ exists found, Entries.find? field.1 members = some found)
    (h : readPositional fuel depth title count index rest members cursor = .ok (value, after))
    (hfield : field ∈ fields) :
    exists found, value.member? field.1 = some found ∧ FieldHolds field found := by
  induction fuel generalizing index rest members cursor with
  | zero =>
      rw [readPositional] at h
      cases h
  | succ fuel ih =>
      cases rest with
      | nil =>
          rw [readPositional_nil] at h
          rw [endArray_eq_ok h]
          rcases hread with hmem | ⟨found, hfound⟩
          · cases hmem
          · exact ⟨found, hfound, hmembers field hfield found hfound⟩
      | cons next rest =>
          have hnext := hrest List.mem_cons_self
          have hbehind := List.subset_of_cons_subset hrest
          have hlater {found : Json} : field ∈ rest ∨
              exists other, Entries.find? field.1 (Entries.insert next.1 found members) =
                some other := by
            by_cases hname : field.1 = next.1
            · exact .inr ⟨found, by rw [hname, Entries.find?_insert_self]⟩
            · rcases hread with hmem | ⟨other, hother⟩
              · rcases List.mem_cons.mp hmem with rfl | hmem
                · exact absurd rfl hname
                · exact .inl hmem
              · exact .inr ⟨other, by rwa [Entries.find?_insert_of_ne hname]⟩
          rcases next with ⟨name, presence, shape⟩
          unfold readPositional at h
          dsimp only at h
          split at h
          case h_1 => cases h
          case h_2 =>
            -- The array is over, and what is left has to have a default.
            cases presence with
            | required => cases h
            | optional => cases h
            | default absent =>
                exact ih hbehind (hmembers.insert hnames hnext (.inl rfl)) hlater h
          case h_3 =>
            split at h
            case h_1 => cases h
            case h_2 found _ hvalue =>
              exact ih hbehind (hmembers.insert hnames hnext (.inr ⟨_, _, _, _, hvalue⟩)) hlater h

theorem refuseType_ne_ok {α : Type} {expected : String} {result : α × Cursor} :
    refuseType expected cursor ≠ .ok result := by
  intro h
  unfold refuseType at h
  simp only [Cursor.fail, Cursor.failNext] at h
  split at h
  · cases h
  · repeat' split at h
    all_goals cases h

/-- A decoded record has all of its fields. -/
theorem field_of_read {title : String} (hnames : (fields.map (·.1)).Nodup)
    (h : (strict title fields).read fuel depth cursor = .ok (value, after))
    (hfield : field ∈ fields) :
    exists found, value.member? field.1 = some found ∧ FieldHolds field found := by
  have hstart : FieldsHold fields [] := by
    intro field _ found hfound
    cases hfound
  cases fuel with
  | zero =>
      rw [read] at h
      cases h
  | succ fuel =>
      unfold read at h
      dsimp only at h
      split at h
      case h_1 =>
        split at h
        case h_1 => cases h
        case h_2 =>
          exact field_of_readPositional hnames (List.Subset.refl _) hstart (.inl hfield) h hfield
      case h_2 =>
        split at h
        case h_1 => cases h
        case h_2 => exact field_of_readStrict hnames hstart h hfield
      case h_3 => exact absurd h refuseType_ne_ok

theorem field_of_parse {title text : String} (hnames : (fields.map (·.1)).Nodup)
    (h : (strict title fields).parse text = .ok value) (hfield : field ∈ fields) :
    exists found, value.member? field.1 = some found ∧ FieldHolds field found := by
  unfold parse parseChars at h
  split at h
  case h_2 => cases h
  case h_1 found hchars =>
    cases h
    split at hchars
    case h_1 => cases hchars
    case h_2 read cursor hread =>
      unfold finish at hchars
      dsimp only at hchars
      split at hchars
      case isTrue =>
        cases hchars
        exact field_of_read hnames hread hfield
      case isFalse => cases hchars

end Records

/-!
# Values that may be null
-/

theorem yields_nullable {inner : Shape} {value : Json} (h : (nullable inner).Yields value) :
    value = .null ∨ inner.Yields value := by
  rcases h with ⟨fuel, depth, cursor, after, h⟩
  cases fuel with
  | zero =>
      rw [read] at h
      cases h
  | succ fuel =>
      unfold read at h
      dsimp only at h
      generalize cursor.skipBlank = start at h
      rcases start with ⟨text, offset⟩
      split at h
      case h_1 tail htext =>
        dsimp only at htext
        subst htext
        rw [readValue, Cursor.skipBlank_cons (by decide)] at h
        dsimp only at h
        rw [if_pos rfl] at h
        rcases hword : readWord ['u', 'l', 'l'] (Cursor.skip ⟨'n' :: tail, offset⟩ 'n' tail) with
          fault | behind
        · rw [hword] at h
          cases h
        · rw [hword] at h
          cases h
          exact .inl rfl
      case h_2 => exact .inr ⟨_, _, _, _, h⟩

theorem readMembers_eq_ok {mode : Mode} {fuel depth : Nat} {first : Bool}
    {members : List (String × Json)} {cursor after : Cursor} {value : Json}
    (h : readMembers mode fuel depth first members cursor = .ok (value, after)) :
    exists found, value = .object found := by
  induction fuel generalizing first members cursor with
  | zero =>
      rw [readMembers] at h
      cases h
  | succ fuel ih =>
      rw [readMembers] at h
      split at h
      case h_1 => cases h
      case h_2 =>
        cases h
        exact ⟨_, rfl⟩
      case h_3 =>
        split at h
        case h_1 => cases h
        case h_2 =>
          split at h
          case h_1 => cases h
          case h_2 =>
            split at h
            case h_1 => cases h
            case h_2 => exact ih h

theorem yields_anyMap {value : Json} (h : anyMap.Yields value) :
    exists members, value = .object members := by
  rcases h with ⟨fuel, depth, cursor, after, h⟩
  cases fuel with
  | zero =>
      rw [read] at h
      cases h
  | succ fuel =>
      unfold read at h
      dsimp only at h
      generalize cursor.skipBlank = start at h
      rcases start with ⟨text, offset⟩
      split at h
      case h_1 tail htext =>
        dsimp only at htext
        subst htext
        rw [fuelFor, readValue, Cursor.skipBlank_cons (by decide)] at h
        dsimp only at h
        have hdigit : Text.isDigit '\x7b' = false := rfl
        simp only [Char.reduceEq, if_false, hdigit, Bool.false_eq_true, if_true] at h
        split at h
        · cases h
        · exact readMembers_eq_ok h
      case h_2 => exact absurd h refuseType_ne_ok

end Shape

end Json

end SecretProjection
