import Mathlib.Data.List.Forall2
import SecretProjection.Proofs.Results
import SecretProjection.Template.Eval

/-!
# Layouts

A layout of `printf` is a row of items: plain characters, percent signs that are written twice,
and verbs.  `printf` accepts exactly the layouts with one verb for each value, where no value is
null and the verb for integers stands at an integer.  What it prints are the items in order, with
the printed forms of the values in place of the verbs.
-/

namespace SecretProjection

namespace Template

namespace Layout

/-!
# Items
-/

inductive Verb where
  | string
  | value
  | integer
  deriving DecidableEq, Repr

def Verb.letter : Verb -> Char
  | .string => 's'
  | .value => 'v'
  | .integer => 'd'

inductive Item where
  | plain (c : Char) (ne_percent : c ≠ '%')
  | percent
  | verb (kind : Verb)
  deriving DecidableEq

def Item.spelling : Item -> List Char
  | .plain c _ => [c]
  | .percent => ['%', '%']
  | .verb kind => ['%', kind.letter]

def Item.verb? : Item -> Option Verb
  | .verb kind => some kind
  | _ => none

def spelling (items : List Item) : List Char := items.flatMap Item.spelling

def verbs (items : List Item) : List Verb := items.filterMap Item.verb?

/-- The items with texts in place of the verbs. -/
def fill : List Item -> List String -> List Char
  | [], _ => []
  | .plain c _ :: items, texts => c :: fill items texts
  | .percent :: items, texts => '%' :: fill items texts
  | .verb _ :: items, text :: texts => text.toList ++ fill items texts
  | .verb _ :: items, [] => fill items []

/-- Whether a value may stand at a verb. -/
structure Verb.Takes (kind : Verb) (value : Json) : Prop where
  ne_null : value ≠ .null
  integer : kind = .integer -> exists n, value = .number (.integer n)

/-- Whether a text is the printed form of a value. -/
def Prints (value : Json) (text : String) : Prop := printable value = .ok text

theorem exists_prints_iff {value : Json} : (exists text, Prints value text) <-> value ≠ .null := by
  unfold Prints
  cases value with
  | null => simp [printable]
  | string text => simp [printable]
  | bool _ | number _ | array _ | object _ => simp [printable]

/-!
# One item at a time
-/

theorem format_plain {c : Char} (h : c ≠ '%') (rest : List Char) (values : List Json) :
    format (c :: rest) values = (format rest values).map (c :: ·) := by
  rw [format]
  exact h

theorem format_percent (rest : List Char) (values : List Json) :
    format ('%' :: '%' :: rest) values = (format rest values).map ('%' :: ·) := by
  rw [format.eq_def]
  simp

theorem format_verb_cons {kind : Verb} {value : Json} {text : String} (htakes : kind.Takes value)
    (hprints : Prints value text) (rest : List Char) (values : List Json) :
    format ('%' :: kind.letter :: rest) (value :: values) =
      (format rest values).map (text.toList ++ ·) := by
  have hprint : printable value = .ok text := hprints
  cases kind with
  | integer =>
      rcases htakes.integer rfl with ⟨n, rfl⟩
      cases hprint
      simp [format, Verb.letter, Json.compact, Json.print, JsonNumber.text]
  | string | value => simp [format, Verb.letter, hprint]

theorem takes_of_format_verb {kind : Verb} {value : Json} {rest output : List Char}
    {values : List Json} (h : format ('%' :: kind.letter :: rest) (value :: values) = .ok output) :
    kind.Takes value where
  ne_null := by
    rintro rfl
    cases kind <;> simp [format, Verb.letter, printable] at h
  integer := by
    rintro rfl
    cases value with
    | number number =>
        cases number with
        | integer n => exact ⟨n, rfl⟩
        | float negative magnitude => simp [format, Verb.letter] at h
    | null | bool _ | string _ | array _ | object _ => simp [format, Verb.letter] at h

/-- A verb is filled exactly when there is a value that may stand at it. -/
theorem format_verb_eq_ok {kind : Verb} {rest output : List Char} {values : List Json} :
    format ('%' :: kind.letter :: rest) values = .ok output <->
      exists value others text tail, values = value :: others ∧ kind.Takes value ∧
        Prints value text ∧ format rest others = .ok tail ∧ output = text.toList ++ tail := by
  constructor
  · intro h
    cases values with
    | nil => cases kind <;> simp [format, Verb.letter] at h
    | cons value others =>
        have htakes := takes_of_format_verb h
        rcases exists_prints_iff.mpr htakes.ne_null with ⟨text, hprints⟩
        rw [format_verb_cons htakes hprints] at h
        rcases map_eq_ok_iff.mp h with ⟨tail, htail, rfl⟩
        exact ⟨value, others, text, tail, rfl, htakes, hprints, htail, rfl⟩
  · rintro ⟨value, others, text, tail, rfl, htakes, hprints, htail, rfl⟩
    rw [format_verb_cons htakes hprints, htail]
    rfl

/-!
# Rows of items
-/

theorem spelling_cons (item : Item) (items : List Item) :
    spelling (item :: items) = item.spelling ++ spelling items :=
  List.flatMap_cons

theorem exists_verb_of_letter {c : Char} (h : c = 's' ∨ c = 'v' ∨ c = 'd') :
    exists kind : Verb, kind.letter = c := by
  rcases h with rfl | rfl | rfl
  · exact ⟨.string, rfl⟩
  · exact ⟨.value, rfl⟩
  · exact ⟨.integer, rfl⟩

/-- Every layout that is accepted is a row of items. -/
theorem exists_items_of_format {layout : List Char} {values : List Json} {output : List Char}
    (h : format layout values = .ok output) : exists items, layout = spelling items := by
  fun_induction format layout values generalizing output with
  | case1 => exact ⟨[], rfl⟩
  | case2 | case3 | case5 | case7 | case8 | case10 => cases h
  | case4 values rest ih =>
      rcases map_eq_ok_iff.mp h with ⟨tail, htail, _⟩
      rcases ih htail with ⟨items, rfl⟩
      exact ⟨.percent :: items, rfl⟩
  | case6 rest values n _ _ ih =>
      rcases map_eq_ok_iff.mp h with ⟨tail, htail, _⟩
      rcases ih htail with ⟨items, rfl⟩
      exact ⟨.verb .integer :: items, rfl⟩
  | case9 letter rest _ hletter values value text _ _ _ ih =>
      rcases map_eq_ok_iff.mp h with ⟨tail, htail, _⟩
      rcases ih htail with ⟨items, rfl⟩
      rcases exists_verb_of_letter hletter with ⟨kind, rfl⟩
      exact ⟨.verb kind :: items, rfl⟩
  | case11 c rest values hc ih =>
      rcases map_eq_ok_iff.mp h with ⟨tail, htail, _⟩
      rcases ih htail with ⟨items, rfl⟩
      exact ⟨.plain c hc :: items, rfl⟩

/-- What comes of a row of items. -/
theorem format_spelling_eq_ok {items : List Item} {values : List Json} {output : List Char} :
    format (spelling items) values = .ok output <->
      List.Forall₂ Verb.Takes (verbs items) values ∧
        exists texts, List.Forall₂ Prints values texts ∧ output = fill items texts := by
  induction items generalizing values output with
  | nil =>
      cases values with
      | nil => simp [spelling, verbs, fill, format, eq_comm]
      | cons value values => simp [spelling, verbs, format]
  | cons item items ih =>
      -- A character is put in front of what comes of the other items, whichever item it is from.
      have hchar : forall c, (format (spelling items) values).map (c :: ·) = .ok output <->
          List.Forall₂ Verb.Takes (verbs items) values ∧
            exists texts, List.Forall₂ Prints values texts ∧ output = c :: fill items texts := by
        intro c
        rw [map_eq_ok_iff]
        constructor
        · rintro ⟨tail, htail, rfl⟩
          rcases ih.mp htail with ⟨htakes, texts, hprints, rfl⟩
          exact ⟨htakes, texts, hprints, rfl⟩
        · rintro ⟨htakes, texts, hprints, rfl⟩
          exact ⟨_, ih.mpr ⟨htakes, texts, hprints, rfl⟩, rfl⟩
      rw [spelling_cons]
      cases item with
      | plain c hc =>
          rw [Item.spelling, List.singleton_append, format_plain hc]
          exact hchar c
      | percent =>
          rw [Item.spelling, List.cons_append, List.singleton_append, format_percent]
          exact hchar '%'
      | verb kind =>
          have hverbs : verbs (.verb kind :: items) = kind :: verbs items := rfl
          rw [Item.spelling, List.cons_append, List.singleton_append, format_verb_eq_ok, hverbs]
          constructor
          · rintro ⟨value, others, text, tail, rfl, htakes, hprints, htail, rfl⟩
            rcases ih.mp htail with ⟨htakesRest, texts, hprintsRest, rfl⟩
            exact ⟨.cons htakes htakesRest, text :: texts, .cons hprints hprintsRest, rfl⟩
          · rintro ⟨hall, texts, hprints, rfl⟩
            cases hall with
            | cons htakes htakesRest =>
                cases hprints with
                | cons hprints hprintsRest =>
                    exact ⟨_, _, _, _, rfl, htakes, hprints,
                      ih.mpr ⟨htakesRest, _, hprintsRest, rfl⟩, rfl⟩

/-- Values that may stand at verbs have printed forms. -/
theorem exists_texts {kinds : List Verb} {values : List Json}
    (h : List.Forall₂ Verb.Takes kinds values) :
    exists texts, List.Forall₂ Prints values texts := by
  induction h with
  | nil => exact ⟨[], .nil⟩
  | cons htakes _ ih =>
      rcases exists_prints_iff.mpr htakes.ne_null with ⟨text, hprints⟩
      rcases ih with ⟨texts, hrest⟩
      exact ⟨text :: texts, .cons hprints hrest⟩

/-!
# Texts as layouts
-/

/-- A text with every percent sign written twice. -/
def doubled (text : String) : String :=
  String.ofList (text.toList.flatMap fun c => if c = '%' then ['%', '%'] else [c])

def Item.ofChar (c : Char) : Item := if h : c = '%' then .percent else .plain c h

theorem Item.spelling_ofChar (c : Char) :
    (Item.ofChar c).spelling = if c = '%' then ['%', '%'] else [c] := by
  unfold Item.ofChar
  split <;> rfl

theorem toList_doubled (text : String) :
    (doubled text).toList = spelling (text.toList.map Item.ofChar) := by
  simp only [doubled, spelling, String.toList_ofList, List.flatMap_map, Item.spelling_ofChar]

theorem verbs_ofChar (chars : List Char) : verbs (chars.map Item.ofChar) = [] := by
  rw [verbs, List.filterMap_map, List.filterMap_eq_nil_iff]
  intro c _
  simp only [Function.comp_apply, Item.ofChar]
  split <;> rfl

theorem fill_ofChar (chars : List Char) (texts : List String) :
    fill (chars.map Item.ofChar) texts = chars := by
  induction chars with
  | nil => rfl
  | cons c chars ih =>
      rw [List.map_cons, Item.ofChar]
      split
      · rename_i hc
        rw [fill, ih, hc]
      · rw [fill, ih]

/-!
# Calls of `printf`
-/

theorem apply_printf_eq_ok {layout : String} {values : List Json} {output : Json} :
    Function.apply .printf (.string layout :: values) = .ok output <->
      exists chars, format layout.toList values = .ok chars ∧
        output = .string (String.ofList chars) :=
  map_eq_ok_iff

/-- `printf` accepts exactly the rows of items with a fitting value for each verb, and prints the
items with the printed forms of the values in place of the verbs.  A text with its percent signs
doubled is a layout without verbs that prints the text. -/
theorem printf_accepts_layouts :
    (forall (layout : String) (values : List Json),
      (exists output, Function.apply .printf (.string layout :: values) = .ok output) <->
        exists items, layout.toList = spelling items ∧
          List.Forall₂ Verb.Takes (verbs items) values) ∧
    (forall (items : List Item) (values : List Json) (output : Json),
      Function.apply .printf (.string (String.ofList (spelling items)) :: values) = .ok output <->
        List.Forall₂ Verb.Takes (verbs items) values ∧
          exists texts, List.Forall₂ Prints values texts ∧
            output = .string (String.ofList (fill items texts))) ∧
    forall text : String, Function.apply .printf [.string (doubled text)] = .ok (.string text) := by
  refine ⟨?_, ?_, ?_⟩
  · intro layout values
    constructor
    · rintro ⟨output, h⟩
      rcases apply_printf_eq_ok.mp h with ⟨chars, hformat, _⟩
      rcases exists_items_of_format hformat with ⟨items, hlayout⟩
      rw [hlayout] at hformat
      exact ⟨items, hlayout, (format_spelling_eq_ok.mp hformat).1⟩
    · rintro ⟨items, hlayout, htakes⟩
      rcases exists_texts htakes with ⟨texts, hprints⟩
      refine ⟨_, apply_printf_eq_ok.mpr ⟨fill items texts, ?_, rfl⟩⟩
      rw [hlayout]
      exact format_spelling_eq_ok.mpr ⟨htakes, texts, hprints, rfl⟩
  · intro items values output
    rw [apply_printf_eq_ok, String.toList_ofList]
    constructor
    · rintro ⟨chars, hformat, rfl⟩
      rcases format_spelling_eq_ok.mp hformat with ⟨htakes, texts, hprints, rfl⟩
      exact ⟨htakes, texts, hprints, rfl⟩
    · rintro ⟨htakes, texts, hprints, rfl⟩
      exact ⟨_, format_spelling_eq_ok.mpr ⟨htakes, texts, hprints, rfl⟩, rfl⟩
  · intro text
    apply apply_printf_eq_ok.mpr
    refine ⟨text.toList, ?_, ?_⟩
    · rw [toList_doubled]
      apply format_spelling_eq_ok.mpr
      rw [verbs_ofChar]
      exact ⟨.nil, [], .nil, (fill_ofChar _ _).symm⟩
    · rw [String.ofList_toList]

example : Function.apply .printf
    [.string "%s:%d é%%\n%v", .bool true, .ofInt (-3), .array [.null]] =
      .ok (.string "true:-3 é%\n[null]") := by
  decide +kernel

example : (Function.apply .printf [.string "%d", .string "3"]).toOption = none := by
  decide +kernel

end Layout

end Template

end SecretProjection
