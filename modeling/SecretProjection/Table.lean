/-!
# Tables

A table is a finite map from texts to values whose entries are kept in the order of their keys.
The order of texts is the order of their code points, which is also the order of their UTF-8
bytes.  Two tables with the same entries are equal, so a table can be compared, hashed and
printed without choosing an order first.

The operations on bare entry lists are shared with the objects of `Json`; a `Table` bundles a
list with the proof that it is in order.  The main statements describe insertion and removal by
what a later look-up finds.
-/

namespace SecretProjection

universe u v

/-! ## Entry lists -/

namespace Entries

/-- Keys increase strictly from each entry to every later one. -/
def Ordered {α : Type u} (entries : List (String × α)) : Prop :=
  entries.Pairwise (fun a b => a.1 < b.1)

/-- The value of the first entry with the given key. -/
def find? {α : Type u} (key : String) : List (String × α) -> Option α
  | [] => none
  | (k, v) :: rest => if k = key then some v else find? key rest

/-- Puts an entry at its place, replacing an entry with the same key. -/
def insert {α : Type u} (key : String) (value : α) : List (String × α) -> List (String × α)
  | [] => [(key, value)]
  | (k, v) :: rest =>
      if key < k then (key, value) :: (k, v) :: rest
      else if key = k then (key, value) :: rest
      else (k, v) :: insert key value rest

def erase {α : Type u} (key : String) (entries : List (String × α)) : List (String × α) :=
  entries.filter (fun entry => entry.1 ≠ key)

/-- Inserts the entries of a list one after another, so that the last of equal keys wins. -/
def ofList {α : Type u} (entries : List (String × α)) : List (String × α) :=
  entries.foldl (fun acc entry => insert entry.1 entry.2 acc) []

@[simp] theorem find?_nil {α : Type u} (key : String) :
    find? key ([] : List (String × α)) = none := rfl

theorem find?_insert_self {α : Type u} (key : String) (value : α)
    (entries : List (String × α)) :
    find? key (insert key value entries) = some value := by
  induction entries with
  | nil => simp [insert, find?]
  | cons entry rest ih =>
      rcases entry with ⟨k, v⟩
      by_cases h : key < k
      · simp [insert, h, find?]
      · by_cases e : key = k
        · simp [insert, e, find?]
        · simp [insert, h, e, find?, Ne.symm e, ih]

theorem find?_insert_of_ne {α : Type u} {key other : String} (h : other ≠ key) (value : α)
    (entries : List (String × α)) :
    find? other (insert key value entries) = find? other entries := by
  induction entries with
  | nil => simp [insert, find?, Ne.symm h]
  | cons entry rest ih =>
      rcases entry with ⟨k, v⟩
      by_cases hlt : key < k
      · simp [insert, hlt, find?, Ne.symm h]
      · by_cases e : key = k
        · subst e
          simp [insert, find?, Ne.symm h]
        · simp [insert, hlt, e, find?, ih]

theorem mem_insert {α : Type u} {key : String} {value : α} {entries : List (String × α)}
    {entry : String × α} (h : entry ∈ insert key value entries) :
    entry = (key, value) ∨ entry ∈ entries := by
  induction entries with
  | nil => simpa [insert] using h
  | cons head rest ih =>
      rcases head with ⟨k, v⟩
      by_cases hlt : key < k
      · simpa [insert, hlt] using h
      · by_cases e : key = k
        · simp only [insert, e, String.lt_irrefl, ↓reduceIte, List.mem_cons] at h
          rcases h with h | h
          · exact Or.inl (by rw [h, e])
          · exact Or.inr (List.mem_cons_of_mem _ h)
        · simp only [insert, hlt, e, ↓reduceIte, List.mem_cons] at h
          rcases h with h | h
          · exact Or.inr (by simp [h])
          · rcases ih h with h | h
            · exact Or.inl h
            · exact Or.inr (List.mem_cons_of_mem _ h)

theorem Ordered.insert {α : Type u} {entries : List (String × α)} (h : Ordered entries)
    (key : String) (value : α) : Ordered (Entries.insert key value entries) := by
  induction entries with
  | nil => simp [Entries.insert, Ordered]
  | cons head rest ih =>
      rcases head with ⟨k, v⟩
      have hrest : Ordered rest := (List.pairwise_cons.mp h).2
      have hhead : forall entry, entry ∈ rest -> k < entry.1 := (List.pairwise_cons.mp h).1
      by_cases hlt : key < k
      · simp only [Entries.insert, hlt, ↓reduceIte]
        refine List.pairwise_cons.mpr ⟨?_, h⟩
        intro entry hmem
        rcases List.mem_cons.mp hmem with e | hmem
        · subst e
          exact hlt
        · exact String.lt_trans hlt (hhead entry hmem)
      · by_cases e : key = k
        · subst e
          simp only [Entries.insert, String.lt_irrefl, ↓reduceIte]
          exact List.pairwise_cons.mpr ⟨hhead, hrest⟩
        · simp only [Entries.insert, hlt, e, ↓reduceIte]
          refine List.pairwise_cons.mpr ⟨?_, ih hrest⟩
          intro entry hmem
          rcases mem_insert hmem with hnew | hold
          · subst hnew
            rcases String.le_total key k with hle | hle
            · exact absurd (String.le_antisymm hle (String.not_lt.mp hlt)) e
            · exact Decidable.byContradiction fun hnot =>
                e (String.le_antisymm (String.not_lt.mp hnot) hle)
          · exact hhead entry hold

theorem Ordered.erase {α : Type u} {entries : List (String × α)} (h : Ordered entries)
    (key : String) : Ordered (Entries.erase key entries) :=
  List.Pairwise.filter _ h

theorem ordered_ofList {α : Type u} (entries : List (String × α)) : Ordered (ofList entries) := by
  have key : forall (entries acc : List (String × α)), Ordered acc ->
      Ordered (entries.foldl (fun acc entry => Entries.insert entry.1 entry.2 acc) acc) := by
    intro entries
    induction entries with
    | nil => intro acc h; exact h
    | cons head rest ih => intro acc h; exact ih _ (h.insert head.1 head.2)
  exact key entries [] List.Pairwise.nil

theorem Ordered.map {α : Type u} {β : Type v} {entries : List (String × α)} (h : Ordered entries)
    (f : String -> α -> β) : Ordered (entries.map fun entry => (entry.1, f entry.1 entry.2)) := by
  induction entries with
  | nil => exact List.Pairwise.nil
  | cons head rest ih =>
      rcases List.pairwise_cons.mp h with ⟨hhead, hrest⟩
      refine List.pairwise_cons.mpr ⟨?_, ih hrest⟩
      intro entry hmem
      rcases List.mem_map.mp hmem with ⟨old, hold, rfl⟩
      exact hhead old hold

end Entries

/-! ## Tables -/

/-- A finite map from texts, with its entries in the order of their keys. -/
structure Table (α : Type u) where
  entries : List (String × α)
  ordered : Entries.Ordered entries
  deriving DecidableEq

namespace Table

/-- The table without entries. -/
def empty {α : Type u} : Table α := ⟨[], List.Pairwise.nil⟩

instance {α : Type u} : Inhabited (Table α) := ⟨empty⟩

/-- The table of a list of entries; the last of equal keys wins. -/
def ofList {α : Type u} (entries : List (String × α)) : Table α :=
  ⟨Entries.ofList entries, Entries.ordered_ofList entries⟩

def get? {α : Type u} (table : Table α) (key : String) : Option α :=
  Entries.find? key table.entries

/-- Stores a value under a key, replacing the value it had. -/
def insert {α : Type u} (table : Table α) (key : String) (value : α) : Table α :=
  ⟨Entries.insert key value table.entries, table.ordered.insert key value⟩

def erase {α : Type u} (table : Table α) (key : String) : Table α :=
  ⟨Entries.erase key table.entries, table.ordered.erase key⟩

/-- Applies a function to every value, keeping the keys. -/
def map {α : Type u} {β : Type v} (f : String -> α -> β) (table : Table α) : Table β :=
  ⟨table.entries.map fun entry => (entry.1, f entry.1 entry.2), table.ordered.map f⟩

def keys {α : Type u} (table : Table α) : List String := table.entries.map (·.1)

def isEmpty {α : Type u} (table : Table α) : Bool := table.entries.isEmpty

def contains {α : Type u} (table : Table α) (key : String) : Bool := (table.get? key).isSome

@[ext] theorem ext {α : Type u} {a b : Table α} (h : a.entries = b.entries) : a = b := by
  cases a
  cases b
  cases h
  rfl

@[simp] theorem get?_empty {α : Type u} (key : String) : (empty : Table α).get? key = none := rfl

@[simp] theorem get?_insert_self {α : Type u} (table : Table α) (key : String) (value : α) :
    (table.insert key value).get? key = some value :=
  Entries.find?_insert_self key value table.entries

theorem get?_insert_of_ne {α : Type u} (table : Table α) {key other : String} (h : other ≠ key)
    (value : α) : (table.insert key value).get? other = table.get? other :=
  Entries.find?_insert_of_ne h value table.entries

end Table

end SecretProjection
