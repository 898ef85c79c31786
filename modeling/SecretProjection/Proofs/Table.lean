import SecretProjection.Table

/-!
# Tables under mapping and rebuilding

A table whose values are mapped keeps its keys, and a list that is in order already is the table
built from it.  The keys of a table are those under which something is found, and two tables in
which the same is found are equal.
-/

namespace SecretProjection

universe u v

namespace Entries

variable {α : Type u} {β : Type v}

/-!
## Mapping
-/

theorem find?_map (f : String -> α -> β) (key : String) (entries : List (String × α)) :
    find? key (entries.map fun entry => (entry.1, f entry.1 entry.2)) =
      (find? key entries).map (f key) := by
  induction entries with
  | nil => rfl
  | cons head rest ih =>
      rcases head with ⟨k, v⟩
      by_cases h : k = key
      · subst h
        simp [find?]
      · simp [find?, h, ih]

theorem insert_map (f : String -> α -> β) (key : String) (value : α)
    (entries : List (String × α)) :
    (insert key value entries).map (fun entry => (entry.1, f entry.1 entry.2)) =
      insert key (f key value) (entries.map fun entry => (entry.1, f entry.1 entry.2)) := by
  induction entries with
  | nil => rfl
  | cons head rest ih =>
      rcases head with ⟨k, v⟩
      by_cases hlt : key < k
      · simp [insert, hlt]
      · by_cases heq : key = k
        · subst heq
          simp [insert]
        · simp [insert, hlt, heq, ih]

/-!
## Keys
-/

theorem mem_keys_iff {key : String} {entries : List (String × α)} :
    key ∈ entries.map (·.1) <-> exists value, find? key entries = some value := by
  induction entries with
  | nil => simp [find?]
  | cons head rest ih =>
      rcases head with ⟨k, v⟩
      by_cases h : k = key
      · subst h
        simp [find?]
      · simp [find?, h, ih, Ne.symm h]

theorem mem_of_find? {key : String} {value : α} {entries : List (String × α)}
    (h : find? key entries = some value) : (key, value) ∈ entries := by
  induction entries with
  | nil => cases h
  | cons head rest ih =>
      rcases head with ⟨k, v⟩
      by_cases heq : k = key
      · simp only [find?, heq, if_true, Option.some.injEq] at h
        rw [heq, h]
        exact List.mem_cons_self
      · simp only [find?, heq, if_false] at h
        exact List.mem_cons_of_mem _ (ih h)

/-!
## Removal
-/

theorem find?_erase_self (key : String) (entries : List (String × α)) :
    find? key (erase key entries) = none := by
  induction entries with
  | nil => rfl
  | cons head rest ih =>
      by_cases h : head.1 = key
      · simpa [erase, h] using ih
      · simpa [erase, find?, h] using ih

theorem find?_erase_of_ne {key other : String} (h : other ≠ key) (entries : List (String × α)) :
    find? other (erase key entries) = find? other entries := by
  induction entries with
  | nil => rfl
  | cons head rest ih =>
      by_cases hkey : head.1 = key
      · have hne : ¬ head.1 = other := by
          rw [hkey]
          exact Ne.symm h
        simpa [erase, find?, hkey, hne, Ne.symm h] using ih
      · by_cases hother : head.1 = other
        · simp [erase, find?, hother, h]
        · simpa [erase, find?, hkey, hother] using ih

/-!
## Order
-/

theorem ordered_iff_keys {entries : List (String × α)} :
    Ordered entries <-> (entries.map (·.1)).Pairwise (· < ·) := by
  unfold Ordered
  rw [List.pairwise_map]

theorem Ordered.nodup_keys {entries : List (String × α)} (h : Ordered entries) :
    (entries.map (·.1)).Nodup := by
  apply (ordered_iff_keys.mp h).imp
  intro key other hlt heq
  subst heq
  exact String.lt_irrefl key hlt

theorem Ordered.find?_of_mem {entries : List (String × α)} (h : Ordered entries) {key : String}
    {value : α} (hmem : (key, value) ∈ entries) : find? key entries = some value := by
  induction entries with
  | nil => cases hmem
  | cons head rest ih =>
      rcases head with ⟨k, v⟩
      rcases List.pairwise_cons.mp h with ⟨hhead, hrest⟩
      rcases List.mem_cons.mp hmem with heq | hmem
      · cases heq
        simp [find?]
      · have hne : k ≠ key := by
          rintro rfl
          exact String.lt_irrefl k (hhead _ hmem)
        simp [find?, hne, ih hrest hmem]

theorem Ordered.of_keys_eq {entries : List (String × α)} {others : List (String × β)}
    (h : Ordered entries) (hkeys : others.map (·.1) = entries.map (·.1)) : Ordered others := by
  rw [ordered_iff_keys, hkeys]
  exact ordered_iff_keys.mp h

theorem insert_of_forall_lt {key : String} {value : α} {entries : List (String × α)}
    (h : forall entry, entry ∈ entries -> entry.1 < key) :
    insert key value entries = entries ++ [(key, value)] := by
  induction entries with
  | nil => rfl
  | cons head rest ih =>
      rcases head with ⟨k, v⟩
      have hk : k < key := h (k, v) List.mem_cons_self
      have hnot : ¬ key < k := by
        intro hlt
        exact String.lt_irrefl k (String.lt_trans hk hlt)
      have hne : ¬ key = k := by
        intro heq
        subst heq
        exact String.lt_irrefl key hk
      have hrest := ih fun entry hmem => h entry (List.mem_cons_of_mem _ hmem)
      simp [insert, hnot, hne, hrest]

/-- The list built so far is in order and lies below what is still to come. -/
theorem foldl_insert_of_ordered {entries done : List (String × α)}
    (h : Ordered (done ++ entries)) :
    entries.foldl (fun acc entry => insert entry.1 entry.2 acc) done = done ++ entries := by
  induction entries generalizing done with
  | nil => simp
  | cons head rest ih =>
      have hbelow : forall entry, entry ∈ done -> entry.1 < head.1 := by
        intro entry hmem
        exact (List.pairwise_append.mp h).2.2 entry hmem head List.mem_cons_self
      have happend : done ++ [(head.1, head.2)] ++ rest = done ++ head :: rest := by
        simp
      have hnext : Ordered (done ++ [(head.1, head.2)] ++ rest) := by
        rw [happend]
        exact h
      rw [List.foldl_cons, insert_of_forall_lt hbelow, ih hnext, happend]

theorem ofList_of_ordered {entries : List (String × α)} (h : Ordered entries) :
    ofList entries = entries := by
  have hnil : Ordered ([] ++ entries) := h
  exact foldl_insert_of_ordered hnil

/-!
## Contents
-/

theorem find?_of_forall_lt {key : String} {entries : List (String × α)}
    (h : forall entry, entry ∈ entries -> key < entry.1) : find? key entries = none := by
  induction entries with
  | nil => rfl
  | cons head rest ih =>
      rcases head with ⟨k, v⟩
      have hne : k ≠ key := by
        intro heq
        subst heq
        exact String.lt_irrefl k (h (k, v) List.mem_cons_self)
      simp [find?, hne, ih fun entry hmem => h entry (List.mem_cons_of_mem _ hmem)]

/-- The first key of one list is not below that of another list with the same contents. -/
theorem not_lt_of_find?_eq {k other : String} {v w : α} {entries others : List (String × α)}
    (h : Ordered ((other, w) :: others))
    (hfind : forall key, find? key ((k, v) :: entries) = find? key ((other, w) :: others)) :
    ¬ k < other := by
  intro hlt
  have hnone : find? k ((other, w) :: others) = none := by
    apply find?_of_forall_lt
    intro entry hmem
    rcases List.mem_cons.mp hmem with rfl | hrest
    · exact hlt
    · exact String.lt_trans hlt ((List.pairwise_cons.mp h).1 entry hrest)
  have hsome := hfind k
  rw [hnone] at hsome
  simp [find?] at hsome

/-- Lists in order are told apart by what is found in them. -/
theorem Ordered.eq_of_find?_eq {entries others : List (String × α)} (h : Ordered entries)
    (hothers : Ordered others) (hfind : forall key, find? key entries = find? key others) :
    entries = others := by
  induction entries generalizing others with
  | nil =>
      cases others with
      | nil => rfl
      | cons head rest =>
          have hnone := hfind head.1
          simp [find?] at hnone
  | cons head rest ih =>
      rcases head with ⟨k, v⟩
      cases others with
      | nil =>
          have hnone := hfind k
          simp [find?] at hnone
      | cons second tail =>
          rcases second with ⟨other, w⟩
          have hkey : k = other := by
            have hle : ¬ k < other := not_lt_of_find?_eq hothers hfind
            have hge : ¬ other < k := not_lt_of_find?_eq h fun key => (hfind key).symm
            exact String.le_antisymm (String.not_lt.mp hge) (String.not_lt.mp hle)
          subst hkey
          have hvalue : v = w := by
            have hboth := hfind k
            simpa [find?] using hboth
          subst hvalue
          rcases List.pairwise_cons.mp h with ⟨hhead, hrest⟩
          rcases List.pairwise_cons.mp hothers with ⟨hsecond, htail⟩
          have hsame : rest = tail := by
            apply ih hrest htail
            intro key
            by_cases heq : k = key
            · subst heq
              rw [find?_of_forall_lt hhead, find?_of_forall_lt hsecond]
            · have hboth := hfind key
              simpa [find?, heq] using hboth
          rw [hsame]

end Entries

namespace Table

variable {α : Type u} {β : Type v}

@[simp] theorem get?_map (f : String -> α -> β) (table : Table α) (key : String) :
    (table.map f).get? key = (table.get? key).map (f key) :=
  Entries.find?_map f key table.entries

@[simp] theorem keys_map (f : String -> α -> β) (table : Table α) :
    (table.map f).keys = table.keys := by
  unfold keys map
  rw [List.map_map]
  rfl

theorem map_insert (f : String -> α -> β) (table : Table α) (key : String) (value : α) :
    (table.insert key value).map f = (table.map f).insert key (f key value) :=
  Table.ext (Entries.insert_map f key value table.entries)

theorem mem_keys_iff {table : Table α} {key : String} :
    key ∈ table.keys <-> exists value, table.get? key = some value :=
  Entries.mem_keys_iff

theorem mem_entries_iff {table : Table α} {key : String} {value : α} :
    (key, value) ∈ table.entries <-> table.get? key = some value :=
  ⟨table.ordered.find?_of_mem, Entries.mem_of_find?⟩

theorem nodup_keys (table : Table α) : (table.entries.map (·.1)).Nodup :=
  table.ordered.nodup_keys

/-- Tables are told apart by what is found in them. -/
theorem eq_of_get?_eq {table other : Table α} (h : forall key, table.get? key = other.get? key) :
    table = other :=
  Table.ext (table.ordered.eq_of_find?_eq other.ordered h)

theorem entries_ofList_of_ordered {entries : List (String × α)} (h : Entries.Ordered entries) :
    (ofList entries).entries = entries :=
  Entries.ofList_of_ordered h

end Table

end SecretProjection
