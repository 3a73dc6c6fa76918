import Mathlib.Data.List.Nodup
import Mathlib.Data.List.Sort
import RelStore.NameMap

/-!
# The entries of maps by name

A map by name is its view and is its list of entries.  The view is what operations are described
by, the entries are what a map is listed by; `get?_eq_some_iff` goes from one to the other.

A name greater than all others is put in at the end of the entries, so inserting the entries of a
map in their order builds the map again.
-/

namespace RelStore

universe u

variable {α : Type u}

/-- A pair whose name no other pair has is the one found under its name. -/
theorem lookup_eq_some_of_mem {pairs : List (String × α)} {name : String} {value : α}
    (hnodup : (pairs.map (·.1)).Nodup) (h : (name, value) ∈ pairs) :
    pairs.lookup name = some value := by
  obtain ⟨before, after, rfl⟩ := List.append_of_mem h
  rw [List.map_append, List.nodup_append] at hnodup
  refine List.lookup_eq_some_iff.mpr ⟨before, after, rfl, fun pair hpair => ?_⟩
  have hne := hnodup.2.2 pair.1 (List.mem_map_of_mem hpair) name (by simp)
  simpa [bne_iff_ne] using Ne.symm hne

namespace NameMap

theorem ne_of_lt {a b : String} (h : a < b) : a ≠ b := by
  rintro rfl
  exact String.lt_irrefl _ h

/-- No name has two entries. -/
theorem nodup_names (m : NameMap α) : m.names.Nodup := by
  unfold names
  rw [List.nodup_iff_pairwise_ne, List.pairwise_map]
  exact m.ordered.imp ne_of_lt

/-- The names are listed in increasing order. -/
theorem pairwise_names (m : NameMap α) : m.names.Pairwise (· < ·) :=
  List.pairwise_map.mpr m.ordered

/-- The first name that passes a test is the least that does. -/
theorem find?_names_eq_some_iff {m : NameMap α} {p : String → Bool} {name : String} :
    m.names.find? p = some name ↔
      name ∈ m.names ∧ p name = true ∧ ∀ other ∈ m.names, p other = true → other ≠ name →
        name < other := by
  have hordered := m.pairwise_names
  rw [List.find?_eq_some_iff_append]
  constructor
  · rintro ⟨hname, before, after, hnames, hbefore⟩
    rw [hnames, List.pairwise_append, List.pairwise_cons] at hordered
    rw [hnames]
    refine ⟨List.mem_append_cons_self, hname, fun other hmem hother hne => ?_⟩
    rcases List.mem_append.mp hmem with hmem | hmem
    · exact absurd hother (by simpa using hbefore other hmem)
    · exact hordered.2.1.1 other ((List.mem_cons.mp hmem).resolve_left hne)
  · rintro ⟨hmem, hname, hleast⟩
    obtain ⟨before, after, hnames⟩ := List.append_of_mem hmem
    rw [hnames, List.pairwise_append] at hordered
    refine ⟨hname, before, after, hnames, fun other hother => ?_⟩
    -- a name before it that passed would not be greater
    have hlt : other < name := hordered.2.2 other hother name List.mem_cons_self
    have hfails : ¬ p other = true := fun hpasses =>
      String.lt_asymm hlt (hleast other (hnames ▸ List.mem_append_left _ hother) hpasses
        (ne_of_lt hlt))
    simpa using hfails

/-- The view is the list of entries. -/
theorem get?_eq_some_iff {m : NameMap α} {name : String} {value : α} :
    m.get? name = some value ↔ (name, value) ∈ m.entries := by
  unfold get?
  constructor
  · intro h
    obtain ⟨before, after, hentries, -⟩ := List.lookup_eq_some_iff.mp h
    simp [hentries]
  · exact lookup_eq_some_of_mem m.nodup_names

theorem ext_entries {m n : NameMap α} (h : m.entries = n.entries) : m = n := by
  cases m
  cases n
  simp only at h
  subst h
  rfl

/-- Maps of the same view are the same. -/
theorem ext_get? {m n : NameMap α} (h : ∀ name, m.get? name = n.get? name) : m = n := by
  have hmem : ∀ entry, entry ∈ m.entries ↔ entry ∈ n.entries := by
    rintro ⟨name, value⟩
    rw [← get?_eq_some_iff, ← get?_eq_some_iff, h]
  have hperm : m.entries.Perm n.entries :=
    (List.perm_ext_iff_of_nodup m.nodup_names.of_map n.nodup_names.of_map).mpr hmem
  exact ext_entries
    (hperm.eq_of_pairwise (fun _ _ _ _ hab hba => absurd hba (String.lt_asymm hab)) m.ordered
      n.ordered)

/-- Of two values put in at one name the later stays. -/
@[simp] theorem insert_insert_self (m : NameMap α) (name : String) (first second : α) :
    (m.insert name first).insert name second = m.insert name second := by
  refine ext_get? fun query => ?_
  simp only [get?_insert]
  split <;> rfl

/-- Values put in at two names may be put in in either order. -/
theorem insert_comm (m : NameMap α) {name other : String} (h : name ≠ other) (value : α)
    (otherValue : α) : (m.insert name value).insert other otherValue =
      (m.insert other otherValue).insert name value := by
  refine ext_get? fun query => ?_
  simp only [get?_insert]
  split
  next heq => rw [if_neg fun hname => h (hname.symm.trans heq)]
  next => rfl

/-- Putting in what is there changes nothing. -/
theorem insert_of_get?_eq {m : NameMap α} {name : String} {value : α}
    (h : m.get? name = some value) : m.insert name value = m := by
  refine ext_get? fun query => ?_
  rw [get?_insert]
  split
  next heq => rw [heq, h]
  next => rfl

theorem mem_names_iff {m : NameMap α} {name : String} :
    name ∈ m.names ↔ (m.get? name).isSome = true := by
  rw [Option.isSome_iff_exists]
  unfold names
  constructor
  · intro h
    obtain ⟨⟨_, value⟩, hentry, rfl⟩ := List.mem_map.mp h
    exact ⟨value, get?_eq_some_iff.mpr hentry⟩
  · rintro ⟨value, h⟩
    exact List.mem_map.mpr ⟨(name, value), get?_eq_some_iff.mp h, rfl⟩

/-- Maps with values at the same names list the same names. -/
theorem names_eq_of_isSome_eq {m n : NameMap α}
    (h : ∀ name, (m.get? name).isSome = (n.get? name).isSome) : m.names = n.names := by
  -- lists in order that have the same members are the same
  have hperm : m.names.Perm n.names := by
    refine (List.perm_ext_iff_of_nodup m.nodup_names n.nodup_names).mpr fun name => ?_
    rw [mem_names_iff, mem_names_iff, h]
  exact hperm.eq_of_pairwise (fun _ _ _ _ hab hba => absurd hba (String.lt_asymm hab))
    m.pairwise_names n.pairwise_names

/-! ## Building a map from its entries -/

theorem insertEntry_of_forall_lt {name : String} {value : α} {entries : List (String × α)}
    (h : ∀ entry ∈ entries, entry.1 < name) :
    insertEntry name value entries = entries ++ [(name, value)] := by
  induction entries with
  | nil => rfl
  | cons entry rest ih =>
      have hlt := h entry List.mem_cons_self
      unfold insertEntry
      rw [if_neg (String.lt_asymm hlt), if_neg (ne_of_lt hlt).symm,
        ih fun other hother => h other (List.mem_cons_of_mem _ hother)]
      rfl

/-- A name greater than all others is put in at the end. -/
theorem entries_insert_of_forall_lt {m : NameMap α} {name : String} {value : α}
    (h : ∀ entry ∈ m.entries, entry.1 < name) :
    (m.insert name value).entries = m.entries ++ [(name, value)] :=
  insertEntry_of_forall_lt h

theorem contains_eq_false_iff {m : NameMap α} {name : String} :
    m.contains name = false ↔ ∀ entry ∈ m.entries, entry.1 ≠ name := by
  unfold contains
  rw [Option.isSome_eq_false_iff, Option.isNone_iff_eq_none, Option.eq_none_iff_forall_ne_some]
  constructor
  · rintro h ⟨other, value⟩ hmem rfl
    exact h value (get?_eq_some_iff.mpr hmem)
  · intro h value hvalue
    exact h _ (get?_eq_some_iff.mp hvalue) rfl

/-- Entries in order that go on after those of a map are put in after them. -/
theorem entries_foldl_insert {m : NameMap α} {entries : List (String × α)}
    (h : (m.entries ++ entries).Pairwise (fun p q => p.1 < q.1)) :
    (entries.foldl (fun m entry => m.insert entry.1 entry.2) m).entries = m.entries ++ entries := by
  induction entries generalizing m with
  | nil => simp
  | cons entry entries ih =>
      have hgreatest : ∀ other ∈ m.entries, other.1 < entry.1 := fun other hother =>
        (List.pairwise_append.mp h).2.2 other hother entry List.mem_cons_self
      have hinsert : (m.insert entry.1 entry.2).entries = m.entries ++ [entry] :=
        entries_insert_of_forall_lt hgreatest
      rw [List.foldl_cons, ih (by rw [hinsert]; simpa using h), hinsert]
      simp

/-- Inserting the entries of a map in their order builds the map. -/
theorem ofList_entries (m : NameMap α) : ofList m.entries = m :=
  ext_entries (entries_foldl_insert (m := ∅) m.ordered)

/-- Of pairs with one name the last counts. -/
theorem get?_ofList (pairs : List (String × α)) (name : String) :
    (ofList pairs).get? name = pairs.reverse.lookup name := by
  have hfold : ∀ (pairs : List (String × α)) (m : NameMap α),
      (pairs.foldl (fun m pair => m.insert pair.1 pair.2) m).get? name =
        (pairs.reverse.lookup name).or (m.get? name) := by
    intro pairs
    induction pairs with
    | nil => intro m; rfl
    | cons pair pairs ih =>
        intro m
        rw [List.foldl_cons, ih, List.reverse_cons, List.lookup_append, Option.or_assoc]
        refine congrArg _ ?_
        obtain ⟨key, value⟩ := pair
        rw [get?_insert, List.lookup_cons, List.lookup_nil]
        by_cases h : name = key
        · simp [h]
        · simp [h, beq_false_of_ne h]
  rw [ofList, hfold, get?_empty, Option.or_none]

/-- A pair counts if all pairs of its name have its value. -/
theorem get?_ofList_of_forall {name : String} {value : α} {pairs : List (String × α)}
    (h : (name, value) ∈ pairs) (hvalue : ∀ pair ∈ pairs, pair.1 = name → pair.2 = value) :
    (ofList pairs).get? name = some value := by
  rw [get?_ofList]
  cases hlookup : pairs.reverse.lookup name with
  | none =>
      have hne := List.lookup_eq_none_iff.mp hlookup (name, value) (List.mem_reverse.mpr h)
      simp at hne
  | some other =>
      obtain ⟨before, after, hpairs, -⟩ := List.lookup_eq_some_iff.mp hlookup
      have hmem : (name, other) ∈ pairs := by
        rw [← List.mem_reverse, hpairs]
        simp
      exact congrArg some (hvalue _ hmem rfl)

end NameMap

end RelStore
