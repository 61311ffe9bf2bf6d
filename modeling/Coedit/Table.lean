/-!
# Tables

Finite maps that keep their entries in the order in which the keys were first
written.  Look-ups decide what a table means: `get?_insert`, `get?_erase`, `get?_filter`
and `get?_modify` say what each change does to them.
-/

namespace Coedit

namespace Table

variable {κ ν : Type}

theorem nodup_keys_filter {keep : κ × ν → Bool} {entries : List (κ × ν)}
    (nodup : (entries.map Prod.fst).Nodup) : ((entries.filter keep).map Prod.fst).Nodup :=
  nodup.sublist (List.filter_sublist.map Prod.fst)

variable [DecidableEq κ]

/-- The value of the first entry with this key. -/
def find? (key : κ) : List (κ × ν) → Option ν
  | [] => none
  | entry :: rest => if entry.1 = key then some entry.2 else find? key rest

/-- Put a value at a key, in the place of the entry that is already there. -/
def put (key : κ) (value : ν) : List (κ × ν) → List (κ × ν)
  | [] => [(key, value)]
  | entry :: rest =>
      if entry.1 = key then (key, value) :: rest else entry :: put key value rest

theorem find?_put (key other : κ) (value : ν) (entries : List (κ × ν)) :
    find? other (put key value entries) =
      if key = other then some value else find? other entries := by
  induction entries with
  | nil => simp [put, find?]
  | cons entry rest ih =>
      simp only [put]
      split <;> grind [find?]

theorem mem_keys_put {key other : κ} {value : ν} {entries : List (κ × ν)} :
    other ∈ (put key value entries).map Prod.fst ↔ other = key ∨ other ∈ entries.map Prod.fst := by
  induction entries with
  | nil => simp [put]
  | cons entry rest ih =>
      simp only [put]
      split <;> grind

theorem nodup_keys_put {key : κ} {value : ν} {entries : List (κ × ν)}
    (nodup : (entries.map Prod.fst).Nodup) : ((put key value entries).map Prod.fst).Nodup := by
  induction entries with
  | nil => simp [put]
  | cons entry rest ih =>
      simp only [put]
      split
      · grind
      · rw [List.map_cons, List.nodup_cons] at nodup ⊢
        exact ⟨by rw [mem_keys_put]; grind, ih nodup.2⟩

end Table

/-- A finite map as a list of entries with distinct keys. -/
structure Table (κ ν : Type) where
  entries : List (κ × ν)
  nodup : (entries.map Prod.fst).Nodup
  deriving DecidableEq, Repr

namespace Table

variable {κ ν : Type} [DecidableEq κ]

/-- The table without entries. -/
def empty : Table κ ν := ⟨[], .nil⟩

instance : Inhabited (Table κ ν) := ⟨empty⟩

/-- The value at a key. -/
def get? (table : Table κ ν) (key : κ) : Option ν := find? key table.entries

def contains (table : Table κ ν) (key : κ) : Bool := (table.get? key).isSome

/-- The table with `value` at `key`. -/
def insert (table : Table κ ν) (key : κ) (value : ν) : Table κ ν :=
  ⟨put key value table.entries, nodup_keys_put table.nodup⟩

/-- The entries that are to be kept. -/
def filter (table : Table κ ν) (keep : κ → ν → Bool) : Table κ ν :=
  ⟨table.entries.filter fun entry => keep entry.1 entry.2, nodup_keys_filter table.nodup⟩

/-- The table without `key`. -/
def erase (table : Table κ ν) (key : κ) : Table κ ν := table.filter fun other _ => other ≠ key

/-- Change the value at a key, if there is one. -/
def modify (table : Table κ ν) (key : κ) (change : ν → ν) : Table κ ν :=
  match table.get? key with
  | some value => table.insert key (change value)
  | none => table

/-- The table with these entries; of several with one key the last counts. -/
def ofList (entries : List (κ × ν)) : Table κ ν :=
  entries.foldl (fun table entry => table.insert entry.1 entry.2) empty

def keys (table : Table κ ν) : List κ := table.entries.map Prod.fst

def values (table : Table κ ν) : List ν := table.entries.map Prod.snd

/-- How many keys have a value. -/
def size (table : Table κ ν) : Nat := table.entries.length

def isEmpty (table : Table κ ν) : Bool := table.entries.isEmpty

theorem find?_eq_some_iff {key : κ} {value : ν} {entries : List (κ × ν)}
    (nodup : (entries.map Prod.fst).Nodup) :
    find? key entries = some value ↔ (key, value) ∈ entries := by
  induction entries with
  | nil => simp [find?]
  | cons entry rest ih =>
      rw [List.map_cons, List.nodup_cons] at nodup
      grind [find?]

theorem find?_filter {key : κ} {keep : κ → ν → Bool} {entries : List (κ × ν)}
    (nodup : (entries.map Prod.fst).Nodup) :
    find? key (entries.filter fun entry => keep entry.1 entry.2) =
      (find? key entries).filter (keep key) := by
  ext value
  rw [find?_eq_some_iff (nodup_keys_filter nodup), List.mem_filter, Option.filter_eq_some_iff,
    find?_eq_some_iff nodup]

/-- A table has a value at a key just if it has the entry. -/
theorem get?_eq_some_iff {table : Table κ ν} {key : κ} {value : ν} :
    table.get? key = some value ↔ (key, value) ∈ table.entries :=
  find?_eq_some_iff table.nodup

@[simp] theorem get?_empty (key : κ) : (empty : Table κ ν).get? key = none := rfl

theorem get?_insert (table : Table κ ν) (key other : κ) (value : ν) :
    (table.insert key value).get? other =
      if key = other then some value else table.get? other :=
  find?_put key other value table.entries

theorem get?_filter (table : Table κ ν) (keep : κ → ν → Bool) (key : κ) :
    (table.filter keep).get? key = (table.get? key).filter (keep key) :=
  find?_filter table.nodup

theorem get?_erase (table : Table κ ν) (key other : κ) :
    (table.erase key).get? other = if key = other then none else table.get? other := by
  rw [erase, get?_filter]
  split <;> cases table.get? other <;> grind

/-- What is found after something was erased was there before. -/
theorem get?_of_erase {table : Table κ ν} {key other : κ} {value : ν}
    (found : (table.erase key).get? other = some value) :
    key ≠ other ∧ table.get? other = some value := by
  rw [get?_erase] at found
  split at found
  · cases found
  · next apart => exact ⟨apart, found⟩

theorem get?_modify (table : Table κ ν) (key other : κ) (change : ν → ν) :
    (table.modify key change).get? other =
      if key = other then (table.get? other).map change else table.get? other := by
  unfold modify
  cases found : table.get? key with
  | none => grind
  | some value =>
      rw [get?_insert]
      split
      · next same => rw [← same, found, Option.map_some]
      · rfl

@[simp] theorem get?_insert_self (table : Table κ ν) (key : κ) (value : ν) :
    (table.insert key value).get? key = some value := by
  simp [get?_insert]

@[simp] theorem get?_erase_self (table : Table κ ν) (key : κ) :
    (table.erase key).get? key = none := by
  simp [get?_erase]

end Table

end Coedit
