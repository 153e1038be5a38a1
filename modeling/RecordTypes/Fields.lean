/-!
# Named fields

`Fields α` maps names to values and remembers the order in which the names came: a name keeps its
first place and has its last value.  The entries are a list without repeated names, and every
operation is said in terms of that list.
-/

namespace RecordTypes

/-- Puts a value under a name: in the place of the name, or at the end. -/
def putEntry {α : Type} (name : String) (value : α) : List (String × α) → List (String × α)
  | [] => [(name, value)]
  | entry :: rest =>
    if entry.1 = name then (name, value) :: rest else entry :: putEntry name value rest

theorem map_fst_putEntry_of_mem {α : Type} {name : String} {entries : List (String × α)}
    (h : name ∈ entries.map (·.1)) (value : α) :
    (putEntry name value entries).map (·.1) = entries.map (·.1) := by
  induction entries with
  | nil => simp at h
  | cons entry rest ih =>
    by_cases e : entry.1 = name
    · simp [putEntry, e]
    · have : name ∈ rest.map (·.1) := by simpa [Ne.symm e] using h
      simp only [putEntry, if_neg e, List.map_cons, ih this]

theorem putEntry_of_not_mem {α : Type} {name : String} {entries : List (String × α)}
    (h : name ∉ entries.map (·.1)) (value : α) :
    putEntry name value entries = entries ++ [(name, value)] := by
  induction entries with
  | nil => rfl
  | cons entry rest ih =>
    have h' : entry.1 ≠ name ∧ name ∉ rest.map (·.1) := by
      simpa [eq_comm, not_or] using h
    rw [putEntry, if_neg h'.1, ih h'.2, List.cons_append]

theorem map_fst_putEntry_of_not_mem {α : Type} {name : String} {entries : List (String × α)}
    (h : name ∉ entries.map (·.1)) (value : α) :
    (putEntry name value entries).map (·.1) = entries.map (·.1) ++ [name] := by
  rw [putEntry_of_not_mem h, List.map_append, List.map_singleton]

theorem nodup_putEntry {α : Type} {entries : List (String × α)}
    (h : (entries.map (·.1)).Nodup) (name : String) (value : α) :
    ((putEntry name value entries).map (·.1)).Nodup := by
  by_cases hm : name ∈ entries.map (·.1)
  · rwa [map_fst_putEntry_of_mem hm]
  · rw [map_fst_putEntry_of_not_mem hm, List.nodup_append]
    refine ⟨h, by simp, fun a ha b hb => ?_⟩
    rintro rfl
    exact hm (List.mem_singleton.mp hb ▸ ha)

/-- Values under distinct names, in the order of the names' first arrival. -/
structure Fields (α : Type) where
  entries : List (String × α)
  nodup : (entries.map (·.1)).Nodup

namespace Fields

variable {α β : Type}

/-- No fields. -/
def empty : Fields α := ⟨[], .nil⟩

/-- Gives a name a value: a known name keeps its place, a new one comes last. -/
def put (f : Fields α) (name : String) (value : α) : Fields α :=
  ⟨putEntry name value f.entries, nodup_putEntry f.nodup name value⟩

/-- The value of a name. -/
def get? (f : Fields α) (name : String) : Option α := f.entries.lookup name

/-- Gives a name a value and hands back the one it had. -/
def insert (f : Fields α) (name : String) (value : α) : Option α × Fields α :=
  (f.get? name, f.put name value)

/-- The fields of a list, in which later entries win over earlier ones of their name. -/
def ofList (entries : List (String × α)) : Fields α :=
  entries.foldl (fun f entry => f.put entry.1 entry.2) empty

/-- The names, in order. -/
def names (f : Fields α) : List String := f.entries.map (·.1)

/-- The values, in the order of their names. -/
def values (f : Fields α) : List α := f.entries.map (·.2)

/-- The place of a name. -/
def position? (f : Fields α) (name : String) : Option Nat := f.names.idxOf? name

/-- Whether a name has a value. -/
def contains (f : Fields α) (name : String) : Bool := f.names.contains name

/-- The number of fields. -/
def length (f : Fields α) : Nat := f.entries.length

/-- Whether there are no fields. -/
def isEmpty (f : Fields α) : Bool := f.entries.isEmpty

/-- Changes every value and keeps the names. -/
def map (g : α → β) (f : Fields α) : Fields β where
  entries := f.entries.map fun entry => (entry.1, g entry.2)
  nodup := by simpa [List.map_map, Function.comp_def] using f.nodup

@[simp] theorem names_map (g : α → β) (f : Fields α) : (f.map g).names = f.names := by
  simp [names, map, List.map_map, Function.comp_def]

@[simp] theorem values_map (g : α → β) (f : Fields α) : (f.map g).values = f.values.map g := by
  simp [values, map, List.map_map, Function.comp_def]

end Fields

end RecordTypes
