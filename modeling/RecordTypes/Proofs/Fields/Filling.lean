import RecordTypes.Proofs.Fields.Lookup
import Mathlib.Data.List.Induction
import Mathlib.Tactic.SplitIfs

/-!
# Filling fields

Fields are filled with entries that are put in one by one or collected from a list, in any order of
both.  Nothing counts but the list of all that was given (`Fields.fill_eq_ofList`): its names stand
in the order in which they came first (`Fields.names_ofList`), each with the value that it came with
last (`Fields.get?_ofList`).  An entry that is put in leaves every other one as it is and where it
is (`Fields.get?_put`, `Fields.position?_put_of_ne`).
-/

namespace RecordTypes

variable {α : Type} {name other : String} {value : α} {entries : List (String × α)}

/-! ### One entry among others -/

theorem lookup_cons_eq_ite (entry : String × α) (rest : List (String × α)) (name : String) :
    (entry :: rest).lookup name = if name = entry.1 then some entry.2 else rest.lookup name := by
  by_cases h : name = entry.1
  · rw [if_pos h, h, List.lookup_cons_self]
  · rw [if_neg h, List.lookup_cons, beq_false_of_ne h]

theorem lookup_putEntry (name : String) (value : α) (entries : List (String × α))
    (other : String) : (putEntry name value entries).lookup other =
      if other = name then some value else entries.lookup other := by
  induction entries with
  | nil => exact lookup_cons_eq_ite (name, value) [] other
  | cons entry rest ih =>
    by_cases hentry : entry.1 = name
    · rw [putEntry, if_pos hentry, lookup_cons_eq_ite, lookup_cons_eq_ite, hentry]
      split_ifs <;> rfl
    · -- The first entry stays, and answers for a name that is not the one put in.
      rw [putEntry, if_neg hentry, lookup_cons_eq_ite, lookup_cons_eq_ite, ih]
      by_cases h : other = entry.1
      · rw [if_pos h, if_pos h, if_neg (h ▸ hentry)]
      · rw [if_neg h, if_neg h]

namespace Fields

variable {f g : Fields α}

theorem get?_put (f : Fields α) (name : String) (value : α) (other : String) :
    (f.put name value).get? other = if other = name then some value else f.get? other :=
  lookup_putEntry name value f.entries other

theorem names_put (f : Fields α) (name : String) (value : α) :
    (f.put name value).names = if name ∈ f.names then f.names else f.names ++ [name] := by
  by_cases h : name ∈ f.names
  · rw [if_pos h]
    exact map_fst_putEntry_of_mem h value
  · rw [if_neg h]
    exact map_fst_putEntry_of_not_mem h value

/-- A name that is put in takes no other name from its place. -/
theorem position?_put_of_ne (h : other ≠ name) (f : Fields α) (value : α) :
    (f.put name value).position? other = f.position? other := by
  rw [position?, position?, names_put]
  split_ifs
  · rfl
  · have hlast : [name].idxOf? other = none := List.idxOf?_eq_none_iff.mpr (by simpa using h)
    have happend : (f.names ++ [name]).idxOf? other =
        (f.names.idxOf? other).or (([name].idxOf? other).map (· + f.names.length)) :=
      List.findIdx?_append
    rw [happend, hlast, Option.map_none, Option.or_none]

/-! ### Collecting -/

theorem ofList_append (entries more : List (String × α)) : ofList (entries ++ more) =
    more.foldl (fun f entry => f.put entry.1 entry.2) (ofList entries) :=
  List.foldl_append

theorem ofList_concat (entries : List (String × α)) (entry : String × α) :
    ofList (entries ++ [entry]) = (ofList entries).put entry.1 entry.2 :=
  ofList_append entries [entry]

theorem eraseDups_concat (names : List String) (name : String) :
    (names ++ [name]).eraseDups =
      if name ∈ names then names.eraseDups else names.eraseDups ++ [name] := by
  rw [List.eraseDups_append]
  split_ifs with h
  · have hrest : [name].removeAll names = [] := List.filter_eq_nil_iff.mpr (by simpa using h)
    rw [hrest, List.eraseDups_nil, List.append_nil]
  · have hrest : [name].removeAll names = [name] := List.filter_eq_self.mpr (by simpa using h)
    rw [hrest]
    rfl

/-- The names stand in the order in which they came first. -/
theorem names_ofList (entries : List (String × α)) :
    (ofList entries).names = (entries.map (·.1)).eraseDups := by
  induction entries using List.reverseRecOn with
  | nil => rfl
  | append_singleton entries entry ih =>
    rw [ofList_concat, names_put, ih, List.map_append, List.map_singleton, eraseDups_concat]
    simp only [List.mem_eraseDups]

/-- A name has the value that it came with last. -/
theorem get?_ofList (entries : List (String × α)) (name : String) :
    (ofList entries).get? name = entries.reverse.lookup name := by
  induction entries using List.reverseRecOn with
  | nil => rfl
  | append_singleton entries entry ih =>
    rw [ofList_concat, get?_put, ih, List.reverse_concat, lookup_cons_eq_ite]

theorem entries_ofList_of_nodup (h : (entries.map (·.1)).Nodup) :
    (ofList entries).entries = entries := by
  induction entries using List.reverseRecOn with
  | nil => rfl
  | append_singleton entries entry ih =>
    rw [List.map_append, List.map_singleton, ← List.concat_eq_append, List.nodup_concat] at h
    rw [ofList_concat]
    show putEntry entry.1 entry.2 (ofList entries).entries = entries ++ [entry]
    rw [ih h.2]
    exact putEntry_of_not_mem h.1 entry.2

theorem eq_of_entries_eq (h : f.entries = g.entries) : f = g := by
  obtain ⟨entries, hnodup⟩ := f
  obtain ⟨entries', hnodup'⟩ := g
  obtain rfl : entries = entries' := h
  rfl

/-- Collecting the entries of fields gives these fields. -/
theorem ofList_entries (f : Fields α) : ofList f.entries = f :=
  eq_of_entries_eq (entries_ofList_of_nodup f.nodup)

/-! ### Filling in any way -/

/-- One way to fill fields. -/
inductive Filling (α : Type) where
  /-- Gives a name a value, and hands back the one it had. -/
  | insert (name : String) (value : α)
  /-- Gives a name a value. -/
  | put (name : String) (value : α)
  /-- Begins anew with the entries of a list. -/
  | collect (entries : List (String × α))
  /-- Takes all entries out and collects them again, with those of a list behind them. -/
  | recollect (entries : List (String × α))

namespace Filling

/-- What becomes of fields. -/
def fill (f : Fields α) : Filling α → Fields α
  | .insert name value => (f.insert name value).2
  | .put name value => f.put name value
  | .collect entries => ofList entries
  | .recollect entries => ofList (f.entries ++ entries)

/-- What becomes of the list of all entries that were given. -/
def supply (given : List (String × α)) : Filling α → List (String × α)
  | .insert name value => given ++ [(name, value)]
  | .put name value => given ++ [(name, value)]
  | .collect entries => entries
  | .recollect entries => given ++ entries

/-- Each way to fill fields comes down to one list. -/
theorem fill_ofList (step : Filling α) (given : List (String × α)) :
    fill (ofList given) step = ofList (supply given step) := by
  cases step with
  | insert name value => exact (ofList_concat given (name, value)).symm
  | put name value => exact (ofList_concat given (name, value)).symm
  | collect entries => rfl
  | recollect entries =>
    show ofList ((ofList given).entries ++ entries) = ofList (given ++ entries)
    rw [ofList_append, ofList_append, ofList_entries]

end Filling

/-- Fields that are filled step by step, from no fields on. -/
def fill (steps : List (Filling α)) : Fields α := steps.foldl Filling.fill empty

/-- All entries that the steps give, since they began anew. -/
def supplied (steps : List (Filling α)) : List (String × α) := steps.foldl Filling.supply []

/-- In whatever way fields are filled, they are what is collected from the list of all entries. -/
theorem fill_eq_ofList (steps : List (Filling α)) : fill steps = ofList (supplied steps) := by
  induction steps using List.reverseRecOn with
  | nil => rfl
  | append_singleton steps step ih =>
    unfold fill supplied at ih ⊢
    rw [List.foldl_concat, List.foldl_concat, ih, Filling.fill_ofList]

/-- In whatever way fields are filled, they are what is collected from the list of all entries that
were given.  Their names are the distinct names of the list in the order in which they came first,
each with the value that it came with last.  So a name is found at its place in that order, exactly
the names that were given are contained, and the values are the last ones in that order; the
entries, taken out and collected again, give the fields once more.  A value that is then put in
hands back the last one that was given for its name, if any.  The name takes its value and keeps its
place, or comes last if it is new, and every other name keeps its value and its place. -/
theorem fill_first_place_last_value (steps : List (Filling α)) :
    let f := fill steps
    let given := supplied steps
    let names := (given.map (·.1)).eraseDups
    f = ofList given ∧ f.names = names ∧ names.Nodup ∧
    (∀ name, f.get? name = given.reverse.lookup name) ∧
    (∀ name i, f.position? name = some i ↔ names[i]? = some name) ∧
    (∀ name, f.contains name = true ↔ name ∈ given.map (·.1)) ∧
    f.values.map some = names.map (fun name => given.reverse.lookup name) ∧
    f.entries = names.zip f.values ∧ ofList f.entries = f ∧
    ∀ name value,
      let g := (f.insert name value).2
      (f.insert name value).1 = given.reverse.lookup name ∧
      g.get? name = some value ∧
      g.names = (if name ∈ names then names else names ++ [name]) ∧
      ∀ other, other ≠ name →
        g.get? other = f.get? other ∧ g.position? other = f.position? other := by
  intro f given names
  have hf : f = ofList given := fill_eq_ofList steps
  have hnames : f.names = names := hf ▸ names_ofList given
  have hvalue : ∀ name, f.get? name = given.reverse.lookup name := hf ▸ get?_ofList given
  have hcontains : ∀ name, f.contains name = true ↔ name ∈ given.map (·.1) := by
    intro name
    rw [contains_iff, hnames, List.mem_eraseDups]
  have hvalues : f.values.map some = names.map fun name => given.reverse.lookup name := by
    rw [← map_get?_names, hnames, funext hvalue]
  rw [← hnames] at hvalues ⊢
  refine ⟨hf, rfl, f.nodup, hvalue, fun _ _ => position?_eq_some_iff, hcontains, hvalues,
    (zip_names_values f).symm, ofList_entries f, fun name value => ?_⟩
  refine ⟨hvalue name, ?_, names_put f name value, fun other hother => ⟨?_, ?_⟩⟩
  · exact (get?_put f name value name).trans (if_pos rfl)
  · exact (get?_put f name value other).trans (if_neg hother)
  · exact position?_put_of_ne hother f value

/-- A name that comes twice: its second value is found in its first place. -/
theorem fill_first_place_last_value_of_twice :
    let f : Fields Nat := fill [.collect [("x", 1)], .put "y" 2]
    let g := (f.insert "x" 10).2
    (f.insert "x" 10).1 = some 1 ∧ g.entries = [("x", 10), ("y", 2)] ∧
    "y" ≠ "x" ∧ g.get? "y" = some 2 ∧ g.position? "y" = some 1 := by
  intro f g
  obtain ⟨-, -, -, hvalue, -, -, -, -, -, hinsert⟩ :=
    fill_first_place_last_value [.collect [("x", 1)], .put "y" 2]
  obtain ⟨hold, -, -, hothers⟩ := hinsert "x" 10
  have hne : "y" ≠ "x" := by decide
  obtain ⟨hget, hposition⟩ := hothers "y" hne
  exact ⟨hold, by decide, hne, hget.trans (hvalue "y"), hposition.trans (by decide)⟩

end Fields

end RecordTypes
