import RecordTypes.Fields
import RecordTypes.Universe.Kind
import Mathlib.Data.List.Nodup

/-!
# Looking up names

The names of fields are distinct, so the value of a name is the one that stands beside it
(`Fields.get?_eq_some_iff`, `Fields.getElem?_values`), and the place where a name is found is the
only one that it has (`Fields.position?_eq_some_iff`).  A layout finds a name at a place where it
stands among the properties, and only misses names that stand nowhere (`Layout.index?_eq_none_iff`).
-/

namespace RecordTypes

namespace Fields

variable {α β : Type} {f : Fields α} {name : String} {v : α}

/-- Each name and the value at its place are an entry. -/
theorem zip_names_values (f : Fields α) : f.names.zip f.values = f.entries := by
  rw [names, values, List.zip_map', List.map_id'']
  exact fun _ => rfl

theorem length_values (f : Fields α) : f.values.length = f.names.length := by
  rw [values, names, List.length_map, List.length_map]

/-- What is made of the values depends on the values there are. -/
theorem map_congr {g g' : α → β} (h : ∀ v ∈ f.values, g v = g' v) : f.map g = f.map g' := by
  have hentries : f.entries.map (fun entry => (entry.1, g entry.2)) =
      f.entries.map fun entry => (entry.1, g' entry.2) :=
    List.map_congr_left fun entry hentry => by rw [h entry.2 (List.mem_map_of_mem hentry)]
  simp only [map, hentries]

/-- The value of a name is the one it stands beside. -/
theorem get?_eq_some_iff : f.get? name = some v ↔ (name, v) ∈ f.entries := by
  have hmem : ∀ {v}, f.get? name = some v → (name, v) ∈ f.entries := by
    intro v h
    obtain ⟨before, after, hentries, -⟩ := List.lookup_eq_some_iff.mp h
    rw [hentries]
    exact List.mem_append_right before List.mem_cons_self
  refine ⟨hmem, fun h => ?_⟩
  -- Some value is found, and the name has no second one.
  have hsome : (f.get? name).isSome := List.lookup_isSome_iff.mpr ⟨(name, v), h, by simp⟩
  obtain ⟨v', hv'⟩ := Option.isSome_iff_exists.mp hsome
  have heq : (name, v') = (name, v) := List.inj_on_of_nodup_map f.nodup (hmem hv') h rfl
  rw [hv', (Prod.mk.inj heq).2]

/-- A name has no value exactly if it is not among the names. -/
theorem get?_eq_none_iff : f.get? name = none ↔ name ∉ f.names := by
  constructor
  · intro h hname
    obtain ⟨⟨_, v⟩, hentry, rfl⟩ := List.mem_map.mp hname
    rw [get?_eq_some_iff.mpr hentry] at h
    exact absurd h nofun
  · intro hname
    by_contra h
    obtain ⟨v, hv⟩ := Option.ne_none_iff_exists'.mp h
    exact hname (List.mem_map.mpr ⟨_, get?_eq_some_iff.mp hv, rfl⟩)

theorem mem_values_of_get? (h : f.get? name = some v) : v ∈ f.values :=
  List.mem_map.mpr ⟨_, get?_eq_some_iff.mp h, rfl⟩

/-- The value at the place of a name is the value of the name. -/
theorem getElem?_values {i : Nat} (h : f.names[i]? = some name) : f.values[i]? = f.get? name := by
  rw [names, List.getElem?_map, Option.map_eq_some_iff] at h
  obtain ⟨⟨_, v⟩, hentry, rfl⟩ := h
  have hmem := List.mem_of_getElem? hentry
  rw [values, List.getElem?_map, hentry, get?_eq_some_iff.mpr hmem]
  rfl

/-- Names are distinct, so the place at which a name is found is the only one where it stands. -/
theorem position?_eq_some_iff {i : Nat} :
    f.position? name = some i ↔ f.names[i]? = some name := by
  rw [position?, List.idxOf?_eq_some_iff, List.getElem?_eq_some_iff]
  constructor
  · rintro ⟨hi, hname, -⟩
    exact ⟨hi, hname⟩
  · rintro ⟨hi, hname⟩
    refine ⟨hi, hname, fun j hj hsame => ?_⟩
    have hji : j = i := f.nodup.getElem_inj_iff.mp (hsame.trans hname.symm)
    exact absurd hji (Nat.ne_of_lt hj)

theorem contains_iff : f.contains name = true ↔ name ∈ f.names :=
  List.contains_iff_mem

/-- The values of the names, in their order, are the values. -/
theorem map_get?_names (f : Fields α) : f.names.map f.get? = f.values.map some := by
  rw [names, values, List.map_map, List.map_map]
  exact List.map_congr_left fun entry hentry => get?_eq_some_iff.mpr hentry

end Fields

section LastIdx

variable {α : Type} {p q : α → Bool} {l l' : List α} {i : Nat}

/-- No place is found exactly if the test holds nowhere. -/
theorem lastIdx?_eq_none_iff : lastIdx? p l = none ↔ ∀ a ∈ l, p a = false := by
  induction l with
  | nil => simp [lastIdx?]
  | cons a rest ih =>
    unfold lastIdx?
    rcases hrest : lastIdx? p rest with _ | i
    · rw [List.forall_mem_cons]
      cases p a with
      | true => exact ⟨nofun, fun h => absurd h.1 nofun⟩
      | false => exact ⟨fun _ => ⟨rfl, ih.mp hrest⟩, fun _ => rfl⟩
    · refine ⟨nofun, fun h => ?_⟩
      rw [ih.mpr fun b hb => h b (List.mem_cons_of_mem _ hb)] at hrest
      exact absurd hrest nofun

/-- The test holds at the place that is found. -/
theorem exists_of_lastIdx?_eq_some (h : lastIdx? p l = some i) :
    ∃ a, l[i]? = some a ∧ p a = true := by
  induction l generalizing i with
  | nil => exact absurd h nofun
  | cons a rest ih =>
    unfold lastIdx? at h
    rcases hrest : lastIdx? p rest with _ | j
    · rw [hrest] at h
      dsimp only at h
      split at h
      · next hp =>
        obtain rfl : 0 = i := Option.some.inj h
        exact ⟨a, rfl, hp⟩
      · exact absurd h nofun
    · rw [hrest] at h
      obtain rfl : j + 1 = i := Option.some.inj h
      obtain ⟨b, hb, hp⟩ := ih hrest
      exact ⟨b, by rw [List.getElem?_cons_succ, hb], hp⟩

/-- The test fails after the last place at which it holds. -/
theorem eq_false_of_lastIdx?_lt (h : lastIdx? p l = some i) {j : Nat} (hj : i < j) {a : α}
    (ha : l[j]? = some a) : p a = false := by
  induction l generalizing i j with
  | nil => exact absurd h nofun
  | cons b rest ih =>
    obtain ⟨j, rfl⟩ : ∃ k, j = k + 1 := ⟨j - 1, by omega⟩
    rw [List.getElem?_cons_succ] at ha
    unfold lastIdx? at h
    rcases hrest : lastIdx? p rest with _ | k
    · exact lastIdx?_eq_none_iff.mp hrest a (List.mem_of_getElem? ha)
    · rw [hrest] at h
      obtain rfl : k + 1 = i := Option.some.inj h
      exact ih hrest (by omega) ha

/-- The place that is found is the last one at which the test holds. -/
theorem lastIdx?_eq_some_iff : lastIdx? p l = some i ↔
    (∃ a, l[i]? = some a ∧ p a = true) ∧ ∀ j a, i < j → l[j]? = some a → p a = false := by
  constructor
  · intro h
    exact ⟨exists_of_lastIdx?_eq_some h, fun j a hj ha => eq_false_of_lastIdx?_lt h hj ha⟩
  · rintro ⟨⟨a, ha, hpa⟩, hlater⟩
    rcases hk : lastIdx? p l with _ | k
    · have hfalse := lastIdx?_eq_none_iff.mp hk a (List.mem_of_getElem? ha)
      exact absurd (hpa.symm.trans hfalse) nofun
    · obtain ⟨b, hb, hpb⟩ := exists_of_lastIdx?_eq_some hk
      have hle : ¬ i < k := fun hlt => absurd (hpb.symm.trans (hlater k b hlt hb)) nofun
      have hge : ¬ k < i := fun hlt =>
        absurd (hpa.symm.trans (eq_false_of_lastIdx?_lt hk hlt ha)) nofun
      rw [show k = i by omega]

/-- The place depends on the outcomes of the test alone. -/
theorem lastIdx?_congr (h : ∀ a ∈ l, p a = q a) : lastIdx? p l = lastIdx? q l := by
  induction l with
  | nil => rfl
  | cons a rest ih =>
    obtain ⟨ha, hrest⟩ := List.forall_mem_cons.mp h
    rw [lastIdx?, lastIdx?, ih hrest, ha]

theorem lastIdx?_map {β : Type} (f : β → α) (bs : List β) :
    lastIdx? p (bs.map f) = lastIdx? (fun b => p (f b)) bs := by
  induction bs with
  | nil => rfl
  | cons b bs ih => rw [List.map_cons, lastIdx?, lastIdx?, ih]

/-- A part that the test never holds in does not count if it comes last. -/
theorem lastIdx?_append_of_eq_false (h : ∀ a ∈ l', p a = false) :
    lastIdx? p (l ++ l') = lastIdx? p l := by
  induction l with
  | nil => exact lastIdx?_eq_none_iff.mpr h
  | cons a rest ih => rw [List.cons_append, lastIdx?, lastIdx?, ih]

end LastIdx

namespace Layout

variable {l : Layout} {name : String} {i : Nat} {p : Property}

theorem index?_eq_none_iff : l.index? name = none ↔ name ∉ l.properties.map (·.name) := by
  rw [index?, lastIdx?_eq_none_iff, List.mem_map]
  simp

/-- Where a name leads depends on the names alone. -/
theorem index?_congr {l' : Layout}
    (hnames : l'.properties.map (·.name) = l.properties.map (·.name)) (name : String) :
    l'.index? name = l.index? name := by
  have hindex : ∀ l : Layout,
      l.index? name = lastIdx? (fun n => n = name) (l.properties.map (·.name)) := by
    intro l
    rw [lastIdx?_map]
    rfl
  rw [hindex, hindex, hnames]

/-- At the place of a name stands a property of that name. -/
theorem getElem?_name_of_index? (h : l.index? name = some i) :
    (l.properties.map (·.name))[i]? = some name := by
  obtain ⟨p, hp, hname⟩ := exists_of_lastIdx?_eq_some h
  rw [List.getElem?_map, hp]
  exact congrArg some (of_decide_eq_true hname)

/-- Where no name repeats, the name of a property leads to its place. -/
theorem index?_of_nodup (hnames : (l.properties.map (·.name)).Nodup) {i : Nat}
    (hp : l.properties[i]? = some p) : l.index? p.name = some i := by
  refine lastIdx?_eq_some_iff.mpr ⟨⟨p, hp, decide_eq_true rfl⟩, fun j q hj hq => ?_⟩
  apply decide_eq_false
  intro hname
  have hi : i < (l.properties.map (·.name)).length := by
    rw [List.length_map]
    exact (List.getElem?_eq_some_iff.mp hp).1
  have hsame : (l.properties.map (·.name))[i]? = (l.properties.map (·.name))[j]? := by
    rw [List.getElem?_map, List.getElem?_map, hp, hq, Option.map_some, Option.map_some, hname]
  exact absurd ((List.getElem?_inj hi hnames).mp hsame) (Nat.ne_of_lt hj)

/-- A name that no property has has no place. -/
theorem index?_of_property?_eq_none (h : l.property? name = none) : l.index? name = none := by
  rcases hi : l.index? name with _ | i
  · rfl
  · obtain ⟨p, hp, -⟩ := exists_of_lastIdx?_eq_some hi
    rw [property?, hi] at h
    exact absurd (hp.symm.trans h) nofun

/-- A property that is found by name stands at the place of the name. -/
theorem exists_getElem?_of_property? (h : l.property? name = some p) :
    ∃ i : Nat, l.properties[i]? = some p := by
  obtain ⟨i, -, hp⟩ := Option.bind_eq_some_iff.mp h
  exact ⟨i, hp⟩

theorem mem_properties_of_property? (h : l.property? name = some p) : p ∈ l.properties := by
  obtain ⟨i, hp⟩ := exists_getElem?_of_property? h
  exact List.mem_of_getElem? hp

end Layout

end RecordTypes
