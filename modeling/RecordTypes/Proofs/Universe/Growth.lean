import RecordTypes.Universe.Ancestry

/-!
# Growing universes

A universe only ever grows, by one type after another (`Grows`), and what was known of a type stays
known (`Grows.kind?`).  A type that is declared may refer to types that exist and to no others
(`Allows`), which is why every class and every record type is younger than what it derives from
(`WellFormed`), and why walks towards the base types come to an end.  The ancestors of a type stay
what they are as well, so a slot goes on taking what it took (`Grows.admits`).
-/

namespace RecordTypes.Universe

/-! ### Declaring one type -/

/-- A type that was declared before, or that belongs to every universe. -/
def Knows (u : Universe) (t : TypeId) : Prop := (u.entry? t).isSome

theorem knows_of_kind? {u : Universe} {t : TypeId} {k : Kind} (h : u.kind? t = some k) :
    u.Knows t := by
  obtain ⟨e, he, -⟩ := Option.map_eq_some_iff.mp h
  rw [Knows, he]
  rfl

/-- The type declared next is not known yet. -/
theorem entry?_next (u : Universe) : u.entry? u.next = none :=
  Array.getElem?_eq_none (Nat.le_refl _)

/-- A declaration adds one entry and leaves the others as they are. -/
theorem entry?_add (u : Universe) (d : Descriptor) (t : TypeId) :
    Universe.entry? (u.add d) t =
      if t = u.next then some ⟨d, u.fullNameOf d⟩ else u.entry? t := by
  cases t with
  | builtin p => rfl
  | declared n =>
    show (u.entries.push ⟨d, u.fullNameOf d⟩)[n]? =
      if TypeId.declared n = .declared u.entries.size then _ else u.entries[n]?
    rw [Array.getElem?_push]
    by_cases hn : n = u.entries.size
    · rw [if_pos hn, if_pos (by rw [hn])]
    · rw [if_neg hn, if_neg (by simpa using hn)]

theorem kind?_add (u : Universe) (d : Descriptor) (t : TypeId) :
    (u.add d).kind? t = if t = u.next then some d.kind else u.kind? t := by
  rw [kind?, kind?, entry?_add]
  split <;> rfl

theorem kind?_add_next (u : Universe) (d : Descriptor) : (u.add d).kind? u.next = some d.kind := by
  rw [kind?_add, if_pos rfl]

/-- A known type is older than the next one. -/
theorem rank_lt_rank_next {u : Universe} {t : TypeId} (h : u.Knows t) : t.rank < u.next.rank := by
  cases t with
  | builtin p => cases p <;> simp only [TypeId.rank, next] <;> omega
  | declared n =>
    have hn : n < u.entries.size := by simpa [Knows, entry?] using h
    simp only [TypeId.rank, next]
    omega

/-! ### Growth -/

/-- What may be declared in a universe: not another primitive, a class that derives from no class or
from one that exists, a record type over no parent or over one that exists, and any parameter. -/
def Allows (u : Universe) (d : Descriptor) : Prop :=
  match d.kind with
  | .primitive _ => False
  | .nominal c => ∀ b ∈ c.base, (u.class? b).isSome
  | .record l => ∀ p ∈ l.parent, u.Knows p
  | .parameter _ => True

/-- A universe comes about from another one by declaring types. -/
inductive Grows (u : Universe) : Universe → Prop
  | refl : Grows u u
  | add {v : Universe} (d : Descriptor) : Grows u v → v.Allows d → Grows u (v.add d)

variable {u v w : Universe} {t : TypeId}

theorem Grows.trans (huv : Grows u v) (hvw : Grows v w) : Grows u w := by
  induction hvw with
  | refl => exact huv
  | add d _ hd ih => exact ih.add d hd

/-- Types that may always be declared may be declared one after another. -/
theorem grows_addAll {ds : List Descriptor} (h : ∀ d ∈ ds, ∀ v : Universe, v.Allows d) :
    Grows u (u.addAll ds) := by
  induction ds generalizing u with
  | nil => exact .refl
  | cons d ds ih =>
    have hd : Grows u (u.add d) := Grows.refl.add d (h d List.mem_cons_self u)
    exact hd.trans (ih fun d' hd' => h d' (List.mem_cons_of_mem _ hd'))

/-- Whatever is known of a type in one universe is known of it in another one. -/
def Extends (u v : Universe) : Prop := ∀ t, u.Knows t → v.entry? t = u.entry? t

theorem Extends.refl (u : Universe) : u.Extends u := fun _ _ => rfl

/-- A type that is known stays known. -/
theorem Extends.knows (h : u.Extends v) (ht : u.Knows t) : v.Knows t := by
  rw [Knows, h t ht]
  exact ht

theorem Extends.trans (h : u.Extends v) (h' : v.Extends w) : u.Extends w :=
  fun t ht => (h' t (h.knows ht)).trans (h t ht)

/-- Any type at all may be declared without a change to those there are. -/
theorem extends_add (u : Universe) (d : Descriptor) : u.Extends (u.add d) := by
  intro t ht
  rw [entry?_add, if_neg]
  rintro rfl
  -- A known type cannot be the one that is declared last.
  rw [Knows, entry?_next] at ht
  exact absurd ht (by simp)

/-- Any types at all may be declared without a change to those there are. -/
theorem extends_addAll (u : Universe) (ds : List Descriptor) : u.Extends (u.addAll ds) := by
  induction ds generalizing u with
  | nil => exact .refl u
  | cons d ds ih => exact (extends_add u d).trans (ih (u.add d))

/-- A universe that grows keeps what was known. -/
theorem Grows.extends (h : Grows u v) : u.Extends v := by
  induction h with
  | refl => exact .refl u
  | @add v d _ _ ih => exact ih.trans (extends_add v d)

/-- What is known of a type never changes. -/
theorem Grows.entry?_eq (h : Grows u v) (ht : u.Knows t) : v.entry? t = u.entry? t :=
  h.extends t ht

theorem Grows.knows (h : Grows u v) (ht : u.Knows t) : v.Knows t := h.extends.knows ht

theorem Grows.kind?_eq (h : Grows u v) (ht : u.Knows t) : v.kind? t = u.kind? t := by
  rw [kind?, kind?, h.entry?_eq ht]

/-- A type stays what it is. -/
theorem Grows.kind? (h : Grows u v) {k : Kind} (ht : u.kind? t = some k) : v.kind? t = some k := by
  rw [h.kind?_eq (knows_of_kind? ht), ht]

theorem Grows.properties_eq (h : Grows u v) (ht : u.Knows t) :
    v.properties t = u.properties t := by
  unfold properties Universe.layout?
  rw [h.kind?_eq ht]

theorem knows_of_isTemplate (ht : u.isTemplate t = true) : u.Knows t := by
  rcases hentry : u.entry? t with _ | e
  · rw [isTemplate, shape?, layout?, Universe.kind?, hentry] at ht
    exact absurd ht (by decide)
  · rw [Knows, hentry]
    rfl

/-- A template stays one. -/
theorem Extends.isTemplate (h : u.Extends v) (ht : u.isTemplate t = true) :
    v.isTemplate t = true := by
  have hkind : v.kind? t = u.kind? t := by
    rw [Universe.kind?, Universe.kind?, h t (knows_of_isTemplate ht)]
  rw [← ht]
  unfold Universe.isTemplate shape? layout?
  rw [hkind]

theorem Grows.isOpen_eq (h : Grows u v) (ht : u.Knows t) : v.isOpen t = u.isOpen t := by
  unfold isOpen isTemplate isParameter shape? Universe.layout?
  rw [h.kind?_eq ht]

/-- A type has a layout exactly if it is a record type. -/
theorem layout?_eq_some_iff {l : Layout} :
    u.layout? t = some l ↔ u.kind? t = some (.record l) := by
  rw [layout?]
  split <;> simp_all

theorem properties_of_layout? {l : Layout} (h : u.layout? t = some l) :
    u.properties t = l.properties := by
  rw [properties, h]
  rfl

/-- A type has a class exactly if it is nominal. -/
theorem class?_eq_some_iff {c : ClassInfo} :
    u.class? t = some c ↔ u.kind? t = some (.nominal c) := by
  rw [class?]
  split <;> simp_all

theorem Grows.layout? (h : Grows u v) {l : Layout} (ht : u.layout? t = some l) :
    v.layout? t = some l :=
  layout?_eq_some_iff.mpr (h.kind? (layout?_eq_some_iff.mp ht))

theorem Grows.class? (h : Grows u v) {c : ClassInfo} (ht : u.class? t = some c) :
    v.class? t = some c :=
  class?_eq_some_iff.mpr (h.kind? (class?_eq_some_iff.mp ht))

/-! ### Well-formed universes -/

/-- Only the primitives are primitive, and what a type derives from is older. -/
structure WellFormed (u : Universe) : Prop where
  primitive : ∀ t p, u.kind? t = some (.primitive p) → t = .builtin p
  base : ∀ t c b, u.class? t = some c → c.base = some b → (u.class? b).isSome ∧ b.rank < t.rank
  parent : ∀ t l p, u.layout? t = some l → l.parent = some p → u.Knows p ∧ p.rank < t.rank

/-- The universe of the primitive types is well-formed. -/
theorem wellFormed_empty : WellFormed {} := by
  have hkind : ∀ t k, ({} : Universe).kind? t = some k →
      ∃ p, t = .builtin p ∧ k = .primitive p := by
    intro t k h
    cases t with
    | builtin p => exact ⟨p, rfl, (Option.some.inj h).symm⟩
    | declared n => simp [Universe.kind?, entry?] at h
  refine ⟨fun t p h => ?_, fun t c b h _ => ?_, fun t l p h _ => ?_⟩
  · obtain ⟨q, rfl, hq⟩ := hkind t _ h
    rw [Kind.primitive.inj hq]
  · obtain ⟨q, -, hq⟩ := hkind t _ (class?_eq_some_iff.mp h)
    exact absurd hq (by simp)
  · obtain ⟨q, -, hq⟩ := hkind t _ (layout?_eq_some_iff.mp h)
    exact absurd hq (by simp)

/-- Declaring an allowed type keeps a universe well-formed. -/
theorem WellFormed.add (hu : u.WellFormed) {d : Descriptor} (hd : u.Allows d) :
    (u.add d).WellFormed := by
  have hgrows : Grows u (u.add d) := Grows.refl.add d hd
  -- Either the type asked about is the new one, which refers to older ones only, or nothing
  -- changed for it.
  refine ⟨fun t p h => ?_, fun t c b h hb => ?_, fun t l p h hp => ?_⟩
  · rw [kind?_add] at h
    split at h
    · rw [Allows, Option.some.inj h] at hd
      exact hd.elim
    · exact hu.primitive t p h
  · rw [class?_eq_some_iff, kind?_add] at h
    have hclass : (u.class? b).isSome ∧ b.rank < t.rank := by
      split at h
      · next ht =>
        rw [Allows, Option.some.inj h] at hd
        have hclass := hd b hb
        obtain ⟨c', hc'⟩ := Option.isSome_iff_exists.mp hclass
        exact ⟨hclass, ht ▸ rank_lt_rank_next (knows_of_kind? (class?_eq_some_iff.mp hc'))⟩
      · exact hu.base t c b (class?_eq_some_iff.mpr h) hb
    -- The base was a class before the type was declared, and it still is one.
    obtain ⟨c', hc'⟩ := Option.isSome_iff_exists.mp hclass.1
    exact ⟨by rw [hgrows.class? hc']; rfl, hclass.2⟩
  · rw [layout?_eq_some_iff, kind?_add] at h
    have hknown : u.Knows p ∧ p.rank < t.rank := by
      split at h
      · next ht =>
        rw [Allows, Option.some.inj h] at hd
        exact ⟨hd p hp, ht ▸ rank_lt_rank_next (hd p hp)⟩
      · exact hu.parent t l p (layout?_eq_some_iff.mpr h) hp
    exact ⟨hgrows.knows hknown.1, hknown.2⟩

/-- A well-formed universe stays well-formed as it grows. -/
theorem Grows.wellFormed (h : Grows u v) (hu : u.WellFormed) : v.WellFormed := by
  induction h with
  | refl => exact hu
  | add d _ hd ih => exact ih.add hd

/-! ### Ancestors -/

/-- What a type derives from is known. -/
theorem WellFormed.knows_base (hu : u.WellFormed) {b : TypeId} (h : u.base? t = some b) :
    u.Knows b := by
  have hobject : u.Knows .object := rfl
  unfold base? at h
  split at h
  · exact absurd h nofun
  · exact absurd h nofun
  · next c hc =>
    obtain rfl := Option.some.inj h
    cases hbase : c.base with
    | none => exact hobject
    | some b =>
      obtain ⟨hclass, -⟩ := hu.base t c b (class?_eq_some_iff.mpr hc) hbase
      obtain ⟨c', hc'⟩ := Option.isSome_iff_exists.mp hclass
      exact knows_of_kind? (class?_eq_some_iff.mp hc')
  · next l hl =>
    obtain rfl := Option.some.inj h
    cases hparent : l.parent with
    | none => exact hobject
    | some p => exact (hu.parent t l p (layout?_eq_some_iff.mpr hl) hparent).1
  · exact Option.some.inj h ▸ hobject
  · exact Option.some.inj h ▸ hobject

/-- The ancestors of a known type stay what they are. -/
theorem Grows.ancestorsWithin_eq (h : Grows u v) (hu : u.WellFormed) (fuel : Nat)
    (ht : u.Knows t) : v.ancestorsWithin fuel t = u.ancestorsWithin fuel t := by
  induction fuel generalizing t with
  | zero => rfl
  | succ fuel ih =>
    have hbase : v.base? t = u.base? t := by
      unfold base?
      rw [h.kind?_eq ht]
    rw [ancestorsWithin, ancestorsWithin, hbase]
    cases hb : u.base? t with
    | none => rfl
    | some b => exact congrArg (b :: ·) (ih (hu.knows_base hb))

/-- The ancestors of a known type stay what they are, so what it can stand for does, too. -/
theorem Grows.isAssignable_eq (h : Grows u v) (hu : u.WellFormed) {actual : TypeId}
    (hactual : u.Knows actual) (t : TypeId) :
    v.isAssignable t actual = u.isAssignable t actual := by
  unfold isAssignable derives ancestors
  rw [h.ancestorsWithin_eq hu _ hactual]

theorem Grows.isNullable (h : Grows u v) (ht : u.isNullable t = true) : v.isNullable t = true := by
  cases hk : u.kind? t with
  | none =>
    unfold Universe.isNullable at ht
    rw [hk] at ht
    exact absurd ht (by decide)
  | some k =>
    unfold Universe.isNullable at ht ⊢
    rw [hk] at ht
    rw [h.kind? hk]
    exact ht

/-- A slot takes what it took before. -/
theorem Grows.admits (h : Grows u v) (hu : u.WellFormed) {actual : Option TypeId}
    (hactual : ∀ a ∈ actual, u.Knows a) (ht : u.admits t actual = true) :
    v.admits t actual = true := by
  cases actual with
  | none => exact h.isNullable ht
  | some a =>
    show v.isAssignable t a = true
    rw [h.isAssignable_eq hu (hactual a rfl)]
    exact ht

end RecordTypes.Universe
