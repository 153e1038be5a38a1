import RecordTypes.Proofs.Universe.Growth

/-!
# Inherited members

`Inherits u t ms` says what a class inherits without walking anywhere and without a bound on the
walk: the members of its base come first, then its own, each with the class that declares it.  In a
well-formed universe `Universe.members` computes that list (`inherits_members`), and the list of a
known type stays what it is when the universe grows (`Grows.members_eq`).
-/

namespace RecordTypes.Universe

/-- The members of a class chain, the most basic class first, in the order of their declaration. -/
inductive Inherits (u : Universe) : TypeId → List InheritedMember → Prop
  | root {t : TypeId} {c : ClassInfo} (hc : u.class? t = some c) (hb : c.base = none) :
      Inherits u t (c.members.map fun m => ⟨t, m⟩)
  | derived {t b : TypeId} {c : ClassInfo} {ms : List InheritedMember} (hc : u.class? t = some c)
      (hb : c.base = some b) (h : Inherits u b ms) :
      Inherits u t (ms ++ c.members.map fun m => ⟨t, m⟩)

variable {u v : Universe} {t : TypeId}

/-- A class inherits one list only. -/
theorem Inherits.unique {ms ms' : List InheritedMember} (h : u.Inherits t ms)
    (h' : u.Inherits t ms') : ms = ms' := by
  -- What was declared with the class decides which of the two rules applies.
  induction h generalizing ms' with
  | root hc hb =>
    cases h' with
    | root hc' hb' => rw [Option.some.inj (hc.symm.trans hc')]
    | derived hc' hb' _ =>
      obtain rfl := Option.some.inj (hc.symm.trans hc')
      rw [hb] at hb'
      exact absurd hb' (by simp)
  | derived hc hb _ ih =>
    cases h' with
    | root hc' hb' =>
      obtain rfl := Option.some.inj (hc.symm.trans hc')
      rw [hb] at hb'
      exact absurd hb' (by simp)
    | derived hc' hb' hms =>
      obtain rfl := Option.some.inj (hc.symm.trans hc')
      obtain rfl := Option.some.inj (hb.symm.trans hb')
      rw [ih hms]

theorem Grows.inherits (h : Grows u v) {ms : List InheritedMember} (hms : u.Inherits t ms) :
    v.Inherits t ms := by
  induction hms with
  | root hc hb => exact .root (h.class? hc) hb
  | derived hc hb _ ih => exact .derived (h.class? hc) hb ih

/-- The members of classes that are listed with the most derived one first. -/
def gather (classes : List (TypeId × ClassInfo)) : List InheritedMember :=
  classes.reverse.flatMap fun c => c.2.members.map fun m => ⟨c.1, m⟩

theorem gather_cons (t : TypeId) (c : ClassInfo) (rest : List (TypeId × ClassInfo)) :
    gather ((t, c) :: rest) = gather rest ++ c.members.map fun m => ⟨t, m⟩ := by
  simp [gather]

theorem members_eq_gather (u : Universe) (t : TypeId) : u.members t = gather (u.classes t) := rfl

/-- A walk with more steps than the rank of a class finds its whole chain: bases are older. -/
theorem WellFormed.inherits_gather (hu : u.WellFormed) (fuel : Nat) (t : TypeId)
    (hrank : t.rank < fuel) (ht : (u.class? t).isSome) :
    u.Inherits t (gather (u.classesWithin fuel t)) := by
  induction fuel generalizing t with
  | zero => omega
  | succ fuel ih =>
    obtain ⟨c, hc⟩ := Option.isSome_iff_exists.mp ht
    rcases hb : c.base with _ | b
    · have hwalk : u.classesWithin (fuel + 1) t = [(t, c)] := by simp [classesWithin, hc, hb]
      rw [hwalk, gather_cons]
      exact .root hc hb
    · have hwalk : u.classesWithin (fuel + 1) t = (t, c) :: u.classesWithin fuel b := by
        simp [classesWithin, hc, hb]
      -- The base has a smaller rank, so one step less is still enough for it.
      obtain ⟨hclass, hlt⟩ := hu.base t c b hc hb
      rw [hwalk, gather_cons]
      exact .derived hc hb (ih b (by omega) hclass)

theorem WellFormed.inherits_members (hu : u.WellFormed) (ht : (u.class? t).isSome) :
    u.Inherits t (u.members t) := by
  rw [members_eq_gather, classes]
  exact hu.inherits_gather _ t (Nat.lt_succ_self _) ht

theorem members_of_class?_eq_none (h : u.class? t = none) : u.members t = [] := by
  simp [members, classes, classesWithin, h]

/-- A known type inherits the same members however much the universe grows. -/
theorem Grows.members_eq (h : Grows u v) (hu : u.WellFormed) (ht : u.Knows t) :
    v.members t = u.members t := by
  rcases hc : u.class? t with _ | c
  · have hc' : v.class? t = none := by
      rw [Universe.class?, h.kind?_eq ht]
      exact hc
    rw [members_of_class?_eq_none hc, members_of_class?_eq_none hc']
  · have hclass : (u.class? t).isSome := by rw [hc]; rfl
    have hclass' : (v.class? t).isSome := by rw [h.class? hc]; rfl
    exact ((h.wellFormed hu).inherits_members hclass').unique
      (h.inherits (hu.inherits_members hclass))

theorem class?_of_mem_classesWithin {fuel : Nat} {owner : TypeId} {c : ClassInfo}
    (h : (owner, c) ∈ u.classesWithin fuel t) : u.class? owner = some c := by
  induction fuel generalizing t with
  | zero => exact absurd h (by simp [classesWithin])
  | succ fuel ih =>
    unfold classesWithin at h
    rcases hc : u.class? t with _ | c'
    · rw [hc] at h
      exact absurd h (by simp)
    · rw [hc] at h
      rcases List.mem_cons.mp h with heq | hrest
      · obtain ⟨rfl, rfl⟩ := Prod.mk.inj heq
        exact hc
      · cases hb : c'.base with
        | none =>
          rw [hb] at hrest
          exact absurd hrest (by simp)
        | some b =>
          rw [hb] at hrest
          exact ih hrest

/-- Whatever is inherited was declared with a class. -/
theorem exists_class?_of_mem_members {m : InheritedMember} (h : m ∈ u.members t) :
    ∃ c, u.class? m.owner = some c ∧ m.member ∈ c.members := by
  obtain ⟨⟨owner, c⟩, hclass, hm⟩ := List.mem_flatMap.mp h
  obtain ⟨member, hmember, rfl⟩ := List.mem_map.mp hm
  exact ⟨c, class?_of_mem_classesWithin (List.mem_reverse.mp hclass), hmember⟩

/-- The members that a record type over a parent inherits. -/
def membersOver (u : Universe) (parent : Option TypeId) : List InheritedMember :=
  (parent.map u.members).getD []

theorem Grows.membersOver_eq (h : Grows u v) (hu : u.WellFormed) {parent : Option TypeId}
    (hp : ∀ p ∈ parent, u.Knows p) : v.membersOver parent = u.membersOver parent := by
  cases parent with
  | none => rfl
  | some p => exact h.members_eq hu (hp p rfl)

theorem exists_class?_of_mem_membersOver {parent : Option TypeId} {m : InheritedMember}
    (h : m ∈ u.membersOver parent) : ∃ c, u.class? m.owner = some c ∧ m.member ∈ c.members := by
  cases parent with
  | none => exact absurd h (by simp [membersOver])
  | some p => exact exists_class?_of_mem_members h

end RecordTypes.Universe
