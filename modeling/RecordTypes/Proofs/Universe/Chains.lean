import Mathlib.Data.List.Nodup
import RecordTypes.Proofs.Universe.Ancestors
import RecordTypes.Proofs.Universe.Record

/-!
# Chains of classes

A `Chain` lists the classes from a root class down to a class, each one derived from the one before.
What is inherited from the class is what the classes of the chain declare, one after another
(`Chain.members_eq`), its ancestors are the classes before it and `Object` (`Chain.ancestors_eq`),
and no class is listed twice (`Chain.nodup`).  Every beginning of a chain is a chain again
(`Chain.take`), so all of this holds of each class of a chain.
-/

namespace RecordTypes.Universe

variable {u : Universe} {t a : TypeId} {cs : List TypeId}

/-- The classes from a root class down to a class, the root first. -/
inductive Chain (u : Universe) : List TypeId → TypeId → Prop
  | root {t : TypeId} {c : ClassInfo} (hc : u.class? t = some c) (hb : c.base = none) :
      Chain u [t] t
  | derived {cs : List TypeId} {t b : TypeId} {c : ClassInfo} (h : Chain u cs b)
      (hc : u.class? t = some c) (hb : c.base = some b) : Chain u (cs ++ [t]) t

/-- The members that a class itself declares. -/
def declaredMembers (u : Universe) (t : TypeId) : List InheritedMember :=
  ((u.class? t).map fun c => c.members.map fun m => ⟨t, m⟩).getD []

theorem declaredMembers_eq {c : ClassInfo} (hc : u.class? t = some c) :
    u.declaredMembers t = c.members.map fun m => ⟨t, m⟩ := by
  rw [declaredMembers, hc]
  rfl

theorem owner_of_mem_declaredMembers {m : InheritedMember} (h : m ∈ u.declaredMembers t) :
    m.owner = t := by
  rcases hc : u.class? t with _ | c
  · rw [declaredMembers, hc] at h
    exact absurd h List.not_mem_nil
  · rw [declaredMembers_eq hc] at h
    obtain ⟨member, -, rfl⟩ := List.mem_map.mp h
    rfl

theorem base?_of_class? {c : ClassInfo} (hc : u.class? t = some c) :
    u.base? t = some (c.base.getD .object) := by
  rw [base?, class?_eq_some_iff.mp hc]

theorem object_ne_of_class? (ht : (u.class? t).isSome) : t ≠ .object := by
  rintro rfl
  exact absurd ht Bool.false_ne_true

/-- Every class has a chain. -/
theorem WellFormed.exists_chain (hu : u.WellFormed) (ht : (u.class? t).isSome) :
    ∃ cs, u.Chain cs t := by
  induction hrank : t.rank using Nat.strongRecOn generalizing t with
  | _ n ih =>
    subst hrank
    obtain ⟨c, hc⟩ := Option.isSome_iff_exists.mp ht
    rcases hb : c.base with _ | b
    · exact ⟨_, .root hc hb⟩
    · obtain ⟨hclass, hlt⟩ := hu.base t c b hc hb
      obtain ⟨cs, hcs⟩ := ih b.rank hlt hclass rfl
      exact ⟨_, hcs.derived hc hb⟩

namespace Chain

theorem isSome_class? (h : u.Chain cs t) : (u.class? t).isSome := by
  cases h with
  | root hc hb => rw [hc]; rfl
  | derived h hc hb => rw [hc]; rfl

/-- A chain ends with its class. -/
theorem mem (h : u.Chain cs t) : t ∈ cs := by
  cases h with
  | root hc hb => exact List.mem_cons_self
  | derived h hc hb => exact List.mem_append_right _ List.mem_cons_self

/-- Every beginning of a chain is the chain of its last class. -/
theorem take (h : u.Chain cs t) {k : Nat} (ha : cs[k]? = some a) :
    u.Chain (cs.take (k + 1)) a := by
  induction h with
  | @root t c hc hb =>
    obtain ⟨hk, rfl⟩ := List.getElem?_eq_some_iff.mp ha
    obtain rfl : k = 0 := by simpa using hk
    exact .root hc hb
  | @derived cs t b c h hc hb ih =>
    by_cases hk : k < cs.length
    · rw [List.getElem?_append_left hk] at ha
      rw [List.take_append_of_le_length (by omega)]
      exact ih ha
    · -- The beginning is the whole chain.
      have hlt : k < (cs ++ [t]).length := (List.getElem?_eq_some_iff.mp ha).1
      rw [List.length_append, List.length_singleton] at hlt
      obtain rfl : k = cs.length := by omega
      obtain rfl : t = a := by simpa using ha
      rw [List.take_of_length_le (by simp)]
      exact h.derived hc hb

theorem isSome_class?_of_mem (h : u.Chain cs t) (ha : a ∈ cs) : (u.class? a).isSome := by
  obtain ⟨k, hk⟩ := List.mem_iff_getElem?.mp ha
  exact (h.take hk).isSome_class?

/-- What is inherited from a class is what the classes of its chain declare, in order. -/
theorem inherits (h : u.Chain cs t) : u.Inherits t (cs.flatMap u.declaredMembers) := by
  induction h with
  | root hc hb =>
    rw [List.flatMap_singleton, declaredMembers_eq hc]
    exact .root hc hb
  | derived h hc hb ih =>
    rw [List.flatMap_append, List.flatMap_singleton, declaredMembers_eq hc]
    exact .derived hc hb ih

variable (hu : u.WellFormed)
include hu

theorem members_eq (h : u.Chain cs t) : u.members t = cs.flatMap u.declaredMembers :=
  (hu.inherits_members h.isSome_class?).unique h.inherits

/-- The ancestors of a class are the classes before it in its chain, and `Object`. -/
theorem ancestors_eq (h : u.Chain cs t) : t :: u.ancestors t = cs.reverse ++ [.object] := by
  induction h with
  | @root t c hc hb =>
    have hbase : u.Base t .object := by rw [Base, base?_of_class? hc, hb]; rfl
    rw [hu.ancestors_eq_cons hbase, ancestors_eq_nil (base?_object u)]
    rfl
  | @derived cs t b c h hc hb ih =>
    have hbase : u.Base t b := by rw [Base, base?_of_class? hc, hb]; rfl
    rw [hu.ancestors_eq_cons hbase, ih, List.reverse_append]
    rfl

/-- The classes that a class is or derives from are those of its chain. -/
theorem mem_iff (h : u.Chain cs t) (ha : (u.class? a).isSome) :
    a ∈ cs ↔ a = t ∨ a ∈ u.ancestors t := by
  have hne : a ≠ .object := object_ne_of_class? ha
  rw [← List.mem_cons, h.ancestors_eq hu, List.mem_append, List.mem_reverse, List.mem_singleton]
  simp [hne]

theorem rank_le (h : u.Chain cs t) : ∀ a ∈ cs, a.rank ≤ t.rank := by
  induction h with
  | root hc hb => simp
  | @derived cs t b c h hc hb ih =>
    have hlt : b.rank < t.rank := (hu.base t c b hc hb).2
    intro a ha
    rcases List.mem_append.mp ha with ha | ha
    · have hle := ih a ha
      omega
    · exact Nat.le_of_eq (congrArg TypeId.rank (List.mem_singleton.mp ha))

/-- No class is listed twice: each one is younger than the one before. -/
theorem nodup (h : u.Chain cs t) : cs.Nodup := by
  induction h with
  | root hc hb => exact List.nodup_singleton _
  | @derived cs t b c h hc hb ih =>
    have hlt : b.rank < t.rank := (hu.base t c b hc hb).2
    have hnew : t ∉ cs := by
      intro ht
      have hle := h.rank_le hu t ht
      omega
    exact List.nodup_append.mpr ⟨ih, List.nodup_singleton _, fun a ha b hb hab => by
      rw [List.mem_singleton.mp hb] at hab
      exact hnew (hab ▸ ha)⟩

/-- The members of a class are those of the beginning of its chain, and then those of the rest. -/
theorem members_eq_append (h : u.Chain cs t) (k : Nat) :
    u.members t = (cs.take k).flatMap u.declaredMembers ++
      (cs.drop k).flatMap u.declaredMembers := by
  rw [h.members_eq hu, ← List.flatMap_append, List.take_append_drop]

/-- A class that comes later in a chain does not come earlier, too. -/
theorem not_mem_take_of_mem_drop (h : u.Chain cs t) {k : Nat} (ha : a ∈ cs.drop k) :
    a ∉ cs.take k := by
  have hnodup : (cs.take k ++ cs.drop k).Nodup := by
    rw [List.take_append_drop]
    exact h.nodup hu
  exact fun hmem => List.disjoint_of_nodup_append hnodup hmem ha

end Chain

/-! ### Record types over a class -/

/-- A record type is laid out from properties over a parent. -/
def IsLaidOut (u : Universe) (t : TypeId) (parent : Option TypeId) : Prop :=
  ∃ properties isMutable shape, u.layout? t = some (u.layout properties parent isMutable shape)

theorem HasClosed.exists_isLaidOut {template : TypeId} {arguments : List TypeId}
    (h : u.HasClosed t template arguments) : ∃ parent, u.IsLaidOut t parent := by
  obtain ⟨l, -, -, hl⟩ := h
  exact ⟨l.parent, _, l.isMutable, _, hl⟩

variable {parent : TypeId}

theorem IsLaidOut.base (h : u.IsLaidOut t (some parent)) : u.Base t parent := by
  obtain ⟨properties, isMutable, shape, hl⟩ := h
  rw [Base, base?, layout?_eq_some_iff.mp hl]
  rfl

/-- What the layout of a record type over a class says of inherited members. -/
theorem IsLaidOut.exists_layout (h : u.IsLaidOut t (some parent)) :
    ∃ l, u.layout? t = some l ∧ l.inherited = u.members parent ∧ ∀ p ∈ l.properties,
      p.hidesInherited = true ↔ ∃ m ∈ u.members parent, m.member.name = p.name := by
  obtain ⟨properties, isMutable, shape, hl⟩ := h
  refine ⟨_, hl, rfl, fun p hp => ?_⟩
  obtain ⟨q, -, rfl⟩ := List.mem_map.mp hp
  simp

end RecordTypes.Universe
