import RecordTypes.Proofs.Fields.Lookup
import RecordTypes.Proofs.Universe.Record

/-!
# Arranged layouts

`Layout.arrange` takes properties with any positions.  It sorts them, so what is read off all of
them is the same up to order (`Layout.perm_map_arrange`), and it leaves alone what is sorted already
(`Layout.properties_arrange_of_pairwise`).  The place of a property is its position if the positions
are the numbers from 0 on, each of them once, and only then (`Layout.position_eq_iff`); two
properties may as well have one position (`Layout.colliding`).
-/

namespace RecordTypes.Layout

variable {properties : List Property} {parent : Option TypeId} {inherited : List InheritedMember}
  {isMutable : Bool} {shape : Shape} {l : Layout} {p : Property}

/-- A property with the flag that is right for it among given members. -/
def flagged (inherited : List InheritedMember) (p : Property) : Property :=
  { p with hidesInherited := inherited.any fun m => m.member.name = p.name }

/-- A flag depends on the name alone, so flagging once is enough. -/
theorem flagged_flagged (inherited : List InheritedMember) (p : Property) :
    flagged inherited (flagged inherited p) = flagged inherited p := rfl

theorem properties_arrange : (arrange properties parent inherited isMutable shape).properties =
    (properties.mergeSort fun p q => p.position ≤ q.position).map (flagged inherited) := rfl

/-- The properties of an arranged layout are flagged already. -/
theorem flagged_of_mem_arrange
    (hp : p ∈ (arrange properties parent inherited isMutable shape).properties) :
    flagged inherited p = p := by
  obtain ⟨q, -, rfl⟩ := List.mem_map.mp hp
  exact flagged_flagged inherited q

/-- The properties stand in the order of their positions. -/
theorem pairwise_position_arrange :
    (arrange properties parent inherited isMutable shape).properties.Pairwise
      fun p q => p.position ≤ q.position := by
  have hsorted : (properties.mergeSort fun p q => p.position ≤ q.position).Pairwise
      fun p q => decide (p.position ≤ q.position) = true := by
    apply List.pairwise_mergeSort
    · intro p q r hpq hqr
      rw [decide_eq_true_iff] at hpq hqr ⊢
      exact Nat.le_trans hpq hqr
    · intro p q
      simpa using Nat.le_total p.position q.position
  rw [properties_arrange, List.pairwise_map]
  exact hsorted.imp of_decide_eq_true

/-- What flags do not count for is read off the same properties as were given. -/
theorem perm_map_arrange {α : Type} {f : Property → α}
    (hf : ∀ p, f (flagged inherited p) = f p) :
    ((arrange properties parent inherited isMutable shape).properties.map f).Perm
      (properties.map f) := by
  have hflags : f ∘ flagged inherited = f := funext hf
  rw [properties_arrange, List.map_map, hflags]
  exact (List.mergeSort_perm _ _).map f

/-- Properties in the order of their positions are flagged, and that is all. -/
theorem properties_arrange_of_pairwise
    (h : properties.Pairwise fun p q => p.position ≤ q.position) :
    (arrange properties parent inherited isMutable shape).properties =
      properties.map (flagged inherited) := by
  rw [properties_arrange, List.mergeSort_of_pairwise (h.imp decide_eq_true)]

theorem length_properties_arrange :
    (arrange properties parent inherited isMutable shape).properties.length =
      properties.length := by
  rw [properties_arrange, List.length_map, List.length_mergeSort]

/-- The names are those that were given. -/
theorem nodup_name_arrange (h : (properties.map (·.name)).Nodup) :
    ((arrange properties parent inherited isMutable shape).properties.map (·.name)).Nodup :=
  (perm_map_arrange fun _ => rfl).nodup_iff.mpr h

/-- Every property stands at its position if the positions are the numbers from 0 on, each of them
once, and only then. -/
theorem position_eq_iff (hl : l = arrange properties parent inherited isMutable shape) :
    (∀ (i : Nat) p, l.properties[i]? = some p → p.position = i) ↔
      (properties.map (·.position)).Perm (List.range properties.length) := by
  have hperm : (l.properties.map (·.position)).Perm (properties.map (·.position)) := by
    rw [hl]
    exact perm_map_arrange fun _ => rfl
  have hlength : l.properties.length = properties.length := hl ▸ length_properties_arrange
  have hrange : (∀ (i : Nat) p, l.properties[i]? = some p → p.position = i) ↔
      l.properties.map (·.position) = List.range properties.length := by
    constructor
    · intro hplaces
      apply List.ext_getElem
      · rw [List.length_map, List.length_range, hlength]
      · intro i hi _
        rw [List.length_map] at hi
        rw [List.getElem_map, List.getElem_range]
        exact hplaces i _ (List.getElem?_eq_getElem hi)
    · intro heq i p hp
      obtain ⟨hi, rfl⟩ := List.getElem?_eq_some_iff.mp hp
      have hentry := congrArg (·[i]?) heq
      rw [List.getElem?_map, hp, List.getElem?_range (hlength ▸ hi)] at hentry
      exact Option.some.inj hentry
  rw [hrange]
  constructor
  · intro heq
    exact heq ▸ hperm.symm
  · intro hgiven
    -- Both lists are sorted, so they are one list if they have the same entries.
    have hsorted : (l.properties.map (·.position)).Pairwise (· ≤ ·) := by
      rw [List.pairwise_map, hl]
      exact pairwise_position_arrange
    exact (hperm.trans hgiven).eq_of_pairwise (fun _ _ _ _ => Nat.le_antisymm) hsorted
      List.pairwise_le_range

/-- Where no name repeats, to have one's own position for a place is to stand at it. -/
theorem getElem?_position_iff (hnames : (l.properties.map (·.name)).Nodup) :
    (∀ p ∈ l.properties, l.properties[p.position]? = some p) ↔
      ∀ (i : Nat) p, l.properties[i]? = some p → p.position = i := by
  constructor
  · intro hplaces i p hp
    have hindex := index?_of_nodup hnames hp
    have hplace := hplaces p (List.mem_of_getElem? hp)
    exact Option.some.inj ((index?_of_nodup hnames hplace).symm.trans hindex)
  · intro hplaces p hp
    obtain ⟨i, hi⟩ := List.mem_iff_getElem?.mp hp
    rw [hplaces i p hi, hi]

/-! ### Two properties at one position -/

/-- A property at the position 0 that may be written. -/
def atZero (name : String) (type : TypeId) : Property :=
  { name := name, type := type, position := 0, canWrite := true }

/-- The layout of two properties, `a` and `b`, that have one position. -/
def colliding (s t : TypeId) (isMutable : Bool) (shape : Shape) : Layout :=
  .arrange [atZero "a" s, atZero "b" t] none [] isMutable shape

section Colliding

variable (s t : TypeId) (isMutable : Bool) (shape : Shape)

theorem properties_colliding :
    (colliding s t isMutable shape).properties = [atZero "a" s, atZero "b" t] := by
  have hsorted : [atZero "a" s, atZero "b" t].Pairwise fun p q => p.position ≤ q.position := by
    simp [atZero]
  rw [colliding, properties_arrange_of_pairwise hsorted]
  rfl

theorem index?_colliding : (colliding s t isMutable shape).index? "a" = some 0 ∧
    (colliding s t isMutable shape).index? "b" = some 1 := by
  rw [index?, index?, properties_colliding]
  exact ⟨rfl, rfl⟩

theorem property?_colliding :
    (colliding s t isMutable shape).property? "b" = some (atZero "b" t) := by
  rw [property?, (index?_colliding s t isMutable shape).2, properties_colliding]
  rfl

theorem constructor_colliding :
    (colliding s t isMutable shape).constructor = [⟨"a", s, 0⟩, ⟨"b", t, 1⟩] := by
  rw [constructor, properties_colliding]
  rfl

/-- Closing such a layout leaves the properties where they are. -/
theorem arrange_closedProperties_colliding (s' t' : TypeId) (shape' : Shape) :
    .arrange (Direct.closedProperties (colliding s t isMutable shape) [s', t']) none [] isMutable
      shape' = colliding s' t' isMutable shape' := by
  rw [Direct.closedProperties, properties_colliding]
  rfl

end Colliding

end RecordTypes.Layout
