import RecordTypes.Proofs.World.Step

/-!
# Slots hold values of their types

A slot that took a value once goes on taking it, because the ancestors of the value's type stay what
they are (`Evolves.takes`).  In a world that is `Typed` the members of classes start with values
that they take, and every instance that inherits what its parent says has one slot per property and
one per inherited member.  An inherited slot holds a value that its member takes.  An own slot holds
a value that the property at its place takes, or one that is written there (`TakesAt`): a property
is written at its position, wherever it stands in the layout.  Where properties that may be written
stand at their positions these are one and the same (`Fills.forall₂_own`).

What establishes that are the checks that a class goes through when it is declared and an instance
when it is made; a write puts into a slot what the property or the member written takes.  So every
step keeps a world typed (`Typed.step`).  A slot of a member that may not be written is not written
at all (`Step.inherited_eq`).
-/

namespace RecordTypes

open Universe (Grows)

/-- A list may be written at one place if the relation to another list is kept there. -/
theorem forall₂_set {α β : Type} {R : α → β → Prop} {as : List α} {bs : List β} {i : Nat} {a : α}
    {b : β} (h : List.Forall₂ R as bs) (ha : as[i]? = some a) (hb : R a b) :
    List.Forall₂ R as (bs.set i b) := by
  induction h generalizing i with
  | nil => exact absurd ha (by simp)
  | cons hhead htail ih =>
    cases i with
    | zero =>
      obtain rfl := Option.some.inj ha
      exact .cons hb htail
    | succ i => exact .cons hhead (ih ha)

namespace World

variable {w w' : World} {r made : InstanceId} {t : TypeId} {v : Value} {heap : Heap}
  {arguments : List Value} {u : Universe} {l : Layout} {c : Cell}

/-! ### What a slot takes -/

/-- A slot of a type takes a value, and the value exists. -/
structure Takes (w : World) (t : TypeId) (v : Value) : Prop where
  holds : w.heap.Holds v
  fits : w.fits t v = true

/-- Whatever exists is of a known type, or null. -/
theorem Sound.knows_typeOf? (hw : w.Sound) (hv : w.heap.Holds v) :
    ∀ t ∈ w.heap.typeOf? v, w.types.Knows t := by
  intro t ht
  cases v with
  | scalar s =>
    obtain ⟨p, -, rfl⟩ := Option.map_eq_some_iff.mp ht
    rfl
  | ref r =>
    obtain rfl := Option.some.inj ht
    exact (hw.closed r hv).knows

theorem Evolves.takes (h : Evolves w w') (hu : w.types.WellFormed) (hw : w.Sound)
    (hv : w.Takes t v) : w'.Takes t v where
  holds := h.holds hv.holds
  fits := by
    unfold World.fits
    rw [h.typeOf?_eq hv.holds]
    exact h.grows.admits hu (hw.knows_typeOf? hv.holds) hv.fits

/-- The own slot at a place may hold a value: the property at the place takes it, or one that is
written there. -/
def TakesAt (w : World) (l : Layout) (i : Nat) (v : Value) : Prop :=
  ∃ p ∈ l.properties, (l.properties[i]? = some p ∨ p.canWrite = true ∧ p.position = i) ∧
    w.Takes p.type v

/-- A cell has one slot per property of a layout and one per inherited member, and each may hold
what it does. -/
structure Fills (w : World) (l : Layout) (c : Cell) : Prop where
  length_own : c.own.length = l.properties.length
  own : ∀ (i : Nat) v, c.own[i]? = some v → w.TakesAt l i v
  inherited : List.Forall₂ (fun m v => w.Takes m.member.type v) l.inherited c.inherited

/-- Each own slot holds what the property at its place takes, if the properties that may be written
stand at their positions. -/
theorem Fills.forall₂_own (hc : w.Fills l c) (hl : l.WritesInPlace) :
    List.Forall₂ (fun p v => w.Takes p.type v) l.properties c.own := by
  refine List.forall₂_iff_get.mpr ⟨hc.length_own.symm, fun i hi hi' => ?_⟩
  obtain ⟨p, hp, hplace, hv⟩ := hc.own i _ (List.getElem?_eq_getElem hi')
  have hplace' : l.properties[i]? = some p := by
    rcases hplace with hplace | ⟨hwrite, rfl⟩
    · exact hplace
    · exact hl p hp hwrite
  rw [List.getElem?_eq_getElem hi] at hplace'
  rw [List.get_eq_getElem, Option.some.inj hplace']
  exact hv

theorem fills_of_forall₂ (hown : List.Forall₂ (fun p v => w.Takes p.type v) l.properties c.own)
    (hinherited : List.Forall₂ (fun m v => w.Takes m.member.type v) l.inherited c.inherited) :
    w.Fills l c where
  length_own := hown.length_eq.symm
  own i v hv := by
    obtain ⟨hlength, hall⟩ := List.forall₂_iff_get.mp hown
    obtain ⟨hi, rfl⟩ := List.getElem?_eq_some_iff.mp hv
    have hi' : i < l.properties.length := hlength ▸ hi
    exact ⟨_, List.getElem_mem hi', .inl (List.getElem?_eq_getElem hi'), hall i hi' hi⟩
  inherited := hinherited

theorem Evolves.fills (h : Evolves w w') (hu : w.types.WellFormed) (hw : w.Sound)
    (hc : w.Fills l c) : w'.Fills l c where
  length_own := hc.length_own
  own i v hv := by
    obtain ⟨p, hp, hplace, hv⟩ := hc.own i v hv
    exact ⟨p, hp, hplace, h.takes hu hw hv⟩
  inherited := hc.inherited.imp fun _ _ => h.takes hu hw

/-- A property is written at its position. -/
theorem Fills.setOwn (hc : w.Fills l c) {p : Property} (hp : p ∈ l.properties)
    (hwrite : p.canWrite = true) (hv : w.Takes p.type v) :
    w.Fills l { c with own := c.own.set p.position v } where
  length_own := List.length_set.trans hc.length_own
  own i x hx := by
    by_cases hi : p.position = i
    · obtain rfl : v = x := by
        subst hi
        have hlt : p.position < (c.own.set p.position v).length :=
          (List.getElem?_eq_some_iff.mp hx).1
        rw [List.length_set] at hlt
        exact Option.some.inj ((List.getElem?_set_self hlt).symm.trans hx)
      exact ⟨p, hp, .inr ⟨hwrite, hi⟩, hv⟩
    · exact hc.own i x ((List.getElem?_set_ne hi).symm.trans hx)
  inherited := hc.inherited

theorem Fills.setInherited (hc : w.Fills l c) {i : Nat} {m : InheritedMember}
    (hm : l.inherited[i]? = some m) (hv : w.Takes m.member.type v) :
    w.Fills l { c with inherited := c.inherited.set i v } :=
  ⟨hc.length_own, hc.own, forall₂_set hc.inherited hm hv⟩

/-- The members of classes start with values that they take, and the slots of instances that inherit
what their parents say hold what they may hold. -/
structure Typed (w : World) : Prop where
  wellFormed : w.types.WellFormed
  sound : w.Sound
  initial : ∀ t c, w.types.class? t = some c → ∀ m ∈ c.members, w.Takes m.type m.initial
  fills : ∀ r l, w.heap.Holds (.ref r) → w.layoutOf? r = some l →
    l.inherited = w.types.membersOver l.parent → w.Fills l (w.heap.cell r)

theorem typed_empty : Typed {} where
  wellFormed := Universe.wellFormed_empty
  sound := sound_empty
  initial t c hc := by
    cases t <;> exact absurd hc nofun
  fills r _ hr := absurd hr (Nat.not_lt_zero _)

/-! ### Declaring types -/

/-- Types may be declared if the members of new classes start with values that they take. -/
theorem Typed.declare (hw : w.Typed) (hu : Grows w.types u)
    (hclasses : ∀ t c, u.class? t = some c → w.types.class? t = some c ∨
      ∀ m ∈ c.members, w.Takes m.type m.initial) : Typed { w with types := u } := by
  have hevolves : Evolves w { w with types := u } := evolves_declare hu
  refine ⟨hu.wellFormed hw.wellFormed, hw.sound.declare hu, fun t c hc m hm => ?_,
    fun r l hr hl hinherited => ?_⟩
  · apply hevolves.takes hw.wellFormed hw.sound
    rcases hclasses t c hc with hold | hnew
    · exact hw.initial t c hold m hm
    · exact hnew m hm
  · have hknows : w.types.Knows (w.heap.cell r).type := (hw.sound.closed r hr).knows
    have hl' : w.layoutOf? r = some l := (hu.layout?_eq hknows).symm.trans hl
    have hmembers : u.membersOver l.parent = w.types.membersOver l.parent :=
      hu.membersOver_eq hw.wellFormed fun p hp => (hw.wellFormed.parent _ l p hl' hp).1
    exact hevolves.fills hw.wellFormed hw.sound (hw.fills r l hr hl' (hinherited.trans hmembers))

/-- What is no class may be declared. -/
theorem Typed.add (hw : w.Typed) {d : Descriptor} (hd : w.types.Allows d)
    (hkind : ∀ c, d.kind ≠ .nominal c) : Typed { w with types := w.types.add d } := by
  apply hw.declare (Grows.refl.add d hd)
  intro t c hc
  rw [Universe.class?_eq_some_iff, Universe.kind?_add] at hc
  split at hc
  · exact absurd (Option.some.inj hc) (hkind c)
  · exact .inl (Universe.class?_eq_some_iff.mpr hc)

/-! ### Making instances -/

theorem eq_object_of_isObject (h : v.isObject = true) : ∃ o, v = .scalar (.object o) := by
  cases v with
  | ref r => simp [Value.isObject] at h
  | scalar s =>
    cases s with
    | object o => exact ⟨o, rfl⟩
    | _ => simp [Value.isObject] at h

/-- The inherited slots of a new instance take what they start with. -/
theorem forall₂_initials (h : Evolves w w') (hu : w.types.WellFormed) (hw : w.Sound)
    {objects : Nat} {members : List InheritedMember}
    (hobjects : (Heap.initials objects members).2 ≤ w'.heap.objects)
    (hinitial : ∀ m ∈ members, w.Takes m.member.type m.member.initial) :
    List.Forall₂ (fun m v => w'.Takes m.member.type v) members
      (Heap.initials objects members).1 := by
  induction members generalizing objects with
  | nil => exact .nil
  | cons m rest ih =>
    obtain ⟨hm, hrest⟩ := List.forall_mem_cons.mp hinitial
    have htakes : w'.Takes m.member.type m.member.initial := h.takes hu hw hm
    unfold Heap.initials at hobjects ⊢
    split
    · next hobject =>
      rw [if_pos hobject] at hobjects
      have hnumber : objects + 1 ≤ w'.heap.objects :=
        Nat.le_trans (Heap.le_initials (objects + 1) rest) hobjects
      -- One object is as good as another: both are of type `Object`.
      have hfits : w'.fits m.member.type (.scalar (.object ⟨objects + 1⟩)) = true := by
        obtain ⟨o, ho⟩ := eq_object_of_isObject hobject
        have hfits := htakes.fits
        rw [ho] at hfits
        exact hfits
      exact .cons ⟨hnumber, hfits⟩ (ih hobjects hrest)
    · next hobject =>
      rw [if_neg hobject] at hobjects
      exact .cons htakes (ih hobjects hrest)

/-- The constructor of a layout takes one value per property. -/
theorem forall₂_constructor_iff {vs : List Value} :
    List.Forall₂ (fun p v => w.fits p.type v = true) l.constructor vs ↔
      List.Forall₂ (fun p v => w.fits p.type v = true) l.properties vs := by
  have hmap := List.forall₂_map_left_iff (f := fun p : Parameter => (p.name, p.type))
    (R := fun field v => w.fits field.2 v = true) (l := l.constructor) (u := vs)
  rw [← hmap, l.map_constructor, List.forall₂_map_left_iff]

/-- What a new instance is made with fills its layout: the arguments were checked just now, and the
initial values when their classes were declared. -/
theorem Typed.fills_allocate (hw : w.Typed) (hheld : ∀ v ∈ arguments, w.heap.Holds v)
    (hinherited : l.inherited = w.types.membersOver l.parent)
    (hfits : List.Forall₂ (fun p v => w.fits p.type v = true) l.properties arguments)
    (h : Evolves w { w with heap := (w.heap.allocate t arguments l.inherited).2 }) :
    World.Fills { w with heap := (w.heap.allocate t arguments l.inherited).2 } l
      ⟨t, arguments, (Heap.initials w.heap.objects l.inherited).1⟩ := by
  have hown : List.Forall₂ (fun p v => w.Takes p.type v) l.properties arguments := by
    obtain ⟨hlength, hall⟩ := List.forall₂_iff_zip.mp hfits
    exact List.forall₂_iff_zip.mpr
      ⟨hlength, fun hmem => ⟨hheld _ (List.of_mem_zip hmem).2, hall hmem⟩⟩
  have hinitial : ∀ m ∈ l.inherited, w.Takes m.member.type m.member.initial := by
    intro m hm
    rw [hinherited] at hm
    obtain ⟨c, hc, hmember⟩ := Universe.exists_class?_of_mem_membersOver hm
    exact hw.initial m.owner c hc m.member hmember
  exact fills_of_forall₂ (hown.imp fun _ _ => h.takes hw.wellFormed hw.sound)
    (forall₂_initials h hw.wellFormed hw.sound (Nat.le_refl _) hinitial)

/-- Where only the heap changes, only the instances are to be looked at. -/
theorem Typed.of_heap (hw : w.Typed) (h : Evolves w { w with heap })
    (hsound : Sound { w with heap })
    (hfills : ∀ r l, heap.Holds (.ref r) → w.types.layout? (heap.cell r).type = some l →
      l.inherited = w.types.membersOver l.parent →
      World.Fills { w with heap } l (heap.cell r)) : Typed { w with heap } where
  wellFormed := hw.wellFormed
  sound := hsound
  initial t c hc m hm := h.takes hw.wellFormed hw.sound (hw.initial t c hc m hm)
  fills r l hr hl hinherited := hfills r l hr hl hinherited

theorem Typed.afterCreate (hw : w.Typed) (t : TypeId) (hheld : ∀ v ∈ arguments, w.heap.Holds v) :
    Typed (w.afterCreate t arguments) := by
  have hevolves : Evolves w (w.afterCreate t arguments) := w.evolves_afterCreate t arguments
  have hsound : Sound (w.afterCreate t arguments) := hw.sound.afterCreate t hheld
  rcases w.create_cases t arguments with ⟨e, hout⟩ | ⟨l, hl, -, hlength, hcheck, hout⟩
  · rw [afterCreate_of_eq hout]
    exact hw
  · rw [afterCreate_of_eq hout] at hevolves hsound ⊢
    have hfits := forall₂_constructor_iff.mp ((checkArguments_eq_ok_iff hlength).mp hcheck)
    apply hw.of_heap hevolves hsound
    intro s l' hs hl' hinherited
    rw [Heap.cell_allocate] at hl' ⊢
    by_cases hnew : s = w.heap.next
    · rw [if_pos hnew] at hl' ⊢
      obtain rfl := Option.some.inj (hl.symm.trans hl')
      exact hw.fills_allocate hheld hinherited hfits hevolves
    · rw [if_neg hnew] at hl' ⊢
      have hs' : w.heap.Holds (.ref s) := Heap.holds_of_holds_allocate hs hnew
      exact hevolves.fills hw.wellFormed hw.sound (hw.fills s l' hs' hl' hinherited)

/-! ### Writing slots -/

/-- An instance may be changed if its slots take what they hold afterwards. -/
theorem Typed.modify (hw : w.Typed) {f : Cell → Cell} (htype : ∀ c, (f c).type = c.type)
    (hevolves : Evolves w { w with heap := w.heap.modify r f })
    (hsound : Sound { w with heap := w.heap.modify r f })
    (hfills : ∀ l, w.layoutOf? r = some l → w.Fills l (w.heap.cell r) →
      w.Fills l (f (w.heap.cell r))) :
    Typed { w with heap := w.heap.modify r f } := by
  apply hw.of_heap hevolves hsound
  intro s l hs hl hinherited
  have hs' : w.heap.Holds (.ref s) := Heap.holds_modify_iff.mp hs
  rw [type_cell_modify htype hs'] at hl
  have hbefore : w.Fills l (w.heap.cell s) := hw.fills s l hs' hl hinherited
  apply hevolves.fills hw.wellFormed hw.sound
  rw [Heap.cell_modify _ _ _ _ hs']
  split
  · next hsr =>
    subst hsr
    exact hfills l hl hbefore
  · exact hbefore

theorem inheritedOf_of_layoutOf? (hl : w.layoutOf? r = some l) : w.inheritedOf r = l.inherited := by
  rw [inheritedOf, hl]
  rfl

/-- A write of an inherited slot puts there what the slot takes. -/
theorem Typed.setInherited (hw : w.Typed) {i : Nat} {m : InheritedMember}
    (hm : (w.inheritedOf r)[i]? = some m) (hv : w.Takes m.member.type v)
    (hevolves : Evolves w { w with heap := w.heap.setInherited r i v })
    (hsound : Sound { w with heap := w.heap.setInherited r i v }) :
    Typed { w with heap := w.heap.setInherited r i v } := by
  let f (c : Cell) : Cell := { c with inherited := c.inherited.set i v }
  apply hw.modify (f := f) (fun _ => rfl) hevolves hsound
  intro l hl hbefore
  rw [inheritedOf_of_layoutOf? hl] at hm
  exact hbefore.setInherited hm hv

/-! ### Steps -/

/-- Every step keeps a world typed. -/
theorem Typed.step (hw : w.Typed) (h : Step w w') : w'.Typed := by
  have hevolves : Evolves w w' := h.evolves
  have hsound : w'.Sound := hw.sound.step h
  cases h with
  | declareClass hheld h =>
    have hgrows := Registry.typesGrow_declareClass h
    obtain ⟨rfl, -, hfits⟩ := declareClass_cases h
    apply hw.declare hgrows
    intro t c hc
    rw [Universe.class?_eq_some_iff, Universe.kind?_add] at hc
    split at hc
    · obtain rfl := Kind.nominal.inj (Option.some.inj hc)
      exact .inr fun m hm => ⟨hheld m hm, hfits m hm⟩
    · exact .inl (Universe.class?_eq_some_iff.mpr hc)
  | declareRecord name hparent => exact hw.add hparent nofun
  | declareParameter name position => exact hw.add trivial nofun
  | newObject =>
    apply hw.of_heap hevolves hsound
    intro r l hr hl hinherited
    exact hevolves.fills hw.wellFormed hw.sound (hw.fills r l hr hl hinherited)
  | create t hheld => exact hw.afterCreate t hheld
  | @write x hheld =>
    rcases x.outcome_cases w with
      ⟨e, hout⟩ | ⟨name, l, p, -, hl, hp, hwrite, hfits, -, hout⟩ | ⟨i, m, hm, -, hfits, hout⟩
    · rw [x.after_of_eq hout]
      exact hw
    · rw [x.after_of_eq hout] at hevolves hsound ⊢
      let f (c : Cell) : Cell := { c with own := c.own.set p.position x.value }
      apply hw.modify (f := f) (fun _ => rfl) hevolves hsound
      intro l' hl' hbefore
      obtain rfl := Option.some.inj (hl.symm.trans hl')
      exact hbefore.setOwn (Layout.mem_properties_of_property? hp) hwrite ⟨hheld, hfits⟩
    · rw [x.after_of_eq hout] at hevolves hsound ⊢
      exact hw.setInherited hm ⟨hheld, hfits⟩ hevolves hsound

/-- Writing an inherited slot leaves those of members that may not be written as they are. -/
theorem inherited_setInherited (hr : w.heap.Holds (.ref r)) {s : InstanceId} {i j : Nat}
    {m m' : InheritedMember} (hm : (w.inheritedOf s)[i]? = some m)
    (hwrite : m.member.canWrite = true) (hm' : (w.inheritedOf r)[j]? = some m')
    (hfixed : m'.member.canWrite = false) :
    ((w.heap.setInherited s i v).cell r).inherited[j]? = (w.heap.cell r).inherited[j]? := by
  unfold Heap.setInherited
  rw [Heap.cell_modify _ _ _ _ hr]
  split
  · next hrs =>
    subst hrs
    have hne : i ≠ j := by
      rintro rfl
      obtain rfl := Option.some.inj (hm.symm.trans hm')
      exact absurd (hwrite.symm.trans hfixed) nofun
    exact List.getElem?_set_ne hne
  · rfl

/-- The slot of an inherited member that may not be written stays as it is. -/
theorem Step.inherited_eq (h : Step w w') (hr : w.heap.Holds (.ref r)) {j : Nat}
    {m : InheritedMember} (hm : (w.inheritedOf r)[j]? = some m)
    (hfixed : m.member.canWrite = false) :
    (w'.heap.cell r).inherited[j]? = (w.heap.cell r).inherited[j]? := by
  cases h with
  | declareClass _ _ => rfl
  | declareRecord _ _ => rfl
  | declareParameter _ _ => rfl
  | newObject => rfl
  | @create t arguments _ =>
    exact congrArg (·.inherited[j]?) ((w.extends_afterCreate t arguments).cell_eq r hr)
  | @write x _ =>
    rcases x.outcome_cases w with
      ⟨e, hout⟩ | ⟨name, l, p, -, -, -, -, -, -, hout⟩ | ⟨i, m', hm', hwrite, -, hout⟩
    · rw [x.after_of_eq hout]
    · rw [x.after_of_eq hout]
      show ((w.heap.modify _ _).cell r).inherited[j]? = _
      rw [Heap.cell_modify _ _ _ _ hr]
      split <;> rfl
    · rw [x.after_of_eq hout]
      exact inherited_setInherited hr hm' hwrite hm hfixed

end World

end RecordTypes
