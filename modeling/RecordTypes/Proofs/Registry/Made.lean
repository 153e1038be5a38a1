import RecordTypes.Proofs.World.Text

/-!
# Objects made from values

An object can be made from any values that exist (`Faithful.make_eq_ok`): their types are never
open, and each of them fits the slot that is made for it.  `MadeFrom` says what there is to know of
such an object.  The registry remembers the fields that its type was requested with, its slots hold
the values, and both stay true whatever happens (`MadeFrom.mono`), because the type is one whose
properties may not be written.  What is seen of the object follows from that: its properties, what
is read from them and its text.
-/

namespace RecordTypes.Registry

open Universe (Grows)
open World (Evolves)

variable {r r' : Registry Unit} {u : Universe} {w w' : World} {values : Fields Value}
  {made : InstanceId} {v : Value} {name : String}

/-! ### The slot made for a value -/

theorem slotType_scalar (h : Heap) (s : Scalar) : ∃ p, slotType h (.scalar s) = .builtin p := by
  unfold slotType
  cases hs : s.primitive? with
  | none => exact ⟨.object, by rw [Heap.typeOf?, hs]; rfl⟩
  | some p => exact ⟨p, by rw [Heap.typeOf?, hs]; rfl⟩

/-- Whatever a value is, its type is not open. -/
theorem isOpen_slotType (hw : w.Sound) (hv : w.heap.Holds v) :
    w.types.Knows (slotType w.heap v) ∧ w.types.isOpen (slotType w.heap v) = false := by
  cases v with
  | scalar s =>
    obtain ⟨p, hp⟩ := slotType_scalar w.heap s
    rw [hp]
    exact ⟨rfl, rfl⟩
  | ref r =>
    have hclosed : w.types.IsClosed (slotType w.heap (.ref r)) := hw.closed r hv
    exact ⟨hclosed.knows, hclosed.isOpen_eq_false⟩

/-- A value fits the slot that is made for it, and null fits one for an object. -/
theorem fits_slotType (w : World) (v : Value) : w.fits (slotType w.heap v) v = true := by
  unfold World.fits slotType Universe.admits
  cases w.heap.typeOf? v with
  | none => rfl
  | some t => simp [Universe.isAssignable]

theorem map_slotType_eq (h : Evolves w w') (hheld : ∀ v ∈ values.values, w.heap.Holds v) :
    values.map (slotType w'.heap) = values.map (slotType w.heap) :=
  Fields.map_congr fun v hv => by rw [slotType, slotType, h.typeOf?_eq (hheld v hv)]

theorem slotType_eq_of_same? {h : Heap} {a b : Value} (hab : h.same? a b = some true) :
    slotType h a = slotType h b := by
  obtain ⟨c, ha, hb⟩ := Heap.same?_eq_some_true_iff.mp hab
  rw [slotType, slotType, Heap.typeOf?_eq ha, Heap.typeOf?_eq hb]

/-- The slots made for equal values are of the same types. -/
theorem map_slotType_eq_of_same? {h : Heap} {as bs : List Value}
    (hall : List.Forall₂ (fun a b => h.same? a b = some true) as bs) :
    as.map (slotType h) = bs.map (slotType h) := by
  induction hall with
  | nil => rfl
  | cons hab _ ih => rw [List.map_cons, List.map_cons, slotType_eq_of_same? hab, ih]

/-! ### What is remembered of an object -/

/-- A record type that was handed out has the fields that it was requested with. -/
theorem Faithful.layout?_of_storedIn (h : Faithful r u) {fields : Fields TypeId}
    {options : Options} {t : TypeId}
    (hstored : Exchange.StoredIn ⟨.recordType fields options, .type (.ok t)⟩ r.memo) :
    ∃ template, u.layout? t = some (.ofFields fields.entries (properParent options.parent)
      (u.membersOver (properParent options.parent)) options.isMutable
      (.closed template fields.values)) := by
  obtain ⟨template, htemplate, hclosed⟩ := hstored
  have hlayout := ((h.template _ _ _ _ htemplate).layout?_closed (h.closed _ _ _ hclosed)).2
  rw [Fields.zip_names_values] at hlayout
  exact ⟨template, hlayout⟩

/-- An object was made from values. -/
structure MadeFrom (r : Registry Unit) (w : World) (values : Fields Value) (made : InstanceId) :
    Prop where
  holds : w.heap.Holds (.ref made)
  held : ∀ v ∈ values.values, w.heap.Holds v
  own : (w.heap.cell made).own = values.values
  stored : Exchange.StoredIn
    ⟨.recordType (values.map (slotType w.heap)) {}, .type (.ok (w.heap.cell made).type)⟩ r.memo

/-- The type of an object has the fields that the values call for, and inherits nothing. -/
theorem MadeFrom.layoutOf?_eq (hm : MadeFrom r w values made) (h : Faithful r w.types) :
    ∃ template, w.layoutOf? made = some (.ofFields (values.map (slotType w.heap)).entries none []
      false (.closed template (values.map (slotType w.heap)).values)) :=
  h.layout?_of_storedIn hm.stored

theorem MadeFrom.isFixed (hm : MadeFrom r w values made) (h : Faithful r w.types) :
    w.types.IsFixed (w.heap.cell made).type := by
  obtain ⟨template, hlayout⟩ := hm.layoutOf?_eq h
  exact Universe.isFixed_of_isRegular hlayout (Layout.isRegular_ofFields _ _ _ _ _) rfl

/-- Whatever happens, an object goes on being one that was made from its values. -/
theorem MadeFrom.mono (hm : MadeFrom r w values made) (h : Faithful r w.types)
    (hmemo : r.memo.Extends r'.memo) (hw : Evolves w w') : MadeFrom r' w' values made where
  holds := hw.holds hm.holds
  held v hv := hw.holds (hm.held v hv)
  own := (hw.own_eq made hm.holds (hm.isFixed h)).trans hm.own
  stored := by
    rw [map_slotType_eq hw hm.held, hw.type_eq made hm.holds]
    exact hm.stored.mono hmemo

/-- Objects made with the same names and of values of the same types have one type. -/
theorem MadeFrom.type_eq {values' : Fields Value} {made' : InstanceId}
    (hm : MadeFrom r w values made) (hm' : MadeFrom r w values' made')
    (hnames : values.names = values'.names)
    (htypes : values.values.map (slotType w.heap) = values'.values.map (slotType w.heap)) :
    (w.heap.cell made).type = (w.heap.cell made').type := by
  obtain ⟨template, htemplate, hclosed⟩ := hm.stored
  obtain ⟨template', htemplate', hclosed'⟩ := hm'.stored
  rw [Fields.names_map] at htemplate htemplate'
  rw [Fields.values_map] at hclosed hclosed'
  -- What was requested is the same, and the memo stores one type for it.
  rw [hnames, htemplate', Option.some.injEq] at htemplate
  rw [htypes, ← htemplate, hclosed', Option.some.injEq] at hclosed
  exact hclosed.symm

/-! ### What is seen of an object -/

section Seen

variable (hm : MadeFrom r w values made) (h : Faithful r w.types)
include hm h

/-- An object has a property for each of the values, of the value's type. -/
theorem MadeFrom.map_properties :
    (w.types.properties (w.heap.cell made).type).map (fun p => (p.name, p.type)) =
      values.entries.map fun entry => (entry.1, slotType w.heap entry.2) := by
  obtain ⟨template, hlayout⟩ := hm.layoutOf?_eq h
  rw [Universe.properties_of_layout? hlayout]
  exact Layout.map_properties_ofFields _ _ _ _ _

theorem MadeFrom.map_name_properties :
    (w.types.properties (w.heap.cell made).type).map (·.name) = values.names := by
  have hnames := congrArg (List.map Prod.fst) (hm.map_properties h)
  rw [List.map_map, List.map_map] at hnames
  exact hnames

theorem MadeFrom.fields_eq : w.fields made = values.entries := by
  rw [World.fields, hm.map_name_properties h, hm.own, Fields.zip_names_values]

theorem MadeFrom.text?_eq :
    w.text? (.ref made) = (values.values.mapM w.text?).map (Tree.nodeText values.names) := by
  rw [World.text?_ref, hm.own, hm.map_name_properties h]

/-- What is found under a name is the value of the name. -/
theorem MadeFrom.slot?_eq (name : String) : w.slot? made name = values.get? name := by
  have hnames := hm.map_name_properties h
  obtain ⟨template, hlayout⟩ := hm.layoutOf?_eq h
  rw [Universe.properties_of_layout? hlayout] at hnames
  have hinherited : w.inheritedOf made = [] := by
    rw [World.inheritedOf, hlayout]
    rfl
  unfold World.slot?
  rw [hlayout, Option.bind_some]
  split
  · next i hi =>
    have hname : values.names[i]? = some name := hnames ▸ Layout.getElem?_name_of_index? hi
    rw [hm.own, Fields.getElem?_values hname]
  · next hi =>
    -- Without a property of that name an inherited member is looked for, and there is none.
    have hname : name ∉ values.names := hnames ▸ Layout.index?_eq_none_iff.mp hi
    rw [Fields.get?_eq_none_iff.mpr hname]
    unfold World.readInherited World.inheritedIdx?
    rw [hinherited]
    rfl

end Seen

/-! ### Making an object -/

/-- A closed record type has instances with any values that fit its fields. -/
theorem create_of_fits {fields : List (String × TypeId)} {parent : Option TypeId}
    {inherited : List InheritedMember} {isMutable : Bool} {t template : TypeId}
    {arguments : List TypeId} {vs : List Value}
    (hlayout : w.types.layout? t =
      some (.ofFields fields parent inherited isMutable (.closed template arguments)))
    (hfits : List.Forall₂ (fun field v => w.fits field.2 v = true) fields vs) :
    w.create t vs = (.ok w.heap.next, (w.heap.allocate t vs inherited).2) := by
  let l : Layout := .ofFields fields parent inherited isMutable (.closed template arguments)
  have hconstructor : l.constructor = Parameter.numbered fields :=
    Layout.constructor_ofFields _ _ _ _ _
  have hparameters : List.Forall₂ (fun p v => w.fits p.type v = true) l.constructor vs := by
    rw [← Parameter.map_numbered fields] at hfits
    rw [hconstructor]
    exact List.forall₂_map_left_iff.mp hfits
  have hlength : vs.length = l.constructor.length := hparameters.length_eq.symm
  exact World.create_eq_ok_iff.mpr ⟨l, hlayout, rfl, hlength,
    (World.checkArguments_eq_ok_iff hlength).mpr hparameters, rfl⟩

/-- An object is made from any values that exist.  Types and instances are added, and those there
were stay as they are. -/
theorem Faithful.make_eq_ok (h : Faithful r w.types) (hw : w.Sound)
    (hheld : ∀ v ∈ values.values, w.heap.Holds v) :
    ∃ made r' w', make directBackend r w values = (.ok made, r', w') ∧
      MadeFrom r' w' values made ∧ Faithful r' w'.types ∧ w'.Sound ∧
      Grows w.types w'.types ∧ w.heap.Extends w'.heap := by
  have htypes : ∀ t ∈ (values.map (slotType w.heap)).values,
      w.types.Knows t ∧ w.types.isOpen t = false := by
    rw [Fields.values_map, List.forall_mem_map]
    exact fun v hv => isOpen_slotType hw (hheld v hv)
  have hparent : ∀ p ∈ properParent ({} : Options).parent, w.types.CanDerive p := nofun
  obtain ⟨t, r', u', hout, hr', hgrows, hstored⟩ := h.recordType_eq_ok hparent htypes
  obtain ⟨template, hlayout⟩ := hr'.layout?_of_storedIn hstored
  -- The instance is made after the type, in a universe that has grown by it.
  let v : World := { w with types := u' }
  let heap : Heap := (w.heap.allocate t values.values []).2
  have hfits : List.Forall₂ (fun field x => v.fits field.2 x = true)
      (values.map (slotType v.heap)).entries values.values :=
    List.forall₂_map_left_iff.mpr (List.forall₂_map_right_iff.mpr
      (List.forall₂_same.mpr fun entry _ => fits_slotType v entry.2))
  have hcreate : v.create t values.values = (.ok w.heap.next, heap) :=
    create_of_fits (w := v) hlayout hfits
  have hextends : w.heap.Extends heap := Heap.extends_allocate
  have hevolves : Evolves w ⟨u', heap⟩ := World.evolves_of_extends hgrows hextends
  have hcell : heap.cell w.heap.next = ⟨t, values.values, []⟩ :=
    Heap.cell_allocate_next w.heap t values.values []
  have hmade : MadeFrom r' ⟨u', heap⟩ values w.heap.next := by
    refine ⟨Heap.holds_allocate_next w.heap t values.values [],
      fun v hv => hextends.holds (hheld v hv), congrArg Cell.own hcell, ?_⟩
    rw [map_slotType_eq hevolves hheld, show (heap.cell w.heap.next).type = t by rw [hcell]]
    exact hstored
  refine ⟨w.heap.next, r', ⟨u', heap⟩, ?_, hmade, hr', (hw.declare hgrows).create hheld hcreate,
    hgrows, hextends⟩
  rw [make, hout]
  dsimp only
  rw [show World.create _ t values.values = _ from hcreate]

end RecordTypes.Registry
