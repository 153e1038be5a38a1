import RecordTypes.World.Access
import RecordTypes.Proofs.Fields.Lookup
import RecordTypes.Proofs.Heap.Cells
import Mathlib.Tactic.ByContra
import Mathlib.Tactic.SplitIfs

/-!
# What goes through

A class is declared over no base or over a class, with members that start with values that fit
(`declareClass_cases`).  A request for an instance goes through if the type is a closed record type
and every argument fits its parameter, and the instance is then allocated (`create_eq_ok_iff`).  A
`Write` goes through if the slot that it leads to is there, may be written and takes the value, and
this one slot is then changed (`Write.outcome_cases`).

Nothing is changed by a request that is refused, because all checks come before the change
(`create_cases`, `createNamed_cases`, `Write.outcome_cases`).  These lemmas are all that is ever
asked of the checks.
-/

namespace RecordTypes.World

variable {w : World} {r : InstanceId} {t : TypeId} {v : Value} {heap : Heap} {name : String}
  {arguments : List Value}

/-! ### Values and types -/

theorem checkFits_eq_ok_iff (w : World) (name : String) (t : TypeId) (v : Value) :
    w.checkFits name t v = .ok () ↔ w.fits t v = true := by
  unfold checkFits
  split_ifs with hfits
  · exact ⟨fun _ => hfits, fun _ => rfl⟩
  · exact ⟨nofun, fun h => absurd h hfits⟩

/-! ### Declaring classes -/

theorem checkMembers_eq_ok_iff {owner : String} {ms : List Member} :
    w.checkMembers owner ms = .ok () ↔ ∀ m ∈ ms, w.fits m.type m.initial = true := by
  induction ms with
  | nil => exact ⟨fun _ => nofun, fun _ => rfl⟩
  | cons m ms ih =>
    rw [List.forall_mem_cons, ← ih, ← w.checkFits_eq_ok_iff (owner ++ "." ++ m.name), checkMembers]
    rcases w.checkFits (owner ++ "." ++ m.name) m.type m.initial with e | _
    · exact ⟨nofun, fun h => absurd h.1 nofun⟩
    · exact ⟨fun h => ⟨rfl, h⟩, fun h => h.2⟩

/-- A class is declared over no base or over a class, and with members that start with values that
fit. -/
theorem declareClass_cases {c : ClassInfo} {u : Universe} (h : w.declareClass name c = .ok (t, u)) :
    u = w.types.add ⟨name, .nominal c⟩ ∧ (∀ b ∈ c.base, (w.types.class? b).isSome) ∧
      ∀ m ∈ c.members, w.fits m.type m.initial = true := by
  unfold declareClass at h
  rcases hbase : w.checkBase name c.base with e | _
  · rw [hbase] at h
    exact absurd h nofun
  · rcases hmembers : w.checkMembers name c.members with e | _
    · rw [hbase, hmembers] at h
      exact absurd h nofun
    · rw [hbase, hmembers] at h
      refine ⟨(congrArg Prod.snd (Except.ok.inj h)).symm, fun b hb => ?_,
        checkMembers_eq_ok_iff.mp hmembers⟩
      rw [show c.base = some b from hb, checkBase] at hbase
      by_contra hclass
      rw [if_neg hclass] at hbase
      exact absurd hbase nofun

/-! ### Making instances -/

theorem checkArguments_eq_ok_iff {ps : List Parameter} {vs : List Value}
    (hlength : vs.length = ps.length) : w.checkArguments ps vs = .ok () ↔
      List.Forall₂ (fun p v => w.fits p.type v = true) ps vs := by
  induction ps generalizing vs with
  | nil =>
    obtain rfl : vs = [] := List.length_eq_zero_iff.mp hlength
    exact ⟨fun _ => .nil, fun _ => rfl⟩
  | cons p ps ih =>
    cases vs with
    | nil => exact absurd hlength (by simp)
    | cons v vs =>
      rw [List.forall₂_cons, ← ih (by simpa using hlength), ← w.checkFits_eq_ok_iff p.name,
        checkArguments]
      rcases w.checkFits p.name p.type v with e | _
      · exact ⟨nofun, fun h => absurd h.1 nofun⟩
      · exact ⟨fun h => ⟨rfl, h⟩, fun h => h.2⟩

/-- A request for an instance is refused, or every check is passed and the instance is allocated. -/
theorem create_cases (w : World) (t : TypeId) (arguments : List Value) :
    (∃ e, w.create t arguments = (.error e, w.heap)) ∨
    ∃ l, w.types.layout? t = some l ∧ l.shape.isTemplate = false ∧
      arguments.length = l.constructor.length ∧
      w.checkArguments l.constructor arguments = .ok () ∧
      w.create t arguments =
        (.ok w.heap.next, (w.heap.allocate t arguments l.inherited).2) := by
  unfold create
  rcases w.types.layout? t with _ | l
  · exact .inl ⟨_, rfl⟩
  · dsimp only
    split_ifs with hshape hlength
    · exact .inl ⟨_, rfl⟩
    · exact .inl ⟨_, rfl⟩
    · rcases hcheck : w.checkArguments l.constructor arguments with e | _
      · exact .inl ⟨e, rfl⟩
      · exact .inr ⟨l, rfl, Bool.eq_false_iff.mpr hshape, not_not.mp hlength, hcheck, rfl⟩

theorem create_eq_ok_iff : w.create t arguments = (.ok r, heap) ↔
    ∃ l, w.types.layout? t = some l ∧ l.shape.isTemplate = false ∧
      arguments.length = l.constructor.length ∧
      w.checkArguments l.constructor arguments = .ok () ∧
      (r, heap) = w.heap.allocate t arguments l.inherited := by
  constructor
  · intro h
    rcases w.create_cases t arguments with ⟨e, herror⟩ | ⟨l, hl, hshape, hlength, hcheck, hout⟩
    · exact absurd (h.symm.trans herror) nofun
    · obtain ⟨hmade, rfl⟩ := Prod.mk.inj (h.symm.trans hout)
      obtain rfl := Except.ok.inj hmade
      exact ⟨l, hl, hshape, hlength, hcheck, rfl⟩
  · rintro ⟨l, hl, hshape, hlength, hcheck, hout⟩
    obtain ⟨rfl, rfl⟩ := Prod.mk.inj hout
    unfold create
    rw [hl]
    dsimp only
    rw [hshape, if_neg Bool.false_ne_true, if_neg (not_not.mpr hlength), hcheck]
    rfl

/-- An instance that is refused leaves the heap as it is. -/
theorem heap_create_of_error {e : Fault} (h : (w.create t arguments).1 = .error e) :
    (w.create t arguments).2 = w.heap := by
  rcases w.create_cases t arguments with ⟨e', hout⟩ | ⟨l, -, -, -, -, hout⟩
  · rw [hout]
  · rw [hout] at h
    exact absurd h nofun

/-- The world after a request for an instance. -/
def afterCreate (w : World) (t : TypeId) (arguments : List Value) : World :=
  { w with heap := (w.create t arguments).2 }

theorem afterCreate_of_eq {made : Except Fault InstanceId}
    (h : w.create t arguments = (made, heap)) : w.afterCreate t arguments = { w with heap } := by
  rw [afterCreate, h]

theorem afterCreate_of_error {e : Fault} (h : (w.create t arguments).1 = .error e) :
    w.afterCreate t arguments = w := by
  rw [afterCreate, heap_create_of_error h]

theorem mem_values_of_argumentsFor {values : Fields Value} {ps : List Parameter}
    (h : argumentsFor values ps = .ok arguments) (hv : v ∈ arguments) : v ∈ values.values := by
  induction ps generalizing arguments with
  | nil =>
    obtain rfl : [] = arguments := Except.ok.inj h
    exact absurd hv (by simp)
  | cons p ps ih =>
    unfold argumentsFor at h
    rcases hget : values.get? p.name with _ | a
    · rw [hget] at h
      exact absurd h nofun
    · rw [hget] at h
      rcases hrest : argumentsFor values ps with e | rest
      · rw [hrest] at h
        exact absurd h nofun
      · rw [hrest] at h
        obtain rfl : a :: rest = arguments := Except.ok.inj h
        rcases List.mem_cons.mp hv with rfl | hv
        · exact Fields.mem_values_of_get? hget
        · exact ih hrest hv

/-- A request for an instance by name is refused, or comes to a request with some of the values as
arguments. -/
theorem createNamed_cases (w : World) (t : TypeId) (values : Fields Value) :
    (∃ e, w.createNamed t values = (.error e, w.heap)) ∨
    ∃ arguments, w.createNamed t values = w.create t arguments ∧
      ∀ v ∈ arguments, v ∈ values.values := by
  unfold createNamed
  rcases w.types.layout? t with _ | l
  · exact .inl ⟨_, rfl⟩
  · dsimp only
    split_ifs with hshape
    · exact .inl ⟨_, rfl⟩
    · rcases values.names.find? (fun name => (l.index? name).isNone) with _ | name
      · dsimp only
        rcases harguments : argumentsFor values l.constructor with e | arguments
        · exact .inl ⟨e, rfl⟩
        · exact .inr ⟨arguments, rfl, fun v => mem_values_of_argumentsFor harguments⟩
      · exact .inl ⟨_, rfl⟩

/-- An instance that is refused by name leaves the heap as it is. -/
theorem heap_createNamed_of_error {values : Fields Value} {e : Fault}
    (h : (w.createNamed t values).1 = .error e) : (w.createNamed t values).2 = w.heap := by
  rcases w.createNamed_cases t values with ⟨e', hout⟩ | ⟨arguments, hout, -⟩
  · rw [hout]
  · rw [hout] at h ⊢
    exact heap_create_of_error h

/-! ### Writing slots -/

theorem writeInherited_cases (w : World) (r : InstanceId) (i : Nat) (name : String) (v : Value) :
    (∃ e, w.writeInherited r i name v = (.error e, w.heap)) ∨
    ∃ m, (w.inheritedOf r)[i]? = some m ∧ m.member.canWrite = true ∧
      w.fits m.member.type v = true ∧
      w.writeInherited r i name v = (.ok (), w.heap.setInherited r i v) := by
  unfold writeInherited
  rcases (w.inheritedOf r)[i]? with _ | m
  · exact .inl ⟨_, rfl⟩
  · dsimp only
    cases hwrite : m.member.canWrite with
    | false => exact .inl ⟨_, rfl⟩
    | true =>
      rcases hcheck : w.checkFits name m.member.type v with e | _
      · exact .inl ⟨e, rfl⟩
      · exact .inr ⟨m, rfl, hwrite, (w.checkFits_eq_ok_iff name _ v).mp hcheck, rfl⟩

theorem writeInherited_eq_ok_iff {i : Nat} : w.writeInherited r i name v = (.ok (), heap) ↔
    ∃ m, (w.inheritedOf r)[i]? = some m ∧ m.member.canWrite = true ∧
      w.fits m.member.type v = true ∧ w.heap.setInherited r i v = heap := by
  constructor
  · intro h
    rcases w.writeInherited_cases r i name v with ⟨e, herror⟩ | ⟨m, hm, hwrite, hfits, hout⟩
    · exact absurd (h.symm.trans herror) nofun
    · exact ⟨m, hm, hwrite, hfits, (Prod.mk.inj (hout.symm.trans h)).2⟩
  · rintro ⟨m, hm, hwrite, hfits, rfl⟩
    unfold writeInherited
    rw [hm]
    dsimp only
    rw [hwrite, (w.checkFits_eq_ok_iff name _ v).mpr hfits]
    rfl

theorem writeOwn_cases (w : World) (r : InstanceId) (p : Property) (name : String) (v : Value) :
    (∃ e, w.writeOwn r p name v = (.error e, w.heap)) ∨
    p.canWrite = true ∧ w.fits p.type v = true ∧ p.position < (w.heap.cell r).own.length ∧
      w.writeOwn r p name v = (.ok (), w.heap.setOwn r p.position v) := by
  unfold writeOwn
  cases hwrite : p.canWrite with
  | false => exact .inl ⟨_, rfl⟩
  | true =>
    rw [if_neg (by decide)]
    rcases hcheck : w.checkFits name p.type v with e | _
    · exact .inl ⟨e, rfl⟩
    · dsimp only
      split_ifs with hposition
      · exact .inr ⟨rfl, (w.checkFits_eq_ok_iff name _ v).mp hcheck, hposition, rfl⟩
      · exact .inl ⟨_, rfl⟩

theorem writeOwn_eq_ok_iff {p : Property} : w.writeOwn r p name v = (.ok (), heap) ↔
    p.canWrite = true ∧ w.fits p.type v = true ∧ p.position < (w.heap.cell r).own.length ∧
      w.heap.setOwn r p.position v = heap := by
  constructor
  · intro h
    rcases w.writeOwn_cases r p name v with ⟨e, herror⟩ | ⟨hwrite, hfits, hposition, hout⟩
    · exact absurd (h.symm.trans herror) nofun
    · exact ⟨hwrite, hfits, hposition, (Prod.mk.inj (hout.symm.trans h)).2⟩
  · rintro ⟨hwrite, hfits, hposition, rfl⟩
    unfold writeOwn
    rw [hwrite, if_neg (by decide), (w.checkFits_eq_ok_iff name _ v).mpr hfits]
    dsimp only
    rw [if_pos hposition]

theorem write_eq_writeOwn {p : Property}
    (hp : (w.layoutOf? r).bind (·.property? name) = some p) :
    w.write r name v = w.writeOwn r p name v := by
  unfold write
  rw [hp]

/-- A property is written at its position, if it may be written, the value fits it and there is a
slot. -/
theorem write_eq_ok_iff_of_property? {p : Property}
    (hp : (w.layoutOf? r).bind (·.property? name) = some p) : w.write r name v = (.ok (), heap) ↔
      p.canWrite = true ∧ w.fits p.type v = true ∧ p.position < (w.heap.cell r).own.length ∧
        w.heap.setOwn r p.position v = heap := by
  rw [write_eq_writeOwn hp, writeOwn_eq_ok_iff]

/-- Without a property of the name, the inherited member is written. -/
theorem write_eq_writeInherited {i : Nat} (hp : (w.layoutOf? r).bind (·.property? name) = none)
    (hi : w.inheritedIdx? r none name = some i) :
    w.write r name v = w.writeInherited r i name v := by
  unfold write
  rw [hp, hi]

theorem write_eq_unknownProperty (hp : (w.layoutOf? r).bind (·.property? name) = none)
    (hi : w.inheritedIdx? r none name = none) :
    w.write r name v = (.error (.unknownProperty (w.ownerName r) name), w.heap) := by
  unfold write
  rw [hp, hi]

/-- A request to write a member of an instance, directly or through a view. -/
inductive Write where
  | direct (r : InstanceId) (name : String) (v : Value)
  | via (view : View) (name : String) (v : Value)

namespace Write

variable {x : Write}

/-- The instance that is to be written. -/
def target : Write → InstanceId
  | direct r _ _ => r
  | via view _ _ => view.target

/-- The value that is to be written. -/
def value : Write → Value
  | direct _ _ v => v
  | via _ _ v => v

/-- What the request comes to, and the heap after it. -/
def outcome (w : World) : Write → Except Fault Unit × Heap
  | direct r name v => w.write r name v
  | via view name v => w.writeVia view name v

/-- The world after the request. -/
def after (w : World) (x : Write) : World := { w with heap := (x.outcome w).2 }

@[simp] theorem types_after (w : World) (x : Write) : (x.after w).types = w.types := rfl

theorem after_of_eq {result : Except Fault Unit} (h : x.outcome w = (result, heap)) :
    x.after w = { w with heap } := by
  rw [after, h]

/-- A request is refused and changes nothing, or it writes one slot of the target: the own slot at
the position of a property that may be written, or the slot of an inherited member that may be
written.  In either case the value fits. -/
theorem outcome_cases (w : World) (x : Write) :
    (∃ e, x.outcome w = (.error e, w.heap)) ∨
    (∃ name l p, x = .direct x.target name x.value ∧ w.layoutOf? x.target = some l ∧
      l.property? name = some p ∧ p.canWrite = true ∧ w.fits p.type x.value = true ∧
      p.position < (w.heap.cell x.target).own.length ∧
      x.outcome w = (.ok (), w.heap.setOwn x.target p.position x.value)) ∨
    ∃ i m, (w.inheritedOf x.target)[i]? = some m ∧ m.member.canWrite = true ∧
      w.fits m.member.type x.value = true ∧
      x.outcome w = (.ok (), w.heap.setInherited x.target i x.value) := by
  cases x with
  | direct r name v =>
    show (∃ e, w.write r name v = _) ∨ (∃ name' l p, _ ∧ _ ∧ _ ∧ _ ∧ _ ∧ _ ∧
      w.write r name v = _) ∨ ∃ i m, _ ∧ _ ∧ _ ∧ w.write r name v = _
    rcases hp : (w.layoutOf? r).bind (·.property? name) with _ | p
    · rcases hi : w.inheritedIdx? r none name with _ | i
      · exact .inl ⟨_, write_eq_unknownProperty hp hi⟩
      · rw [write_eq_writeInherited hp hi]
        exact (w.writeInherited_cases r i name v).imp_right fun h => .inr ⟨i, h⟩
    · obtain ⟨l, hl, hproperty⟩ := Option.bind_eq_some_iff.mp hp
      rw [write_eq_writeOwn hp]
      exact (w.writeOwn_cases r p name v).imp_right
        fun h => .inl ⟨name, l, p, rfl, hl, hproperty, h⟩
  | via view name v =>
    show (∃ e, w.writeVia view name v = _) ∨ (∃ name' l p, _ ∧ _ ∧ _ ∧ _ ∧ _ ∧ _ ∧
      w.writeVia view name v = _) ∨ ∃ i m, _ ∧ _ ∧ _ ∧ w.writeVia view name v = _
    unfold writeVia
    rcases w.inheritedIdx? view.target view.ancestor name with _ | i
    · exact .inl ⟨_, rfl⟩
    · exact (w.writeInherited_cases view.target i name v).imp_right fun h => .inr ⟨i, h⟩

/-- A request that is refused leaves the world as it is. -/
theorem after_of_error {e : Fault} (h : (x.outcome w).1 = .error e) : x.after w = w := by
  rcases x.outcome_cases w with
    ⟨e', hout⟩ | ⟨name, l, p, -, -, -, -, -, -, hout⟩ | ⟨i, m, -, -, -, hout⟩
  · rw [after_of_eq hout]
  · rw [hout] at h
    exact absurd h nofun
  · rw [hout] at h
    exact absurd h nofun

end Write

end RecordTypes.World
