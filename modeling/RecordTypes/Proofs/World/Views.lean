import RecordTypes.Proofs.Universe.Chains
import RecordTypes.Proofs.World.Sizes

/-!
# Members seen through views

Of the members that an instance inherits, a view on a class shows those that come from the class and
the classes before it in the chain (`isVisible_iff`).  These stand at the beginning of the list, so
the last visible member of a name is found where the beginning says it is (`inheritedIdx?_eq`), and
what is read and written under the name is its slot (`Resolves`).  There is such a slot, because
every instance has one for each inherited member (`Steps.sized`).
-/

namespace RecordTypes

namespace World

variable {w w' : World} {s : InstanceId} {t parent a : TypeId} {cs : List TypeId} {k : Nat}
  {name : String} {v : Value}

/-! ### A slot for each inherited member -/

/-- Every instance has a slot for each inherited member. -/
def Sized (w : World) : Prop := ∀ r, w.heap.Holds (.ref r) →
  (w.heap.cell r).inherited.length = (w.inheritedOf r).length

theorem Sized.step (hsized : w.Sized) (hw : w.Sound) (h : Step w w') : w'.Sized := by
  intro r hr
  rcases h.holds_or_create hr with hold | ⟨t, arguments, heap, -, hcreate, rfl⟩
  · have hlength : (w'.heap.cell r).inherited.length = (w.heap.cell r).inherited.length :=
      congrArg Prod.snd (h.sizes_eq hold)
    rw [h.evolves.inheritedOf_eq hw hold, hlength, hsized r hold]
  · obtain ⟨l, hl, -, -, -, hout⟩ := create_eq_ok_iff.mp hcreate
    obtain ⟨rfl, hheap⟩ := Prod.mk.inj hout
    obtain rfl : heap = (w.heap.allocate t arguments l.inherited).2 := hheap
    have hcell := Heap.cell_allocate_next w.heap t arguments l.inherited
    have hlayout : World.layoutOf? { w with heap := (w.heap.allocate t arguments l.inherited).2 }
        w.heap.next = some l := by
      rw [layoutOf?, hcell]
      exact hl
    rw [inheritedOf_of_layoutOf? hlayout, hcell]
    exact Heap.length_initials _ _

theorem Steps.sized (h : Steps {} w) : w.Sized := by
  induction h with
  | refl => exact fun r hr => absurd hr (Nat.not_lt_zero _)
  | tail h hstep ih => exact ih.step (Steps.sound h sound_empty) hstep

/-! ### What views show -/

section Chain

variable (hu : w.types.WellFormed) (hchain : w.types.Chain cs parent)
include hu hchain

/-- A view on a class shows the members of the class and of the classes before it in the chain. -/
theorem isVisible_iff (ha : cs[k]? = some a) {m : InheritedMember} (hm : m.owner ∈ cs) :
    w.isVisible a m = true ↔ m.owner ∈ cs.take (k + 1) := by
  have hclass : (w.types.class? m.owner).isSome := hchain.isSome_class?_of_mem hm
  rw [(hchain.take ha).mem_iff hu hclass]
  simp [isVisible, Universe.derives]

/-- The last member of a name that a view on a class shows is the last one that the beginning of the
chain declares. -/
theorem inheritedIdx?_eq (hinherited : w.inheritedOf s = w.types.members parent)
    (ha : cs[k]? = some a) (name : String) : w.inheritedIdx? s a name =
      lastIdx? (fun m => m.member.name = name)
        ((cs.take (k + 1)).flatMap w.types.declaredMembers) := by
  have howner : ∀ part : List TypeId, ∀ m ∈ part.flatMap w.types.declaredMembers,
      m.owner ∈ part := by
    intro part m hm
    obtain ⟨c, hc, hm⟩ := List.mem_flatMap.mp hm
    rw [Universe.owner_of_mem_declaredMembers hm]
    exact hc
  rw [inheritedIdx?, hinherited, hchain.members_eq_append hu (k + 1), lastIdx?_append_of_eq_false]
  · apply lastIdx?_congr
    intro m hm
    have htake : m.owner ∈ cs.take (k + 1) := howner _ m hm
    rw [(isVisible_iff hu hchain ha (List.mem_of_mem_take htake)).mpr htake, Bool.and_true]
  · intro m hm
    have hdrop : m.owner ∈ cs.drop (k + 1) := howner _ m hm
    have hhidden : w.isVisible a m = false := by
      rw [Bool.eq_false_iff, ne_eq, isVisible_iff hu hchain ha (List.mem_of_mem_drop hdrop)]
      exact hchain.not_mem_take_of_mem_drop hu hdrop
    rw [hhidden, Bool.and_false]

end Chain

/-- A view on `Object` shows nothing, because no member comes from there. -/
theorem inheritedIdx?_object (hinherited : w.inheritedOf s = w.types.members parent)
    (name : String) : w.inheritedIdx? s (some .object) name = none := by
  rw [inheritedIdx?, lastIdx?_eq_none_iff]
  intro m hm
  rw [hinherited] at hm
  obtain ⟨c, hc, -⟩ := Universe.exists_class?_of_mem_members hm
  have howner : m.owner ≠ .object := Universe.object_ne_of_class? (by rw [hc]; rfl)
  have hderives : w.types.derives .object m.owner = false := by
    rw [Universe.derives, Universe.ancestors_eq_nil (Universe.base?_object _)]
    rfl
  have hhidden : w.isVisible (some .object) m = false := by
    rw [isVisible, hderives, decide_eq_false howner]
    rfl
  rw [hhidden, Bool.and_false]

/-! ### Where names lead -/

/-- Of given members, which come first among those that an instance inherits, the last one of a name
is what a way to read and a way to write lead to.  They miss the name if there is none. -/
structure Resolves (w : World) (s : InstanceId) (members : List InheritedMember) (name : String)
    (read : Except Fault Value) (write : Value → Except Fault Unit × Heap) : Prop where
  found : ∀ i m, members[i]? = some m → m.member.name = name →
    (∀ j m', i < j → members[j]? = some m' → m'.member.name ≠ name) →
    (w.inheritedOf s)[i]? = some m ∧
    (∃ x, (w.heap.cell s).inherited[i]? = some x ∧ read = .ok x) ∧
    ∀ v heap, write v = (.ok (), heap) ↔ m.member.canWrite = true ∧ w.fits m.member.type v = true ∧
      w.heap.setInherited s i v = heap
  read_missing : (∃ owner, read = .error (.unknownProperty owner name)) ↔
    ∀ m ∈ members, m.member.name ≠ name
  write_missing : ∀ v, (∃ owner, (write v).1 = .error (.unknownProperty owner name)) ↔
    ∀ m ∈ members, m.member.name ≠ name

/-- What is read is found exactly if there is a member of the name. -/
theorem Resolves.exists_read_iff {members : List InheritedMember} {read : Except Fault Value}
    {write : Value → Except Fault Unit × Heap} (h : w.Resolves s members name read write) :
    (∃ x, read = .ok x) ↔ ∃ m ∈ members, m.member.name = name := by
  constructor
  · rintro ⟨x, hx⟩
    by_contra hnone
    obtain ⟨owner, hmissing⟩ := h.read_missing.mpr fun m hm hname => hnone ⟨m, hm, hname⟩
    rw [hx] at hmissing
    exact absurd hmissing nofun
  · rintro ⟨m, hm, hname⟩
    rcases hlast : lastIdx? (fun m : InheritedMember => m.member.name = name) members with _ | i
    · exact absurd hname (of_decide_eq_false (lastIdx?_eq_none_iff.mp hlast m hm))
    · obtain ⟨⟨m', hm', hname'⟩, hlater⟩ := lastIdx?_eq_some_iff.mp hlast
      obtain ⟨-, ⟨x, -, hread⟩, -⟩ := h.found i m' hm' (of_decide_eq_true hname')
        fun j m'' hj hm'' => of_decide_eq_false (hlater j m'' hj hm'')
      exact ⟨x, hread⟩

/-- A member that there is may refuse a write, but it is not missed. -/
theorem writeInherited_ne_unknownProperty {i : Nat} {m : InheritedMember} {owner : String}
    (hm : (w.inheritedOf s)[i]? = some m) :
    (w.writeInherited s i name v).1 ≠ .error (.unknownProperty owner name) := by
  intro h
  by_cases hok : m.member.canWrite = true ∧ w.fits m.member.type v = true
  · rw [writeInherited_eq_ok_iff.mpr ⟨m, hm, hok.1, hok.2, rfl⟩] at h
    exact absurd h nofun
  · unfold writeInherited checkFits at h
    rw [hm] at h
    dsimp only at h
    cases hwrite : m.member.canWrite with
    | false =>
      rw [hwrite] at h
      exact absurd (Except.error.inj h) Fault.noConfusion
    | true =>
      have hfits : w.fits m.member.type v = false := by simpa [hwrite] using hok
      rw [hwrite, hfits] at h
      exact absurd (Except.error.inj h) Fault.noConfusion

/-- Reading and writing by the place of the last member is all there is to it. -/
theorem resolves_of_lastIdx? {members : List InheritedMember} {read : Except Fault Value}
    {write : Value → Except Fault Unit × Heap} (hsized : (w.heap.cell s).inherited.length =
      (w.inheritedOf s).length) (hinit : members <+: w.inheritedOf s)
    (hsome : ∀ i, lastIdx? (fun m => m.member.name = name) members = some i →
      (∀ x, (w.heap.cell s).inherited[i]? = some x → read = .ok x) ∧
      ∀ v, write v = w.writeInherited s i name v)
    (hnone : lastIdx? (fun m : InheritedMember => m.member.name = name) members = none →
      (∃ owner, read = .error (.unknownProperty owner name)) ∧
      ∀ v, ∃ owner, (write v).1 = .error (.unknownProperty owner name)) :
    w.Resolves s members name read write := by
  have hmissing : lastIdx? (fun m : InheritedMember => m.member.name = name) members = none ↔
      ∀ m ∈ members, m.member.name ≠ name := by
    rw [lastIdx?_eq_none_iff]
    simp only [decide_eq_false_iff_not, ne_eq]
  -- A member at a place has a slot there.
  have hslot : ∀ (i : Nat) m, members[i]? = some m → (w.inheritedOf s)[i]? = some m ∧
      ∃ x, (w.heap.cell s).inherited[i]? = some x := by
    intro i m hm
    obtain ⟨rest, hrest⟩ := hinit
    have hi : i < members.length := (List.getElem?_eq_some_iff.mp hm).1
    have hplace : (w.inheritedOf s)[i]? = some m := by
      rw [← hrest, List.getElem?_append_left hi, hm]
    have hlt : i < (w.heap.cell s).inherited.length := by
      rw [hsized]
      exact (List.getElem?_eq_some_iff.mp hplace).1
    exact ⟨hplace, _, List.getElem?_eq_getElem hlt⟩
  refine ⟨fun i m hm hname hlater => ?_, ?_, fun v => ?_⟩
  · have hlast : lastIdx? (fun m => m.member.name = name) members = some i := by
      refine lastIdx?_eq_some_iff.mpr ⟨⟨m, hm, decide_eq_true hname⟩, fun j m' hj hm' => ?_⟩
      exact decide_eq_false (hlater j m' hj hm')
    obtain ⟨hread, hwrite⟩ := hsome i hlast
    obtain ⟨hplace, x, hx⟩ := hslot i m hm
    refine ⟨hplace, ⟨x, hx, hread x hx⟩, fun v heap => ?_⟩
    rw [hwrite v, writeInherited_eq_ok_iff, hplace]
    simp only [Option.some.injEq, exists_eq_left']
  · rw [← hmissing]
    refine ⟨fun ⟨owner, hread⟩ => ?_, fun hlast => (hnone hlast).1⟩
    rcases hlast : lastIdx? (fun m : InheritedMember => m.member.name = name) members with _ | i
    · rfl
    · obtain ⟨m, hm, -⟩ := exists_of_lastIdx?_eq_some hlast
      obtain ⟨-, x, hx⟩ := hslot i m hm
      rw [(hsome i hlast).1 x hx] at hread
      exact absurd hread nofun
  · rw [← hmissing]
    refine ⟨fun ⟨owner, hwrite⟩ => ?_, fun hlast => (hnone hlast).2 v⟩
    rcases hlast : lastIdx? (fun m : InheritedMember => m.member.name = name) members with _ | i
    · rfl
    · obtain ⟨m, hm, -⟩ := exists_of_lastIdx?_eq_some hlast
      rw [(hsome i hlast).2 v] at hwrite
      exact absurd hwrite (writeInherited_ne_unknownProperty (hslot i m hm).1)

/-! ### Instances over a chain -/

section Over

variable {l : Layout} (hu : w.types.WellFormed) (hchain : w.types.Chain cs parent)
  (hsized : (w.heap.cell s).inherited.length = (w.inheritedOf s).length)
  (hinherited : w.inheritedOf s = w.types.members parent)
include hu hchain hsized hinherited

/-- A view on a class of the chain leads to the members of the beginning of the chain. -/
theorem resolves_view (ha : cs[k]? = some a) (name : String) :
    w.Resolves s ((cs.take (k + 1)).flatMap w.types.declaredMembers) name
      (w.readVia ⟨s, a⟩ name) (w.writeVia ⟨s, a⟩ name) := by
  have hidx := inheritedIdx?_eq hu hchain hinherited ha name
  apply resolves_of_lastIdx? hsized
  · rw [hinherited, hchain.members_eq_append hu (k + 1)]
    exact List.prefix_append _ _
  · intro i hi
    rw [hi] at hidx
    have hplace : w.placeVia? ⟨s, a⟩ name = some (.inherited i) := by
      rw [placeVia?, hidx, Option.map_some]
    exact ⟨fun x hx => readVia_eq_ok hplace hx, fun v => by rw [writeVia, hidx]⟩
  · intro hi
    rw [hi] at hidx
    exact ⟨⟨_, by rw [readVia, readInherited, hidx]; rfl⟩,
      fun v => ⟨_, by rw [writeVia, hidx]⟩⟩

omit hu hchain in
/-- A view on `Object` leads nowhere. -/
theorem resolves_view_object (name : String) :
    w.Resolves s [] name (w.readVia ⟨s, .object⟩ name) (w.writeVia ⟨s, .object⟩ name) := by
  have hidx := inheritedIdx?_object hinherited name
  apply resolves_of_lastIdx? hsized (List.nil_prefix)
  · exact fun i hi => absurd hi nofun
  · intro _
    exact ⟨⟨_, by rw [readVia, readInherited, hidx]; rfl⟩,
      fun v => ⟨_, by rw [writeVia, hidx]⟩⟩

/-- A name that no property has leads to the members of the whole chain. -/
theorem resolves_direct (hproperty : (w.layoutOf? s).bind (·.property? name) = none) :
    w.Resolves s (cs.flatMap w.types.declaredMembers) name (w.read s name) (w.write s name) := by
  have hmembers : w.inheritedOf s = cs.flatMap w.types.declaredMembers := by
    rw [hinherited, hchain.members_eq hu]
  have hidx : w.inheritedIdx? s none name =
      lastIdx? (fun m => m.member.name = name) (cs.flatMap w.types.declaredMembers) := by
    rw [inheritedIdx?, hmembers]
    exact lastIdx?_congr fun m _ => Bool.and_true _
  have hplace := place?_of_property?_eq_none hproperty
  apply resolves_of_lastIdx? hsized
  · exact ⟨[], by rw [List.append_nil, hmembers]⟩
  · intro i hi
    rw [hi] at hidx
    rw [hidx, Option.map_some] at hplace
    exact ⟨fun x hx => read_eq_ok hplace hx,
      fun v => write_eq_writeInherited hproperty hidx⟩
  · intro hi
    rw [hi] at hidx
    rw [hidx, Option.map_none] at hplace
    exact ⟨⟨_, by rw [read, slot?_eq, hplace]; rfl⟩,
      fun v => ⟨_, congrArg Prod.fst (write_eq_unknownProperty hproperty hidx)⟩⟩

end Over

/-- An instance of a record type over the last class of a chain, seen as any class of the chain.
What the view leads to under a name is the last member of that name among those that the chain
declares up to that class, and as `Object` there is none.  A name that no property has leads where
it does in a view on the last class, and the properties that hide a member are those whose name
leads anywhere there. -/
theorem resolves_through_views (h : Steps {} w) (hs : w.heap.Holds (.ref s))
    (ht : w.types.IsLaidOut (w.heap.cell s).type (some parent))
    (hchain : w.types.Chain cs parent) :
    (∀ (k : Nat) a, cs[k]? = some a → w.viewAs s a = .ok ⟨s, a⟩ ∧
      ∀ name, w.Resolves s ((cs.take (k + 1)).flatMap w.types.declaredMembers) name
        (w.readVia ⟨s, a⟩ name) (w.writeVia ⟨s, a⟩ name)) ∧
    (w.viewAs s .object = .ok ⟨s, .object⟩ ∧ ∀ name,
      w.Resolves s [] name (w.readVia ⟨s, .object⟩ name) (w.writeVia ⟨s, .object⟩ name)) ∧
    (∀ name, name ∉ (w.types.properties (w.heap.cell s).type).map (·.name) →
      w.Resolves s (cs.flatMap w.types.declaredMembers) name (w.read s name) (w.write s name)) ∧
    ∀ p ∈ w.types.properties (w.heap.cell s).type,
      p.hidesInherited = true ↔ ∃ x, w.readVia ⟨s, parent⟩ p.name = .ok x := by
  have hu : w.types.WellFormed := (Steps.typed h typed_empty).wellFormed
  have hsized := h.sized s hs
  obtain ⟨l, hl, hlayout, hhides⟩ := ht.exists_layout
  have hinherited : w.inheritedOf s = w.types.members parent := by
    rw [inheritedOf_of_layoutOf? (l := l) hl, hlayout]
  -- The ancestors of the type are the classes of the chain, and `Object`.
  have hancestors : w.types.ancestors (w.heap.cell s).type = cs.reverse ++ [.object] := by
    rw [hu.ancestors_eq_cons ht.base, hchain.ancestors_eq hu]
  have hview : ∀ a, a ∈ w.types.ancestors (w.heap.cell s).type → w.viewAs s a = .ok ⟨s, a⟩ := by
    intro a ha
    rw [viewAs, Universe.derives, if_pos (List.contains_iff_mem.mpr ha)]
  refine ⟨fun k a ha => ⟨?_, resolves_view hu hchain hsized hinherited ha⟩,
    ⟨?_, resolves_view_object hsized hinherited⟩, fun name hname => ?_, fun p hp => ?_⟩
  · apply hview
    rw [hancestors]
    exact List.mem_append_left _ (List.mem_reverse.mpr (List.mem_of_getElem? ha))
  · apply hview
    rw [hancestors]
    exact List.mem_append_right _ List.mem_cons_self
  · apply resolves_direct hu hchain hsized hinherited
    rw [Universe.properties_of_layout? hl] at hname
    rw [layoutOf?, hl]
    show l.property? name = none
    rw [Layout.property?, Layout.index?_eq_none_iff.mpr hname]
    rfl
  · obtain ⟨k, hk⟩ := List.mem_iff_getElem?.mp hchain.mem
    have hresolves := resolves_view hu hchain hsized hinherited hk p.name
    rw [Universe.properties_of_layout? hl] at hp
    rw [hhides p hp, hresolves.exists_read_iff, (hchain.take hk).members_eq hu]

/-- A base class and a class derived from it declare a note each.  The view on the base class leads
to the first one, the view on the derived class and the bare name to the second one. -/
theorem resolves_through_views_of_two_notes :
    let note (text : String) : Member := ⟨"note", .builtin .string, .scalar (.string text), true⟩
    let first : ClassInfo := { members := [note "first"] }
    let second : ClassInfo := { base := some (.declared 0), members := [note "second"] }
    let classes : Universe :=
      (Universe.add {} ⟨"First", .nominal first⟩).add ⟨"Second", .nominal second⟩
    let number : Property :=
      { name := "x", type := .builtin .int32, position := 0, canWrite := true }
    let l : Layout :=
      { properties := [number]
        parent := some (.declared 1)
        inherited := [⟨.declared 0, note "first"⟩, ⟨.declared 1, note "second"⟩]
        isMutable := true
        shape := .closed .object [.builtin .int32] }
    let w : World :=
      { types := classes.add ⟨"Over", .record l⟩
        heap := { cells := #[⟨.declared 2, [.scalar (.int32 7)],
          [.scalar (.string "first"), .scalar (.string "second")]⟩] } }
    let s : InstanceId := ⟨0⟩
    Steps {} w ∧ w.types.Chain [.declared 0, .declared 1] (.declared 1) ∧
      w.types.IsLaidOut (w.heap.cell s).type (some (.declared 1)) ∧
      w.viewAs s (.declared 0) = .ok ⟨s, .declared 0⟩ ∧
      w.readVia ⟨s, .declared 0⟩ "note" = .ok (.scalar (.string "first")) ∧
      w.readVia ⟨s, .declared 1⟩ "note" = .ok (.scalar (.string "second")) ∧
      w.read s "note" = .ok (.scalar (.string "second")) ∧
      ∃ owner, w.readVia ⟨s, .object⟩ "note" = .error (.unknownProperty owner "note") := by
  intro note first second classes number l w s
  let w₁ : World := { types := Universe.add {} ⟨"First", .nominal first⟩ }
  let w₂ : World := { types := classes }
  let w₃ : World := { types := w.types }
  have hdeclareFirst : ({} : World).declareClass "First" first = .ok (.declared 0, w₁.types) := rfl
  have hfirst : Step {} w₁ := .declareClass (by simp [first, note, Heap.Holds]) hdeclareFirst
  have hdeclareSecond : w₁.declareClass "Second" second = .ok (.declared 1, w₂.types) := rfl
  have hsecond : Step w₁ w₂ := .declareClass (by simp [second, note, Heap.Holds]) hdeclareSecond
  have hparent : ∀ p ∈ l.parent, w₂.types.Knows p := fun p hp => Option.some.inj hp ▸ rfl
  have hover : Step w₂ w₃ := .declareRecord "Over" hparent
  have hcreate : w₃.create (.declared 2) [.scalar (.int32 7)] = (.ok s, w.heap) := rfl
  have hmade : Step w₃ w := step_create (by simp [Heap.Holds]) hcreate
  have hsteps : Steps {} w := (((Relation.ReflTransGen.single hfirst).tail hsecond).tail hover).tail
    hmade
  have hroot : w.types.Chain [.declared 0] (.declared 0) := .root (c := first) rfl rfl
  have hchain : w.types.Chain [.declared 0, .declared 1] (.declared 1) :=
    hroot.derived (c := second) rfl rfl
  have hlaid : w.types.IsLaidOut (w.heap.cell s).type (some (.declared 1)) :=
    ⟨[number], true, l.shape, by decide +kernel⟩
  have hs : w.heap.Holds (.ref s) := Nat.zero_lt_one
  obtain ⟨hviews, ⟨-, hobject⟩, hdirect, -⟩ := resolves_through_views hsteps hs hlaid hchain
  obtain ⟨hview, hfirstView⟩ := hviews 0 (.declared 0) rfl
  obtain ⟨-, hsecondView⟩ := hviews 1 (.declared 1) rfl
  have hnotProperty : "note" ∉ (w.types.properties (w.heap.cell s).type).map (·.name) := by
    decide +kernel
  have hend : ∀ (ms : List InheritedMember) (j : Nat) m, ms.length ≤ j → ms[j]? ≠ some m := by
    intro ms j m hj
    rw [List.getElem?_eq_none hj]
    exact (Option.some_ne_none m).symm
  obtain ⟨-, ⟨x, hx, hfirstRead⟩, -⟩ := (hfirstView "note").found 0 ⟨.declared 0, note "first"⟩
    rfl rfl fun j m hj hm => absurd hm (hend _ j m hj)
  obtain ⟨-, ⟨y, hy, hsecondRead⟩, -⟩ := (hsecondView "note").found 1
    ⟨.declared 1, note "second"⟩ rfl rfl fun j m hj hm => absurd hm (hend _ j m hj)
  obtain ⟨-, ⟨z, hz, hread⟩, -⟩ := (hdirect "note" hnotProperty).found 1
    ⟨.declared 1, note "second"⟩ rfl rfl fun j m hj hm => absurd hm (hend _ j m hj)
  obtain rfl := Option.some.inj hx
  obtain rfl := Option.some.inj hy
  obtain rfl := Option.some.inj hz
  exact ⟨hsteps, hchain, hlaid, hview, hfirstRead, hsecondRead, hread,
    (hobject "note").read_missing.mpr fun m hm => absurd hm List.not_mem_nil⟩

end World

end RecordTypes
