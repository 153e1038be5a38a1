import RecordTypes.Proofs.Registry.Session
import RecordTypes.Proofs.Universe.Arrange
import RecordTypes.Proofs.Universe.Chains

/-!
# Instances of types that were built

What a registry over the direct backend builds is closed over a template, and so it is laid out over
a parent (`Session.exists_isLaidOut`).  The template may be the registry's own, or one that was laid
out by hand, with any positions and flags.  A session leads to a world that is typed, because it
comes down to steps.  So much is known of the slots of the instances of these types, from the making
of the instance on and whatever is called, made and written since (`Session.slots_of_built`).

The templates that a registry makes itself have regular layouts, and so do the types that are closed
over these (`Session.isRegular`).  Their instances hold in each slot what the property takes, and
their own slots stay what they were if the type is not mutable.  Neither holds of a template in
which two properties have one position (`slots_of_colliding`).
-/

namespace RecordTypes.Registry

open World (Steps Write)

variable {r : Registry Unit} {w : World} {history : List Exchange} {t : TypeId}

/-- A session leads to its world by steps from nothing. -/
theorem Session.steps (h : Session history r w) : Steps {} w := by
  induction h with
  | start naming => exact .refl
  | @call history r w c h hheld ih =>
    exact Relation.ReflTransGen.trans ih (steps_perform h.faithful.wellFormed r hheld)
  | step _ hw ih => exact ih.tail hw

theorem Session.typed (h : Session history r w) : w.Typed :=
  World.Steps.typed h.steps World.typed_empty

/-! ### Types that were built -/

/-- A type is one that the registry built: a record type that was asked for, one of given templates
closed over types, by way of the memo or past it, or the type of an object. -/
inductive BuiltFrom (templates : TypeId → Prop) (history : List Exchange) (w : World) :
    TypeId → Prop
  | recordType {fields : Fields TypeId} {options : Options} {t : TypeId}
      (he : ⟨.recordType fields options, .type (.ok t)⟩ ∈ history) :
      BuiltFrom templates history w t
  | close {template : Template} {arguments : List TypeId} {t : TypeId}
      (htemplate : templates template.type)
      (he : ⟨.close template arguments, .type (.ok t)⟩ ∈ history) :
      BuiltFrom templates history w t
  | castClosed {template : TypeId} {arguments : List TypeId} {t : TypeId}
      (htemplate : templates template)
      (he : ⟨.castClosed template arguments, .type (.ok t)⟩ ∈ history) :
      BuiltFrom templates history w t
  | object {values : Fields Value} {made : InstanceId}
      (he : ⟨.object values none, .object (.ok made)⟩ ∈ history) :
      BuiltFrom templates history w (w.heap.cell made).type

/-- A type is one that the registry built, from whatever templates. -/
abbrev Built (history : List Exchange) (w : World) : TypeId → Prop :=
  BuiltFrom (fun _ => True) history w

/-- A type is one that the registry built from its own templates. -/
abbrev BuiltAlone (history : List Exchange) (r : Registry Unit) (w : World) : TypeId → Prop :=
  BuiltFrom (IsOwn history r) history w

/-- What an answer says of the types holds ever after, if it does not depend on types made later. -/
theorem Session.of_mem {P : Universe → Prop} {c : Call} {a : Answer}
    (hgrows : ∀ u v, u.WellFormed → Universe.Grows u v → P u → P v)
    (hcall : ∀ (r : Registry Unit) (w : World), Faithful r w.types →
      (perform directBackend r w c).1 = a → P (perform directBackend r w c).2.2.types)
    (h : Session history r w) (he : ⟨c, a⟩ ∈ history) : P w.types := by
  induction h with
  | start naming => exact absurd he List.not_mem_nil
  | @call history r w c' h _ ih =>
    rcases List.mem_cons.mp he with hnew | hold
    · obtain ⟨rfl, hanswer⟩ := Exchange.mk.inj hnew
      exact hcall r w h.faithful hanswer.symm
    · exact hgrows _ _ h.faithful.wellFormed (h.faithful.typesGrow_perform c') (ih hold)
  | step h hw ih => exact hgrows _ _ h.faithful.wellFormed hw.evolves.grows (ih he)

/-- A type that was closed past the memo is what was asked for. -/
theorem Session.hasClosed_of_castClosed (h : Session history r w) {template : TypeId}
    {arguments : List TypeId}
    (he : ⟨.castClosed template arguments, .type (.ok t)⟩ ∈ history) :
    w.types.HasClosed t template arguments := by
  refine h.of_mem (P := fun u => u.HasClosed t template arguments)
    (fun _ _ hu hgrows ht => hgrows.hasClosed hu ht) (fun r w hr hanswer => ?_) he
  have hresult : (r.foundry.castClosed directBackend template arguments w.types).1 = .ok t :=
    Answer.type.inj hanswer
  show (r.foundry.castClosed directBackend template arguments w.types).2.2.HasClosed t template
    arguments
  rcases Foundry.castClosed_cases hr.wellFormed template arguments r.foundry with
    ⟨e, -, hcast⟩ | ⟨-, t', v, hcast, -, ht⟩
  · rw [hcast] at hresult
    exact absurd hresult nofun
  · rw [hcast] at hresult ⊢
    exact Except.ok.inj hresult ▸ ht

/-- A template that was made past the memo is what was asked for. -/
theorem Session.hasTemplate_of_castTemplate (h : Session history r w) {names : List String}
    {isMutable : Bool} {parent : Option TypeId}
    (he : ⟨.castTemplate names isMutable parent, .type (.ok t)⟩ ∈ history) :
    w.types.HasTemplate t names isMutable (properParent parent) := by
  refine h.of_mem (P := fun u => u.HasTemplate t names isMutable (properParent parent))
    (fun _ _ hu hgrows ht => hgrows.hasTemplate hu ht) (fun r w hr hanswer => ?_) he
  have hresult : (r.foundry.castTemplate directBackend r.naming names isMutable parent
      w.types).1 = .ok t := Answer.type.inj hanswer
  show (r.foundry.castTemplate directBackend r.naming names isMutable parent
    w.types).2.2.HasTemplate t names isMutable (properParent parent)
  rcases Foundry.castTemplate_cases hr.wellFormed r.naming names isMutable parent r.foundry with
    ⟨e, -, hcast⟩ | ⟨-, t', v, hcast, -, ht⟩
  · rw [hcast] at hresult
    exact absurd hresult nofun
  · rw [hcast] at hresult ⊢
    exact Except.ok.inj hresult ▸ ht

/-- The templates that a registry makes itself are regular. -/
theorem Session.isRegular_of_isOwn (h : Session history r w) {template : TypeId}
    (hown : IsOwn history r template) :
    ∃ l, w.types.layout? template = some l ∧ l.IsRegular := by
  cases hown with
  | stored hstored => exact (h.faithful.template _ _ _ _ hstored).isRegular
  | past he => exact (h.hasTemplate_of_castTemplate he).isRegular

/-- The record types that a registry remembers are closed over its own templates. -/
theorem Faithful.exists_hasClosed_of_storedIn {u : Universe} (h : Faithful r u)
    {fields : Fields TypeId} {options : Options}
    (hstored : Exchange.StoredIn ⟨.recordType fields options, .type (.ok t)⟩ r.memo) :
    ∃ template arguments, u.HasClosed t template arguments ∧ IsOwn history r template := by
  obtain ⟨template, htemplate, hclosed⟩ := hstored
  exact ⟨template, _, h.closed _ _ _ hclosed, .stored htemplate⟩

variable {templates : TypeId → Prop}

/-- What was built is closed over one of the templates given, or over one of the registry's own. -/
theorem Session.exists_hasClosed (h : Session history r w)
    (ht : BuiltFrom templates history w t) :
    ∃ template arguments, w.types.HasClosed t template arguments ∧
      (templates template ∨ IsOwn history r template) := by
  obtain ⟨-, hstored⟩ := h.run.remembers
  cases ht with
  | recordType he =>
    obtain ⟨template, arguments, hclosed, hown⟩ :=
      h.faithful.exists_hasClosed_of_storedIn (hstored _ he)
    exact ⟨template, arguments, hclosed, .inr hown⟩
  | close htemplate he => exact ⟨_, _, h.faithful.closed _ _ _ (hstored _ he), .inl htemplate⟩
  | castClosed htemplate he => exact ⟨_, _, h.hasClosed_of_castClosed he, .inl htemplate⟩
  | object he =>
    obtain ⟨template, arguments, hclosed, hown⟩ :=
      h.faithful.exists_hasClosed_of_storedIn (h.madeFrom he).stored
    exact ⟨template, arguments, hclosed, .inr hown⟩

/-- What a registry built from its own templates is regular. -/
theorem Session.isRegular (h : Session history r w) (ht : BuiltAlone history r w t) {l : Layout}
    (hl : w.types.layout? t = some l) : l.IsRegular := by
  obtain ⟨template, arguments, hclosed, hown⟩ := h.exists_hasClosed ht
  obtain ⟨open', hopen, hregular⟩ := h.isRegular_of_isOwn (hown.elim id id)
  exact hclosed.isRegular hopen hregular hl

/-- What was built is laid out over a parent, whose members its instances inherit. -/
theorem Session.exists_isLaidOut (h : Session history r w) (ht : Built history w t) :
    ∃ parent, w.types.IsLaidOut t parent := by
  obtain ⟨template, arguments, hclosed, -⟩ := h.exists_hasClosed ht
  exact hclosed.exists_isLaidOut

/-- The instances of what was built fill their layouts. -/
theorem Session.fills (h : Session history r w) (ht : Built history w t) :
    ∃ l, w.types.layout? t = some l ∧ l.shape.isTemplate = false ∧
      ∀ s, w.heap.Holds (.ref s) → (w.heap.cell s).type = t → w.layoutOf? s = some l ∧
        w.Fills l (w.heap.cell s) := by
  obtain ⟨template, arguments, hclosed, -⟩ := h.exists_hasClosed ht
  obtain ⟨l, hl, hinherited, hshape⟩ := hclosed.exists_layout
  refine ⟨l, hl, hshape, fun s hs htype => ?_⟩
  have hlayout : w.layoutOf? s = some l := by
    rw [World.layoutOf?, htype]
    exact hl
  exact ⟨hlayout, h.typed.fills s l hs hlayout hinherited⟩

/-- After every session, an instance of a type that was built has one slot per property and one per
inherited member.  An inherited slot holds a value that its member takes, and an own slot one that
the property at its place takes or one that is written there: this is the same property if those
that may be written stand at their positions.  Ever since the instance was made, an own slot holds
its argument of the constructor if no property is written there, and the slot of an inherited member
that may not be written holds what it was given then.

What a registry built from its own templates has a regular layout: each own slot holds what the
property at its place takes, and all of them hold the arguments for good if the type is not
mutable. -/
theorem Session.slots_of_built (h : Session history r w) (ht : Built history w t) :
    ∃ l, w.types.layout? t = some l ∧ l.shape.isTemplate = false ∧
      (BuiltAlone history r w t → l.IsRegular ∧ l.WritesInPlace) ∧
      ∀ s, w.heap.Holds (.ref s) → (w.heap.cell s).type = t →
        w.Fills l (w.heap.cell s) ∧
        (l.WritesInPlace →
          List.Forall₂ (fun p v => w.Takes p.type v) l.properties (w.heap.cell s).own) ∧
        (∃ made, w.ComesFrom s made) ∧
        ∀ made, w.ComesFrom s made → made.type = t ∧
          (∀ i : Nat, (∀ p ∈ l.properties, p.canWrite = true → p.position ≠ i) →
            (w.heap.cell s).own[i]? = made.own[i]?) ∧
          (l.IsRegular → l.isMutable = false → (w.heap.cell s).own = made.own) ∧
          ∀ (i : Nat) (m : InheritedMember), l.inherited[i]? = some m →
            m.member.canWrite = false →
            (w.heap.cell s).inherited[i]? = made.inherited[i]? := by
  obtain ⟨l, hl, hshape, hinstances⟩ := h.fills ht
  refine ⟨l, hl, hshape, fun halone => ?_, fun s hs htype => ?_⟩
  · have hregular := h.isRegular halone hl
    exact ⟨hregular, hregular.writesInPlace⟩
  obtain ⟨hlayout, hfills⟩ := hinstances s hs htype
  refine ⟨hfills, fun hplaces => hfills.forall₂_own hplaces,
    World.Steps.exists_comesFrom h.steps hs, fun made hmade => ?_⟩
  have hsame : made.type = t := by rw [← hmade.type_eq, htype]
  refine ⟨hsame, fun i hfixed => ?_, fun hregular hmutable => ?_, fun i m hm hfixed => ?_⟩
  · apply hmade.slot_eq
    rw [hsame, Universe.IsFixedAt, Universe.properties_of_layout? hl]
    exact hfixed
  · apply hmade.own_eq
    rw [hsame]
    exact Universe.isFixed_of_isRegular hl hregular hmutable
  · rw [← World.inheritedOf_of_layoutOf? hlayout] at hm
    exact hmade.inherited_eq hm hfixed

/-- A record type is asked for, and an instance of it is made from values that exist whatever was
made before. -/
theorem Session.exists_typed_object (h : Session history r w) {fields : Fields TypeId}
    {options : Options} {values : Fields Value} {s : InstanceId} {P : World → Prop}
    (hheld : ∀ heap : Heap, ∀ v ∈ values.values, heap.Holds v)
    (hmade : let first := perform directBackend r w (.recordType fields options)
      let second := perform directBackend first.2.1 first.2.2 (.object values (some t))
      first.1 = .type (.ok t) ∧ second.1 = .object (.ok s) ∧ P second.2.2) :
    ∃ r' w', Session (⟨.object values (some t), .object (.ok s)⟩ ::
      ⟨.recordType fields options, .type (.ok t)⟩ :: history) r' w' ∧ P w' := by
  obtain ⟨htype, hobject, hP⟩ := hmade
  have hrecord := h.call (.recordType fields options) trivial
  have hinstance := hrecord.call (.object values (some t)) (hheld _)
  rw [htype, hobject] at hinstance
  exact ⟨_, _, hinstance, hP⟩

/-- An instance over a class with two members, of which one may be written, and is. -/
theorem Session.slots_of_built_over_class :
    let tag : Member := ⟨"tag", .object, .scalar (.object ⟨1⟩), false⟩
    let note : Member := ⟨"note", .builtin .string, .null, true⟩
    let fields : Fields TypeId := ⟨[("a", .builtin .int32)], by decide⟩
    let options : Options := { parent := some (.declared 0) }
    let values : Fields Value := ⟨[("a", .scalar (.int32 7))], by decide⟩
    let history : List Exchange := [⟨.object values (some (.declared 3)), .object (.ok ⟨0⟩)⟩,
      ⟨.recordType fields options, .type (.ok (.declared 3))⟩]
    ∃ r w l made, Session history r w ∧ w.types.layout? (.declared 3) = some l ∧
      l.isMutable = false ∧ l.inherited = [⟨.declared 0, tag⟩, ⟨.declared 0, note⟩] ∧
      w.heap.Holds (.ref ⟨0⟩) ∧
      List.Forall₂ (fun p v => w.Takes p.type v) l.properties (w.heap.cell ⟨0⟩).own ∧
      (w.heap.cell ⟨0⟩).inherited[1]? = some (.scalar (.string "x")) ∧
      w.ComesFrom ⟨0⟩ made ∧ (w.heap.cell ⟨0⟩).own = made.own ∧
      (w.heap.cell ⟨0⟩).inherited[0]? = made.inherited[0]? := by
  intro tag note fields options values history
  let base : ClassInfo := { members := [tag, note] }
  let u : Universe := Universe.add {} ⟨"Base", .nominal base⟩
  let w₀ : World := { heap := ({} : Heap).newObject.2 }
  let x : Write := .direct ⟨0⟩ "note" (.scalar (.string "x"))
  have hdeclared : w₀.declareClass "Base" base = .ok (.declared 0, u) := rfl
  have hmembers : ∀ m ∈ base.members, w₀.heap.Holds m.initial := by
    simp [base, tag, note, w₀, Heap.Holds, Heap.newObject]
  have hclass : Session [] (new .standard ()) { w₀ with types := u } :=
    ((Session.start .standard).step .newObject).step (.declareClass hmembers hdeclared)
  -- The record type is asked for, an instance of it is made, and the instance is written.
  obtain ⟨r, made, hmade, hlayout, hsize, htype, hwritten⟩ : ∃ r made, Session history r made ∧
      ((x.after made).types.layout? (.declared 3)).map (fun l => (l.isMutable, l.inherited)) =
        some (false, [⟨.declared 0, tag⟩, ⟨.declared 0, note⟩]) ∧
      (x.after made).heap.cells.size = 1 ∧ ((x.after made).heap.cell ⟨0⟩).type = .declared 3 ∧
      ((x.after made).heap.cell ⟨0⟩).inherited[1]? = some (.scalar (.string "x")) :=
    hclass.exists_typed_object (by simp [values, Fields.values, Heap.Holds]) (by decide +kernel)
  have h : Session history r (x.after made) := hmade.step (.write trivial)
  generalize x.after made = w at h hlayout hsize htype hwritten
  have hholds : w.heap.Holds (.ref ⟨0⟩) := by
    rw [Heap.Holds, hsize]
    exact Nat.zero_lt_one
  have halone : BuiltAlone history r w (.declared 3) := .recordType (.tail _ (.head _))
  have hbuilt : Built history w (.declared 3) := .recordType (.tail _ (.head _))
  obtain ⟨l, hl, -, hlayouts, hslots⟩ := Session.slots_of_built h hbuilt
  obtain ⟨hregular, hplaces⟩ := hlayouts halone
  obtain ⟨-, hown, ⟨made, hcomes⟩, hsince⟩ := hslots ⟨0⟩ hholds htype
  obtain ⟨-, -, hfixed, hinherited⟩ := hsince made hcomes
  rw [hl, Option.map_some, Option.some.injEq] at hlayout
  obtain ⟨hmutable, hmembers⟩ := Prod.mk.inj hlayout
  have htag : l.inherited[0]? = some ⟨.declared 0, tag⟩ := by
    rw [hmembers]
    rfl
  exact ⟨_, w, l, made, h, hl, hmutable, hmembers, hholds, hown hplaces, hwritten,
    hcomes, hfixed hregular hmutable, hinherited 0 _ htag rfl⟩

/-! ### Two properties at one position -/

/-- The type that is closed over a number and a text. -/
def collidingLayout (isMutable : Bool) : Layout :=
  .colliding (.builtin .int32) (.builtin .string) isMutable
    (.closed (.declared 2) [.builtin .int32, .builtin .string])

/-- One instance, of the number 1 and the text `x`. -/
def collidingHeap (t : TypeId) : Heap where
  cells := #[⟨t, [.scalar (.int32 1), .scalar (.string "x")], []⟩]

/-- The request to write a text under the name of the text. -/
def collidingWrite : Write := .direct ⟨0⟩ "b" (.scalar (.string "boom"))

/-- A type may be closed over a template that was laid out by hand, with two properties at one
position. -/
theorem Session.exists_colliding (isMutable : Bool) : ∃ history r w t, Session history r w ∧
    ⟨.close ⟨.declared 2⟩ [.builtin .int32, .builtin .string], .type (.ok t)⟩ ∈ history ∧
      w.types.layout? t = some (collidingLayout isMutable) ∧ w.heap = {} := by
  let parameters : List TypeId := [.declared 0, .declared 1]
  let arguments : List TypeId := [.builtin .int32, .builtin .string]
  let template : Layout :=
    .colliding (.declared 0) (.declared 1) isMutable (.template parameters)
  let u : Universe := ((Universe.add {} ⟨"A", .parameter 0⟩).add ⟨"B", .parameter 1⟩).add
    ⟨"Pair", .record template⟩
  have h : Session [] (new .standard ()) { types := u } :=
    (((Session.start .standard).step (.declareParameter "A" 0)).step
      (.declareParameter "B" 1)).step
      (.declareRecord "Pair" fun p hp => absurd hp (Option.not_mem_none p))
  have hl : u.layout? (.declared 2) = some template := rfl
  have harity : (u.properties (.declared 2)).length = 2 := by
    rw [Universe.properties_of_layout? hl, Layout.properties_colliding]
    rfl
  have hopen : ∀ a ∈ arguments, u.isOpen a = false :=
    List.forall_mem_cons.mpr ⟨rfl, List.forall_mem_singleton.mpr rfl⟩
  have hcheck : u.checkClosing (.declared 2) arguments = .ok () :=
    (Universe.checkClosing_eq_ok_iff _ _).mpr ⟨rfl, harity.symm, hopen⟩
  -- Nothing is stored yet, so the template is closed here and now.
  rcases h.faithful.close_cases ⟨.declared 2⟩ arguments with
    ⟨t, hget, -⟩ | ⟨e, -, herror, -⟩ | ⟨t, v, -, -, hgrows, hclosed, hout⟩
  · exact absurd hget nofun
  · exact absurd (hcheck.symm.trans herror) nofun
  · have hcall := h.call (.close ⟨.declared 2⟩ arguments) trivial
    rw [show perform directBackend (new .standard ()) { types := u }
        (.close ⟨.declared 2⟩ arguments) = (.type (.ok t), _, { types := v }) by
      rw [perform, hout]] at hcall
    obtain ⟨l, htemplate, -, hlayout⟩ := hclosed
    obtain rfl := Option.some.inj ((hgrows.layout? hl).symm.trans htemplate)
    refine ⟨_, _, _, t, hcall, .head _, ?_, rfl⟩
    rw [hlayout]
    exact congrArg some (Layout.arrange_closedProperties_colliding _ _ _ _ _ _ _)

section Colliding

variable {isMutable : Bool} (hl : w.types.layout? t = some (collidingLayout isMutable))
include hl

theorem create_colliding (hheap : w.heap = {}) :
    w.create t [.scalar (.int32 1), .scalar (.string "x")] = (.ok ⟨0⟩, collidingHeap t) := by
  refine World.create_eq_ok_iff.mpr ⟨_, hl, rfl, ?_, ?_, ?_⟩
  · rw [collidingLayout, Layout.constructor_colliding]
    rfl
  · rw [collidingLayout, Layout.constructor_colliding]
    rfl
  · rw [hheap]
    rfl

/-- The text is written into the slot of the number. -/
theorem outcome_collidingWrite (hheap : w.heap = collidingHeap t) : collidingWrite.outcome w =
    (.ok (), w.heap.setOwn ⟨0⟩ 0 (.scalar (.string "boom"))) := by
  have hproperty : (w.layoutOf? ⟨0⟩).bind (·.property? "b") =
      some (Layout.atZero "b" (.builtin .string)) := by
    rw [World.layoutOf?, hheap, show w.types.layout? ((collidingHeap t).cell ⟨0⟩).type = _ from hl]
    exact Layout.property?_colliding _ _ _ _
  refine (World.write_eq_ok_iff_of_property? hproperty).mpr ⟨rfl, rfl, ?_, rfl⟩
  rw [hheap]
  exact Nat.zero_lt_two

end Colliding

/-- Once the text is written, the slot of the number holds it. -/
theorem Session.exists_collidingWrite (isMutable : Bool) : ∃ history r w t made,
    Session history r w ∧ Built history w t ∧ w.types.layout? t = some (collidingLayout isMutable) ∧
      w.heap.Holds (.ref ⟨0⟩) ∧ (w.heap.cell ⟨0⟩).type = t ∧ w.ComesFrom ⟨0⟩ made ∧
      made.own = [.scalar (.int32 1), .scalar (.string "x")] ∧
      (w.heap.cell ⟨0⟩).own = [.scalar (.string "boom"), .scalar (.string "x")] := by
  obtain ⟨history, r, w, t, h, he, hl, hheap⟩ := Session.exists_colliding isMutable
  have hcreate := create_colliding hl hheap
  have hmade : Session history r { w with heap := collidingHeap t } :=
    h.step (World.step_create (by simp [Heap.Holds]) hcreate)
  have hwrite : World.Step { w with heap := collidingHeap t }
      (collidingWrite.after { w with heap := collidingHeap t }) := .write trivial
  have hout := outcome_collidingWrite (w := { w with heap := collidingHeap t }) hl rfl
  rw [Write.after_of_eq hout] at hwrite
  refine ⟨history, r, _, t, (collidingHeap t).cell ⟨0⟩, hmade.step hwrite,
    .close trivial he, hl, ?_, rfl,
    ⟨w, collidingHeap t, h.steps, ?_, hcreate, rfl, .single hwrite⟩, rfl, rfl⟩
  · exact Nat.zero_lt_one
  · simp [collidingHeap, Heap.cell, Heap.Holds]

/-- The slot of a number may come to hold a text, and that of a type that is not mutable something
else than it was made with. -/
theorem slots_of_colliding :
    (∃ history r w t l s, Session history r w ∧ Built history w t ∧
      w.types.layout? t = some l ∧ w.heap.Holds (.ref s) ∧ (w.heap.cell s).type = t ∧
      ¬ List.Forall₂ (fun p v => w.Takes p.type v) l.properties (w.heap.cell s).own) ∧
    ∃ history r w t l s made, Session history r w ∧ Built history w t ∧
      w.types.layout? t = some l ∧ l.isMutable = false ∧ w.heap.Holds (.ref s) ∧
      (w.heap.cell s).type = t ∧ w.ComesFrom s made ∧ (w.heap.cell s).own ≠ made.own := by
  constructor
  · obtain ⟨history, r, w, t, made, h, ht, hl, hs, htype, -, -, hown⟩ :=
      Session.exists_collidingWrite true
    refine ⟨history, r, w, t, _, ⟨0⟩, h, ht, hl, hs, htype, fun htakes => ?_⟩
    rw [collidingLayout, Layout.properties_colliding, hown] at htakes
    obtain ⟨hnumber, -⟩ := List.forall₂_cons.mp htakes
    exact absurd hnumber.fits Bool.false_ne_true
  · obtain ⟨history, r, w, t, made, h, ht, hl, hs, htype, hmade, hbefore, hown⟩ :=
      Session.exists_collidingWrite false
    refine ⟨history, r, w, t, _, ⟨0⟩, made, h, ht, hl, rfl, hs, htype, hmade, ?_⟩
    rw [hown, hbefore]
    decide

end RecordTypes.Registry
