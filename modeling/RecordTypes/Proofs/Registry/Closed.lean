import RecordTypes.Proofs.Foundry.Layouts
import RecordTypes.Proofs.Naming.Runs
import RecordTypes.Proofs.World.Fresh

/-!
# Closed all the way down

A closed type is closed over types that are not open: this is all that is checked when a template
is closed, and it is checked of the outermost types only.  But these were closed before in the same
way, so however far one goes from a closed type, by the types of properties and by the types that
closed types are closed over, there is no template and no type parameter
(`Site.Course.proper_of_mentions`).

This takes that no type is laid out by hand, and that types exist when they are handed over: a type
that is not declared yet could turn out to be a type parameter later on.  Runs of that kind are
those of a `Site.Course`.
-/

namespace RecordTypes

/-- The types that a shape is closed over. -/
def Shape.arguments : Shape → List TypeId
  | template _ => []
  | closed _ arguments => arguments

namespace Universe

variable {u v : Universe} {t d template : TypeId} {arguments : List TypeId}

/-! ### Types that a type mentions -/

/-- A record type has a property of another type, or is closed over it. -/
def Mentions (u : Universe) (t d : TypeId) : Prop :=
  d ∈ (u.properties t).map (·.type) ∨ d ∈ u.arguments t

/-- A type is a primitive, a class or a closed record type. -/
def IsProper (u : Universe) (t : TypeId) : Prop :=
  (∃ p, u.kind? t = some (.primitive p)) ∨ (∃ c, u.class? t = some c) ∨ u.IsClosed t

/-- What a layout with instances mentions is known and not open. -/
def ClosesOver (u : Universe) (l : Layout) : Prop :=
  l.shape.isTemplate = false →
    ∀ d, d ∈ l.properties.map (·.type) ∨ d ∈ l.shape.arguments → u.Knows d ∧ u.isOpen d = false

theorem lasts_closesOver : Lasts ClosesOver := by
  intro u v l hgrows hl hshape d hd
  obtain ⟨hknows, hopen⟩ := hl hshape d hd
  exact ⟨hgrows.knows hknows, by rw [hgrows.isOpen_eq hknows, hopen]⟩

theorem isProper_of_isOpen_eq_false (hknows : u.Knows t) (hopen : u.isOpen t = false) :
    u.IsProper t := by
  obtain ⟨e, he⟩ := Option.isSome_iff_exists.mp hknows
  have hkind : u.kind? t = some e.kind := by rw [kind?, he, Option.map_some]
  unfold isOpen isTemplate isParameter shape? layout? at hopen
  rw [hkind] at hopen
  cases hk : e.kind with
  | primitive p => exact .inl ⟨p, by rw [hkind, hk]⟩
  | nominal c => exact .inr (.inl ⟨c, class?_eq_some_iff.mpr (by rw [hkind, hk])⟩)
  | record l =>
    rw [hk] at hopen hkind
    exact .inr (.inr ⟨l, layout?_eq_some_iff.mpr hkind, by simpa using hopen⟩)
  | parameter i =>
    rw [hk] at hopen
    exact absurd hopen (by simp)

theorem arguments_of_layout? {l : Layout} (hl : u.layout? t = some l) :
    u.arguments t = l.shape.arguments := by
  unfold arguments shape?
  rw [hl, Option.map_some]
  cases l.shape <;> rfl

/-- Only record types mention anything. -/
theorem exists_layout?_of_mentions (hd : u.Mentions t d) : ∃ l, u.layout? t = some l := by
  rcases hl : u.layout? t with _ | l
  · unfold Mentions properties arguments shape? at hd
    rw [hl] at hd
    exact absurd hd (by simp)
  · exact ⟨l, rfl⟩

/-- What a type mentions is not open, if the type itself is not. -/
theorem EveryLayout.of_mentions (h : EveryLayout ClosesOver u) (hopen : u.isOpen t = false)
    (hd : u.Mentions t d) : u.Knows d ∧ u.isOpen d = false := by
  obtain ⟨l, hl⟩ := exists_layout?_of_mentions hd
  have hshape : l.shape.isTemplate = false := by
    unfold isOpen isTemplate shape? at hopen
    rw [hl] at hopen
    exact (Bool.or_eq_false_iff.mp hopen).1
  rw [Mentions, properties_of_layout? hl, arguments_of_layout? hl] at hd
  exact h t l hl hshape d hd

/-- However far one goes, nothing is open. -/
theorem EveryLayout.of_reaches (h : EveryLayout ClosesOver u) (hknows : u.Knows t)
    (hopen : u.isOpen t = false) (hd : Relation.ReflTransGen u.Mentions t d) :
    u.Knows d ∧ u.isOpen d = false := by
  induction hd with
  | refl => exact ⟨hknows, hopen⟩
  | tail _ hmentions ih => exact h.of_mentions ih.2 hmentions

/-! ### What the direct backend closes templates over -/

/-- The properties of a closed type are of the types that it is closed over. -/
theorem mem_arguments_of_mem_closedProperties {l : Layout} {parent : Option TypeId}
    {inherited : List InheritedMember} {isMutable : Bool} {shape : Shape}
    (hd : d ∈ (Layout.arrange (Direct.closedProperties l arguments) parent inherited isMutable
      shape).properties.map (·.type)) : d ∈ arguments := by
  rw [Layout.arrange, List.map_map] at hd
  obtain ⟨p, hp, rfl⟩ := List.mem_map.mp hd
  rw [List.mem_mergeSort, Direct.closedProperties] at hp
  obtain ⟨i, hi⟩ := List.mem_iff_getElem?.mp hp
  rw [List.getElem?_zipWith_eq_some] at hi
  obtain ⟨q, t, -, ht, rfl⟩ := hi
  exact List.mem_of_getElem? ht

theorem HasClosed.isClosed (ht : u.HasClosed t template arguments) : u.IsClosed t := by
  obtain ⟨l, -, -, hlayout⟩ := ht
  exact ⟨_, hlayout, rfl⟩

end Universe

open Universe (Grows EveryLayout ClosesOver lasts_closesOver)

namespace Foundry

variable {u : Universe}

theorem closesOver_castTemplate (hu : u.WellFormed) (h : EveryLayout ClosesOver u) (n : Naming)
    (names : List String) (isMutable : Bool) (parent : Option TypeId) (f : Foundry Unit) :
    EveryLayout ClosesOver (castTemplate directBackend n names isMutable parent f u).2.2 := by
  apply everyLayout_castTemplate hu h lasts_closesOver
  intro l hshape _ hclosed
  exact absurd (hclosed.symm.trans hshape) Bool.false_ne_true

/-- Only types that are not open pass the check, and these are what the new type mentions. -/
theorem closesOver_castClosed (hu : u.WellFormed) (h : EveryLayout ClosesOver u)
    (template : TypeId) {arguments : List TypeId} (f : Foundry Unit)
    (hknows : ∀ a ∈ arguments, u.Knows a) :
    EveryLayout ClosesOver (castClosed directBackend template arguments f u).2.2 := by
  apply everyLayout_castClosed hu h lasts_closesOver
  intro l _ hcheck _ d hd
  obtain ⟨-, -, hopen⟩ := (Universe.checkClosing_eq_ok_iff _ _).mp hcheck
  have hmem : d ∈ arguments := hd.elim Universe.mem_arguments_of_mem_closedProperties id
  exact ⟨hknows d hmem, hopen d hmem⟩

end Foundry

namespace Registry

/-! ### Calls -/

variable {r : Registry Unit} {u : Universe} {w : World} {c : Call}

/-- The types that a call hands over for properties. -/
def Call.typesHandedOver : Call → List TypeId
  | .recordType fields _ => fields.values
  | .close _ arguments => arguments
  | .castClosed _ arguments => arguments
  | _ => []

theorem closesOver_templateFor (hu : u.WellFormed) (h : EveryLayout ClosesOver u)
    (names : List String) (options : Options) :
    EveryLayout ClosesOver (templateFor directBackend r u names options).2.2 := by
  rw [templateFor_eq]
  exact Memo.resolve_state r.memo _
    (P := fun s : Foundry Unit × Universe => EveryLayout ClosesOver s.2) h
    fun _ => Foundry.closesOver_castTemplate hu h _ _ _ _ _

theorem closesOver_close (hu : u.WellFormed) (h : EveryLayout ClosesOver u) (template : Template)
    {arguments : List TypeId} (hknows : ∀ a ∈ arguments, u.Knows a) :
    EveryLayout ClosesOver (close directBackend r u template arguments).2.2 := by
  rw [close_eq]
  exact Memo.resolve_state r.memo _
    (P := fun s : Foundry Unit × Universe => EveryLayout ClosesOver s.2) h
    fun _ => Foundry.closesOver_castClosed hu h _ _ hknows

theorem Faithful.closesOver_recordType (hr : Faithful r u) (h : EveryLayout ClosesOver u)
    {fields : Fields TypeId} (options : Options) (hknows : ∀ t ∈ fields.values, u.Knows t) :
    EveryLayout ClosesOver (recordType directBackend r u fields options).2.2 := by
  have htemplate := closesOver_templateFor (r := r) hr.wellFormed h fields.names options
  obtain ⟨hr', hgrows⟩ := hr.templateFor fields.names options
  unfold recordType
  generalize Registry.templateFor directBackend r u fields.names options = out
    at htemplate hr' hgrows ⊢
  rcases out with ⟨e | template, r', u'⟩
  · exact htemplate
  · exact closesOver_close hr'.wellFormed htemplate template fun t ht => hgrows.knows (hknows t ht)

/-- A call that hands over what exists leads to closed types that are closed over types that are not
open. -/
theorem Faithful.closesOver_perform (hr : Faithful r w.types) (hw : w.Sound)
    (h : EveryLayout ClosesOver w.types) (hheld : c.ValuesExist w.heap)
    (hknows : ∀ t ∈ c.typesHandedOver, w.types.Knows t) :
    EveryLayout ClosesOver (perform directBackend r w c).2.2.types := by
  have hu := hr.wellFormed
  cases c with
  | recordType fields options => exact hr.closesOver_recordType h options hknows
  | template names options =>
    show EveryLayout ClosesOver (Registry.template directBackend r w.types names options).2.2
    unfold Registry.template
    rcases checkNames names with e | _
    · exact h
    · exact closesOver_templateFor hu h names options
  | close template arguments => exact closesOver_close hu h template hknows
  | object values type =>
    cases type with
    | none =>
      show EveryLayout ClosesOver (make directBackend r w values).2.2.types
      rw [(make_eq_recordType directBackend r w values).2]
      apply hr.closesOver_recordType h
      rw [Fields.values_map, List.forall_mem_map]
      exact fun v hv => (isOpen_slotType hw (hheld v hv)).1
    | some t =>
      show EveryLayout ClosesOver (object directBackend r w values (some t)).2.2.types
      rw [(object_some_eq directBackend r w values t).2]
      exact h
  | rename naming => exact h
  | castTemplate names isMutable parent => exact Foundry.closesOver_castTemplate hu h _ _ _ _ _
  | castClosed template arguments => exact Foundry.closesOver_castClosed hu h _ _ hknows

/-! ### Runs of a site -/

/-- What is handed over in an action exists. -/
def Action.HandsOver (w : World) : Action → Prop
  | .call _ c => c.ValuesExist w.heap ∧ ∀ t ∈ c.typesHandedOver, w.types.Knows t
  | .declareClass _ c => ∀ m ∈ c.members, w.heap.Holds m.initial
  | .newObject => True
  | .create _ arguments => ∀ v ∈ arguments, w.heap.Holds v
  | .write x => w.heap.Holds x.value

namespace Site

/-- A run of any number of registries over the direct backend, which begin as new ones, in which
nothing is handed over that does not exist.  Types come from these registries, and classes are
declared.  The history lists every action with its outcome, the newest first. -/
inductive Course : List (Action × Outcome) → Site → Prop
  | start (namings : Nat → Naming) : Course [] { registries := fun k => new (namings k) () }
  | act {history : List (Action × Outcome)} {s : Site} (a : Action) (h : Course history s)
      (ha : a.HandsOver s.world) : Course ((a, (s.act a).1) :: history) (s.act a).2

variable {history : List (Action × Outcome)} {s : Site} {t d : TypeId}

/-- The exchange with the `k`-th registry, if an action is a call of it. -/
def exchange? (k : Nat) : Action × Outcome → Option Exchange
  | (.call j c, .answer a) => if j = k then some ⟨c, a⟩ else none
  | _ => none

/-- What is done at a site comes down to steps of its world. -/
theorem steps_act {a : Action} (hs : ∀ k, Faithful (s.registries k) s.world.types)
    (ha : a.HandsOver s.world) : World.Steps s.world (s.act a).2.world := by
  cases a with
  | call k c => exact steps_perform (hs k).wellFormed (s.registries k) ha.1
  | declareClass name c =>
    unfold act
    dsimp only
    rcases hdeclared : s.world.declareClass name c with e | ⟨t, u⟩
    · exact .refl
    · exact .single (.declareClass ha hdeclared)
  | newObject => exact .single .newObject
  | create t arguments => exact .single (.create t ha)
  | write x => exact .single (.write ha)

end Site

/-- Every object that was made goes on existing. -/
theorem Session.holds_of_object {history : List Exchange} {values : Fields Value}
    {type : Option TypeId} {made : InstanceId} (h : Session history r w)
    (he : ⟨.object values type, .object (.ok made)⟩ ∈ history) : w.heap.Holds (.ref made) := by
  induction h with
  | start naming => exact absurd he (by simp)
  | @call history r w c h hheld ih =>
    rcases List.mem_cons.mp he with hnew | hold
    · obtain ⟨rfl, hanswer⟩ := Exchange.mk.inj hnew
      exact (World.makes_object directBackend r (Answer.object.inj hanswer).symm).new.2
    · exact (h.faithful.evolves_perform h.sound hheld).1.holds (ih hold)
  | step _ hw ih => exact hw.evolves.holds (ih he)

theorem Session.steps_on {history : List Exchange} {w w' : World} (h : Session history r w)
    (hw : World.Steps w w') : Session history r w' := by
  induction hw with
  | refl => exact h
  | tail _ hstep ih => exact ih.step hstep

namespace Site

variable {history : List (Action × Outcome)} {s : Site} {t d : TypeId}

/-- What is done at a site is a call of the `k`-th registry, or it is nothing that the registry
knows of. -/
theorem exchange?_cases (k : Nat) (a : Action) (s : Site) :
    (∃ c, a = .call k c ∧ exchange? k (a, (s.act a).1) =
        some ⟨c, (perform directBackend (s.registries k) s.world c).1⟩ ∧
      (s.act a).2.registries k = (perform directBackend (s.registries k) s.world c).2.1) ∨
    exchange? k (a, (s.act a).1) = none ∧ (s.act a).2.registries k = s.registries k := by
  cases a with
  | call j c =>
    unfold act
    dsimp only [exchange?]
    by_cases hj : j = k
    · subst hj
      exact .inl ⟨c, rfl, if_pos rfl, Function.update_self _ _ _⟩
    · exact .inr ⟨if_neg hj, Function.update_of_ne (Ne.symm hj) _ _⟩
  | declareClass name c =>
    refine .inr ⟨rfl, ?_⟩
    unfold act
    dsimp only
    split <;> rfl
  | newObject => exact .inr ⟨rfl, rfl⟩
  | create t arguments => exact .inr ⟨rfl, rfl⟩
  | write x => exact .inr ⟨rfl, rfl⟩

/-- For each registry the run of a site is a session: what the others do are steps of the world. -/
theorem Course.session (h : Course history s) (k : Nat) :
    Session (history.filterMap (exchange? k)) (s.registries k) s.world := by
  induction h generalizing k with
  | start namings => exact .start (namings k)
  | @act history s a _ ha ih =>
    rcases exchange?_cases k a s with ⟨c, rfl, hexchange, hregistry⟩ | ⟨hexchange, hregistry⟩
    · rw [List.filterMap_cons_some hexchange, hregistry]
      exact (ih k).call c ha.1
    · rw [List.filterMap_cons_none hexchange, hregistry]
      exact (ih k).steps_on (steps_act (fun j => (ih j).faithful) ha)

theorem Course.closesOver (h : Course history s) : EveryLayout ClosesOver s.world.types := by
  induction h with
  | start namings => exact Universe.everyLayout_empty
  | @act history s a h ha ih =>
    cases a with
    | call k c =>
      exact (h.session k).faithful.closesOver_perform (h.session k).sound ih ha.1 ha.2
    | declareClass name c =>
      unfold Site.act
      dsimp only
      rcases hdeclared : s.world.declareClass name c with e | ⟨t, u⟩
      · exact ih
      · obtain ⟨rfl, hbase, -⟩ := World.declareClass_cases hdeclared
        exact ih.add lasts_closesOver hbase nofun
    | newObject => exact ih
    | create t arguments => exact ih
    | write x => exact ih

/-! ### Types that are handed out -/

/-- A type is handed out by a registry: a record type that was asked for, a template closed over
types, or the type of an object. -/
inductive HandedOut (history : List (Action × Outcome)) (s : Site) : TypeId → Prop
  | recordType {k : Nat} {fields : Fields TypeId} {options : Options} {t : TypeId}
      (he : (.call k (.recordType fields options), .answer (.type (.ok t))) ∈ history) :
      HandedOut history s t
  | close {k : Nat} {template : Template} {arguments : List TypeId} {t : TypeId}
      (he : (.call k (.close template arguments), .answer (.type (.ok t))) ∈ history) :
      HandedOut history s t
  | object {k : Nat} {values : Fields Value} {type : Option TypeId} {made : InstanceId}
      (he : (.call k (.object values type), .answer (.object (.ok made))) ∈ history) :
      HandedOut history s (s.world.heap.cell made).type

theorem mem_exchanges {k : Nat} {c : Call} {a : Answer} (he : (.call k c, .answer a) ∈ history) :
    ⟨c, a⟩ ∈ history.filterMap (exchange? k) :=
  List.mem_filterMap.mpr ⟨_, he, if_pos rfl⟩

theorem Course.isClosed_of_handedOut (h : Course history s) (ht : HandedOut history s t) :
    s.world.types.IsClosed t := by
  cases ht with
  | @recordType k _ _ _ he =>
    have hsession := h.session k
    obtain ⟨template, -, hstored⟩ := hsession.run.remembers.2 _ (mem_exchanges he)
    exact (hsession.faithful.closed _ _ _ hstored).isClosed
  | @close k _ _ _ he =>
    have hsession := h.session k
    exact (hsession.faithful.closed _ _ _ (hsession.run.remembers.2 _ (mem_exchanges he))).isClosed
  | @object k _ _ _ he =>
    have hsession := h.session k
    exact hsession.sound.closed _ (hsession.holds_of_object (mem_exchanges he))

/-- Every type that is handed out is closed.  However far one goes from it, by the types of
properties and by what types are closed over, every type met is a primitive, a class or a closed
record type, and neither a template nor a type parameter. -/
theorem Course.proper_of_mentions (h : Course history s) (ht : HandedOut history s t) :
    s.world.types.IsClosed t ∧
    ∀ d, Relation.ReflTransGen s.world.types.Mentions t d →
      s.world.types.IsProper d ∧ s.world.types.isOpen d = false := by
  have hclosed := h.isClosed_of_handedOut ht
  refine ⟨hclosed, fun d hd => ?_⟩
  obtain ⟨hknows, hopen⟩ := h.closesOver.of_reaches hclosed.knows hclosed.isOpen_eq_false hd
  exact ⟨Universe.isProper_of_isOpen_eq_false hknows hopen, hopen⟩

/-- Two registries make an object each, the second one of the first: from the type of the second
object one goes by the type of the first to a primitive. -/
theorem Course.proper_of_mentions_nested :
    ∃ history s, Course history s ∧ (s.world.heap.cell ⟨1⟩).type = .declared 5 ∧
      HandedOut history s (.declared 5) ∧
      Relation.ReflTransGen s.world.types.Mentions (.declared 5) (.builtin .int32) ∧
      s.world.types.IsClosed (.declared 5) ∧ s.world.types.IsProper (.declared 2) ∧
      s.world.types.isOpen (.builtin .int32) = false := by
  let inner : Call := .object ⟨[("a", .scalar (.int32 1))], List.nodup_singleton _⟩ none
  let outer : Call := .object ⟨[("b", .ref ⟨0⟩)], List.nodup_singleton _⟩ none
  have hinner : (Action.call 0 inner).HandsOver {} := by
    simp [Action.HandsOver, inner, Call.ValuesExist, Call.typesHandedOver, Fields.values,
      Heap.Holds]
  have hcourse := (Course.start fun _ => .standard).act (.call 0 inner) hinner
  generalize hfirst : Site.act { registries := fun _ => new .standard () } (.call 0 inner) = first
    at hcourse
  have hsize : 0 < first.2.world.heap.cells.size := hfirst ▸ by decide +kernel
  have houter : (Action.call 1 outer).HandsOver first.2.world := by
    simpa [Action.HandsOver, outer, Call.ValuesExist, Call.typesHandedOver, Fields.values,
      Heap.Holds] using hsize
  have hcourse' := hcourse.act (.call 1 outer) houter
  generalize hsecond : Site.act first.2 (.call 1 outer) = second at hcourse'
  have hanswer : second.1 = .answer (.object (.ok ⟨1⟩)) := hsecond ▸ hfirst ▸ by decide +kernel
  have htype : (second.2.world.heap.cell ⟨1⟩).type = .declared 5 :=
    hsecond ▸ hfirst ▸ by decide +kernel
  have hproperties : (second.2.world.types.properties (.declared 5)).map (·.type) =
        [.declared 2] ∧
      (second.2.world.types.properties (.declared 2)).map (·.type) = [.builtin .int32] :=
    hsecond ▸ hfirst ▸ by decide +kernel
  generalize second.2 = s at hcourse' htype hproperties
  rw [hanswer] at hcourse'
  have hout : HandedOut [(.call 1 outer, .answer (.object (.ok ⟨1⟩))), (.call 0 inner, first.1)] s
      (s.world.heap.cell ⟨1⟩).type := .object (.head _)
  rw [htype] at hout
  obtain ⟨hclosed, hproper⟩ := proper_of_mentions hcourse' hout
  have hmentions : s.world.types.Mentions (.declared 5) (.declared 2) :=
    .inl (by rw [hproperties.1]; exact List.mem_singleton_self _)
  have hmentions' : s.world.types.Mentions (.declared 2) (.builtin .int32) :=
    .inl (by rw [hproperties.2]; exact List.mem_singleton_self _)
  have hreaches := Relation.ReflTransGen.tail (.single hmentions) hmentions'
  exact ⟨_, s, hcourse', htype, hout, hreaches, hclosed, (hproper _ (.single hmentions)).1,
    (hproper _ hreaches).2⟩

end Site

end Registry

end RecordTypes
