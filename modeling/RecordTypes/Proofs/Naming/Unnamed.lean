import RecordTypes.World.Access
import RecordTypes.Proofs.Naming.Alike

/-!
# Results but for names

`unnamed` takes the names of types out of a result: what is left of a fault is its kind, the names
of properties and the numbers in it.  In universes that are alike, every check, every casting and
every request for an instance has the same result but for names.
-/

namespace RecordTypes

/-! ### Faults -/

/-- What makes no sense, without the names of types. -/
def Misuse.unnamed : Misuse → Misuse
  | baseNotClass name _ => baseNotClass name ""
  | sealedParent _ => sealedParent ""
  | parentNeedsArguments _ => parentNeedsArguments ""
  | recordParent _ => recordParent ""
  | parameterParent _ => parameterParent ""
  | repeatedProperty name => repeatedProperty name
  | notTemplate _ => notTemplate ""
  | openArgument _ _ => openArgument "" ""
  | notClosed _ => notClosed ""
  | notRecord _ => notRecord ""
  | unboundTemplate _ => unboundTemplate ""
  | notAncestor _ _ => notAncestor "" ""
  | other reason => other reason

/-- A fault without the names of types and without the wording of the backend. -/
def Fault.unnamed : Fault → Fault
  | misuse cause => misuse cause.unnamed
  | keyCollision key => keyCollision key
  | backend _ => backend ""
  | unknownProperty _ name => unknownProperty "" name
  | readOnly _ name => readOnly "" name
  | unfit name _ _ => unfit name "" ""
  | argumentCount _ expected actual => argumentCount "" expected actual
  | missingArgument name => missingArgument name
  | noSlot position slots => noSlot position slots

/-- A result, where a fault goes without the names of types. -/
def unnamed {α : Type} (result : Except Fault α) : Except Fault α := result.mapError Fault.unnamed

section Results

variable {α β : Type} {x x' : Except Fault α} {f f' : α → Except Fault β}

/-- Results that are the same but for names are one value, or two faults. -/
theorem cases_of_unnamed_eq (h : unnamed x' = unnamed x) :
    (∃ a, x = .ok a ∧ x' = .ok a) ∨
    ∃ e e', x = .error e ∧ x' = .error e' ∧ e'.unnamed = e.unnamed := by
  rcases x with e | a <;> rcases x' with e' | a'
  · exact .inr ⟨e, e', rfl, rfl, Except.error.inj h⟩
  · exact absurd h nofun
  · exact absurd h nofun
  · exact .inl ⟨a, rfl, congrArg Except.ok (Except.ok.inj h)⟩

/-- Faults that are the same but for names are the same as results. -/
theorem unnamed_error {e e' : Fault} (h : e'.unnamed = e.unnamed) :
    unnamed (.error e' : Except Fault α) = unnamed (.error e) := congrArg Except.error h

/-- One step after another is the same but for names if each of the two is. -/
theorem unnamed_bind (hx : unnamed x' = unnamed x) (hf : ∀ a, unnamed (f' a) = unnamed (f a)) :
    unnamed (x' >>= f') = unnamed (x >>= f) := by
  rcases cases_of_unnamed_eq hx with ⟨a, rfl, rfl⟩ | ⟨e, e', rfl, rfl, he⟩
  · exact hf a
  · exact unnamed_error he

end Results

/-! ### Requests for types -/

namespace Universe.Alike

variable {u u' : Universe} (h : Alike u u')
include h

/-- A type is refused as a parent in both universes, for the same reason, or in neither. -/
theorem checkParent (p : TypeId) : unnamed (u'.checkParent p) = unnamed (u.checkParent p) := by
  unfold Universe.checkParent
  rw [h.kind?_eq]
  dsimp only
  split
  · rfl
  · split
    · rfl
    · split <;> rfl
  all_goals rfl

/-- The definition of a template is refused in both universes, for the same reason, or in neither.
-/
theorem checkDefinition (parent : Option TypeId) (names : List String) :
    unnamed (u'.checkDefinition parent names) = unnamed (u.checkDefinition parent names) := by
  have hparent : unnamed (u'.checkParent? parent) = unnamed (u.checkParent? parent) := by
    cases parent with
    | none => rfl
    | some p => exact h.checkParent p
  exact unnamed_bind hparent fun _ => rfl

theorem checkTemplate (t : TypeId) :
    unnamed (u'.checkTemplate t) = unnamed (u.checkTemplate t) := by
  unfold Universe.checkTemplate
  rw [h.isTemplate_eq]
  split <;> rfl

theorem checkArguments (template : TypeId) (arguments : List TypeId) :
    unnamed (u'.checkArguments template arguments) =
      unnamed (u.checkArguments template arguments) := by
  unfold Universe.checkArguments
  rw [h.properties_eq, h.isOpen_eq]
  dsimp only
  split
  · rfl
  · split <;> rfl

/-- To close a template over arguments is refused in both universes, for the same reason, or in
neither. -/
theorem checkClosing (t : TypeId) (arguments : List TypeId) :
    unnamed (u'.checkClosing t arguments) = unnamed (u.checkClosing t arguments) :=
  unnamed_bind (h.checkTemplate t) fun _ => h.checkArguments t arguments

/-- Castings that are alike add types with the same identities, or none. -/
theorem cast {c c' : Casting} (hc : c.Alike c') :
    unnamed (u'.cast c').1 = unnamed (u.cast c).1 ∧ Alike (u.cast c).2 (u'.cast c').2 := by
  obtain ⟨ds, outcome⟩ := c
  obtain ⟨ds', outcome'⟩ := c'
  obtain ⟨hds, houtcome⟩ := hc
  have haux : Alike (u.addAll ds) (u'.addAll ds') := h.addAll hds
  rcases outcome with reason | d <;> rcases outcome' with reason' | d'
  · exact ⟨rfl, haux⟩
  · exact absurd houtcome nofun
  · exact absurd houtcome nofun
  · exact ⟨congrArg Except.ok haux.next_eq, haux.add (Option.some.inj houtcome)⟩

end Universe.Alike

/-! ### Requests for instances -/

namespace World

/-- Two worlds have the same instances, and types that are the same but for names. -/
structure Alike (w w' : World) : Prop where
  types : w.types.Alike w'.types
  heap : w'.heap = w.heap

/-- What two requests come to is the same but for names, and they leave one heap. -/
structure Agree {α : Type} (out out' : Except Fault α × Heap) : Prop where
  result : unnamed out'.1 = unnamed out.1
  heap : out'.2 = out.2

namespace Alike

variable {w w' : World} (h : Alike w w')
include h

/-- The same values fit the same types. -/
theorem fits_eq (t : TypeId) (v : Value) : w'.fits t v = w.fits t v := by
  rw [fits, fits, h.heap, h.types.admits_eq]

theorem checkFits (name : String) (t : TypeId) (v : Value) :
    unnamed (w'.checkFits name t v) = unnamed (w.checkFits name t v) := by
  unfold World.checkFits
  rw [h.fits_eq]
  split <;> rfl

/-- The same arguments fit the same parameters, and the first one that does not is the same. -/
theorem checkArguments (ps : List Parameter) (vs : List Value) :
    unnamed (w'.checkArguments ps vs) = unnamed (w.checkArguments ps vs) := by
  induction ps generalizing vs with
  | nil => rfl
  | cons p ps ih =>
    cases vs with
    | nil => rfl
    | cons v vs => exact unnamed_bind (h.checkFits p.name p.type v) fun _ => ih vs

theorem checkMembers (owner : String) (ms : List Member) :
    unnamed (w'.checkMembers owner ms) = unnamed (w.checkMembers owner ms) := by
  induction ms with
  | nil => rfl
  | cons m ms ih => exact unnamed_bind (h.checkFits _ m.type m.initial) fun _ => ih

theorem checkBase (name : String) (base : Option TypeId) :
    unnamed (w'.checkBase name base) = unnamed (w.checkBase name base) := by
  cases base with
  | none => rfl
  | some b =>
    unfold World.checkBase
    dsimp only
    rw [h.types.class?_eq]
    split <;> rfl

/-- A class is declared in both worlds, and gets the same identity, or in neither. -/
theorem declareClass (name : String) (c : ClassInfo) :
    (∃ t u u', w.declareClass name c = .ok (t, u) ∧ w'.declareClass name c = .ok (t, u') ∧
      u.Alike u') ∨
    ∃ e e', w.declareClass name c = .error e ∧ w'.declareClass name c = .error e' ∧
      e'.unnamed = e.unnamed := by
  unfold World.declareClass
  rcases cases_of_unnamed_eq (h.checkBase name c.base) with
    ⟨_, hbase, hbase'⟩ | ⟨e, e', hbase, hbase', he⟩
  · rw [hbase, hbase']
    rcases cases_of_unnamed_eq (h.checkMembers name c.members) with
      ⟨_, hmembers, hmembers'⟩ | ⟨e, e', hmembers, hmembers', he⟩
    · rw [hmembers, hmembers']
      refine .inl ⟨w.types.next, _, _, rfl, ?_, h.types.add rfl⟩
      rw [← h.types.next_eq]
      rfl
    · rw [hmembers, hmembers']
      exact .inr ⟨e, e', rfl, rfl, he⟩
  · rw [hbase, hbase']
    exact .inr ⟨e, e', rfl, rfl, he⟩

/-- An instance is made in both worlds, of the same identity, or refused in both for the same
reason. -/
theorem create (t : TypeId) (arguments : List Value) :
    Agree (w.create t arguments) (w'.create t arguments) := by
  unfold World.create
  rw [h.types.layout?_eq, h.heap]
  rcases w.types.layout? t with _ | l
  · exact ⟨rfl, rfl⟩
  · dsimp only
    split
    · exact ⟨rfl, rfl⟩
    · split
      · exact ⟨rfl, rfl⟩
      · rcases cases_of_unnamed_eq (h.checkArguments l.constructor arguments) with
          ⟨_, hcheck, hcheck'⟩ | ⟨e, e', hcheck, hcheck', he⟩
        · rw [hcheck, hcheck']
          exact ⟨rfl, rfl⟩
        · rw [hcheck, hcheck']
          exact ⟨unnamed_error he, rfl⟩

/-- As for an instance made of values in order, with values that are named. -/
theorem createNamed (t : TypeId) (values : Fields Value) :
    Agree (w.createNamed t values) (w'.createNamed t values) := by
  unfold World.createNamed
  rw [h.types.layout?_eq, h.heap]
  rcases w.types.layout? t with _ | l
  · exact ⟨rfl, rfl⟩
  · dsimp only
    split
    · exact ⟨rfl, rfl⟩
    · split
      · exact ⟨rfl, rfl⟩
      · rcases argumentsFor values l.constructor with e | arguments
        · exact ⟨rfl, rfl⟩
        · exact h.create t arguments

/-! ### Slots -/

theorem layoutOf?_eq (r : InstanceId) : w'.layoutOf? r = w.layoutOf? r := by
  rw [layoutOf?, layoutOf?, h.heap, h.types.layout?_eq]

theorem inheritedOf_eq (r : InstanceId) : w'.inheritedOf r = w.inheritedOf r := by
  rw [inheritedOf, inheritedOf, h.layoutOf?_eq]

/-- A name is that of the same inherited slot in both worlds, through any view. -/
theorem inheritedIdx?_eq (r : InstanceId) (ancestor : Option TypeId) (name : String) :
    w'.inheritedIdx? r ancestor name = w.inheritedIdx? r ancestor name := by
  have hvisible : w'.isVisible ancestor = w.isVisible ancestor := by
    funext m
    cases ancestor with
    | none => rfl
    | some a =>
      rw [isVisible, isVisible, h.types.derives_eq]
  rw [inheritedIdx?, inheritedIdx?, h.inheritedOf_eq, hvisible]

/-- A write to an inherited slot does the same in both worlds. -/
theorem writeInherited (r : InstanceId) (i : Nat) (name : String) (v : Value) :
    Agree (w.writeInherited r i name v) (w'.writeInherited r i name v) := by
  unfold World.writeInherited
  rw [h.inheritedOf_eq, h.heap]
  rcases (w.inheritedOf r)[i]? with _ | m
  · exact ⟨rfl, rfl⟩
  · dsimp only
    split
    · exact ⟨rfl, rfl⟩
    · rcases cases_of_unnamed_eq (h.checkFits name m.member.type v) with
        ⟨_, hcheck, hcheck'⟩ | ⟨e, e', hcheck, hcheck', he⟩
      · rw [hcheck, hcheck']
        exact ⟨rfl, rfl⟩
      · rw [hcheck, hcheck']
        exact ⟨unnamed_error he, rfl⟩

/-- A write to a slot of a property does the same in both worlds. -/
theorem writeOwn (r : InstanceId) (p : Property) (name : String) (v : Value) :
    Agree (w.writeOwn r p name v) (w'.writeOwn r p name v) := by
  unfold World.writeOwn
  rw [h.heap]
  split
  · exact ⟨rfl, rfl⟩
  · rcases cases_of_unnamed_eq (h.checkFits name p.type v) with
      ⟨_, hcheck, hcheck'⟩ | ⟨e, e', hcheck, hcheck', he⟩
    · rw [hcheck, hcheck']
      exact ⟨rfl, rfl⟩
    · rw [hcheck, hcheck']
      exact ⟨unnamed_error he, rfl⟩

/-- A write by name does the same in both worlds. -/
theorem write (r : InstanceId) (name : String) (v : Value) :
    Agree (w.write r name v) (w'.write r name v) := by
  unfold World.write
  rw [h.layoutOf?_eq, h.heap, h.inheritedIdx?_eq]
  rcases (w.layoutOf? r).bind (·.property? name) with _ | p
  · rcases w.inheritedIdx? r none name with _ | i
    · exact ⟨rfl, rfl⟩
    · exact h.writeInherited r i name v
  · exact h.writeOwn r p name v

/-- A write through a view does the same in both worlds. -/
theorem writeVia (view : View) (name : String) (v : Value) :
    Agree (w.writeVia view name v) (w'.writeVia view name v) := by
  unfold World.writeVia
  rw [h.inheritedIdx?_eq, h.heap]
  rcases w.inheritedIdx? view.target view.ancestor name with _ | i
  · exact ⟨rfl, rfl⟩
  · exact h.writeInherited view.target i name v

/-- The text of a value has names of properties in it, and no names of types. -/
theorem text?_eq (v : Value) : w'.text? v = w.text? v := by
  have hnames : (fun t => (w'.types.properties t).map (·.name)) =
      fun t => (w.types.properties t).map (·.name) := by
    funext t
    rw [h.types.properties_eq]
  rw [text?, text?, h.heap, hnames]

end Alike

end World

end RecordTypes
