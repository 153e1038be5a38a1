import RecordTypes.Proofs.Fields.Lookup
import RecordTypes.Proofs.Registry.Direct

/-!
# The structure of record types

A record type that a registry hands out shows the fields it was asked for and nothing else: its
properties and the parameters of its constructor are the fields in order, it is closed over their
types, and it inherits what the parent and its bases declare (`Run.isRecordOf`).  Nothing is said of
when the type was made.  It may come from the memo, where an earlier call left it; what the memo
stores is what its signature says (`Run.faithful`), so the call is answered by a type that was made
for the same fields.
-/

namespace RecordTypes

/-- A type is the record type of fields that were asked for with options, and inherits members. -/
structure Universe.IsRecordOf (u : Universe) (t : TypeId) (fields : Fields TypeId)
    (options : Options) (inherited : List InheritedMember) : Prop where
  /-- One property per field, in the order of the fields. -/
  properties : u.properties t = fields.entries.mapIdx fun i field =>
    { name := field.1
      type := field.2
      position := i
      canWrite := options.isMutable
      hidesInherited := decide (∃ m ∈ inherited, m.member.name = field.1) }
  /-- One constructor, with a parameter per field. -/
  constructors : u.constructors t = [fields.entries.mapIdx fun i field => ⟨field.1, field.2, i⟩]
  arguments : u.arguments t = fields.values
  base : u.base? t = some ((properParent options.parent).getD .object)
  layout : (u.layout? t).map (·.inherited) = some inherited
  /-- The members come from the parent and its bases. -/
  inherits : ∀ p, properParent options.parent = some p → u.Inherits p inherited
  /-- Nothing is inherited from `Object`. -/
  object : properParent options.parent = none → inherited = []

namespace Universe

variable {u : Universe} {t template : TypeId} {fields : Fields TypeId} {options : Options}

theorem any_name_eq (inherited : List InheritedMember) (name : String) :
    (inherited.any fun m => m.member.name = name) =
      decide (∃ m ∈ inherited, m.member.name = name) := by
  rw [Bool.eq_iff_iff, List.any_eq_true, decide_eq_true_iff]
  simp only [decide_eq_true_eq]

/-- A template for the names of fields, closed over their types, is the record type of the
fields. -/
theorem HasTemplate.isRecordOf_closed (hu : u.WellFormed)
    (htemplate : u.HasTemplate template fields.names options.isMutable
      (properParent options.parent))
    (ht : u.HasClosed t template fields.values) :
    u.IsRecordOf t fields options (u.membersOver (properParent options.parent)) := by
  have hlayout := (htemplate.layout?_closed ht).2
  rw [Fields.zip_names_values] at hlayout
  have hkind := layout?_eq_some_iff.mp hlayout
  have hproperties : u.properties t = (Layout.ofFields fields.entries (properParent options.parent)
      (u.membersOver (properParent options.parent)) options.isMutable
      (.closed template fields.values)).properties := properties_of_layout? hlayout
  have hconstructors : u.constructors t = [Parameter.numbered fields.entries] := by
    rw [constructors, hkind]
    exact congrArg (fun ps => [ps]) (Layout.constructor_ofFields _ _ _ _ _)
  have harguments : u.arguments t = fields.values := by
    rw [arguments, ht.shape?_eq]
  have hbase : u.base? t = some ((properParent options.parent).getD .object) := by
    rw [base?, hkind]
    rfl
  have hinherits : ∀ p, properParent options.parent = some p →
      u.Inherits p (u.membersOver (properParent options.parent)) := by
    intro p hp
    rw [hp]
    exact hu.inherits_members (htemplate.1 p hp)
  have hobject : properParent options.parent = none →
      u.membersOver (properParent options.parent) = [] := by
    intro hp
    rw [hp]
    rfl
  refine ⟨?_, hconstructors, harguments, hbase, by rw [hlayout]; rfl, hinherits, hobject⟩
  rw [hproperties, Layout.ofFields]
  simp only [any_name_eq]

end Universe

namespace Registry

/-- Whatever was called before, a record type that is handed out is the record type of the fields
that were asked for. -/
theorem Run.isRecordOf {history : List Exchange} {r r' : Registry Unit} {w : World}
    {u' : Universe} (h : Run TypesGrow directBackend history r w) {fields : Fields TypeId}
    {options : Options} {t : TypeId}
    (ht : recordType directBackend r w.types fields options = (.ok t, r', u')) :
    ∃ inherited, u'.IsRecordOf t fields options inherited := by
  have hstored := storedIn_recordType (b := directBackend) (u := w.types) h.faithful.sound fields
    options
  have hfaithful := (kept_faithful w.types).recordType ⟨h.faithful, .refl⟩ fields options
  rw [ht] at hstored hfaithful
  -- The memo after the call stores both types, whether this call or an earlier one made them.
  obtain ⟨template, htemplate, hclosed⟩ := hstored
  obtain ⟨hr, -⟩ := hfaithful
  exact ⟨_, (hr.template _ _ _ _ htemplate).isRecordOf_closed hr.wellFormed
    (hr.closed _ _ _ hclosed)⟩

/-- A record type over a class, with a property that hides the member of the class. -/
theorem Run.isRecordOf_over_class :
    let base : ClassInfo := { members := [⟨"id", .builtin .int32, .scalar (.int32 0), true⟩] }
    let fields : Fields TypeId := ⟨[("id", .builtin .string)], by decide⟩
    let options : Options := { isMutable := true, parent := some (.declared 0) }
    ∃ history r w r' u', Run TypesGrow directBackend history r w ∧
      ({} : World).declareClass "Base" base = .ok (.declared 0, w.types) ∧
      recordType directBackend r w.types fields options = (.ok (.declared 3), r', u') ∧
      ∃ inherited, u'.IsRecordOf (.declared 3) fields options inherited := by
  intro base fields options
  let u : Universe := Universe.add {} ⟨"Base", .nominal base⟩
  have hdeclared : ({} : World).declareClass "Base" base = .ok (.declared 0, u) := rfl
  have h : Run TypesGrow directBackend [] (new .standard ()) { types := u } :=
    (Run.start .standard ()).elsewhere (typesGrow_declareClass hdeclared)
  have hanswer : (recordType directBackend (new .standard ()) u fields options).1 =
      .ok (.declared 3) := by decide +kernel
  obtain ⟨⟨result, r', u'⟩, hout⟩ :
      ∃ out, recordType directBackend (new .standard ()) u fields options = out := ⟨_, rfl⟩
  rw [hout] at hanswer
  obtain rfl : result = .ok (.declared 3) := hanswer
  exact ⟨[], new .standard (), { types := u }, r', u', h, hdeclared, hout, Run.isRecordOf h hout⟩

end Registry

end RecordTypes
