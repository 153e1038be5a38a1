import RecordTypes.Signature
import RecordTypes.Proofs.Text.Delimited

/-!
# Keys determine signatures

Two signatures have one key only if they are the same (`key_injective`), whatever characters their
names hold.  A key is its first part followed by the others with a bar before each, and every part
shows where it ends: a flag and a label by their length, a number at the bar behind it, and a name
by the length in bytes written before it (`delimited_namePart`).  The part that counts the names or
the arguments says how many parts are left, so the lists are read back one by one.
-/

namespace RecordTypes.Signature

open Text

/-! ### The parts -/

theorem delimited_labelled (label : String) : Delimited (labelled label) := by
  intro m n s t hs ht h
  rw [labelled, labelled, String.append_assoc, String.append_assoc] at h
  exact toString_append_inj hs ht ((String.append_right_inj _).mp h)

theorem delimited_labelled_number (label : String) :
    Delimited fun t : TypeId => labelled label t.number := by
  intro a b s t hs ht h
  obtain ⟨hnumber, hrest⟩ := delimited_labelled label hs ht h
  exact ⟨TypeId.number_injective hnumber, hrest⟩

theorem delimited_flag : Delimited fun b : Bool => if b then "m1" else "m0" := by
  intro a b s t _ _ h
  obtain ⟨hflag, hrest⟩ :=
    append_inj_of_utf8ByteSize (by cases a <;> cases b <;> rfl) h
  refine ⟨?_, hrest⟩
  revert hflag
  cases a <;> cases b <;> decide

theorem delimited_parentPart : Delimited parentPart := by
  have split : ∀ (t : TypeId) (s : String),
      parentPart (some t) ++ s = "p" ++ (toString t.number ++ s) := fun t s => by
    rw [parentPart, labelled, String.append_assoc]
  have dash : ∀ s : String, parentPart none ++ s = "p" ++ ("-" ++ s) := fun s => by
    rw [← String.append_assoc]; rfl
  intro a b s t hs ht h
  -- A part with a number and a part with the dash differ in the character after the label.
  cases a with
  | none =>
    cases b with
    | none => exact ⟨rfl, (String.append_right_inj _).mp h⟩
    | some b =>
      rw [dash, split] at h
      exact absurd ((String.append_right_inj _).mp h).symm (toString_append_ne_dash _ _ _)
  | some a =>
    cases b with
    | none =>
      rw [dash, split] at h
      exact absurd ((String.append_right_inj _).mp h) (toString_append_ne_dash _ _ _)
    | some b =>
      obtain ⟨rfl, hrest⟩ := delimited_labelled_number "p" hs ht h
      exact ⟨rfl, hrest⟩

/-- A name may hold bars, colons and digits: its length is read first, and then that many bytes. -/
theorem delimited_namePart : Delimited namePart := by
  have split : ∀ name s : String,
      namePart name ++ s = toString name.utf8ByteSize ++ (":" ++ (name ++ s)) := fun name s => by
    rw [namePart, String.append_assoc, String.append_assoc]
  intro a b s t _ _ h
  rw [split, split] at h
  obtain ⟨hsize, htail⟩ := delimited_nat.mark_inj (by decide) (by decide) h
  exact append_inj_of_utf8ByteSize hsize htail

/-! ### The key -/

/-- The key of a template, part by part. -/
theorem key_template (names : List String) (isMutable : Bool) (parent : Option TypeId) :
    (template names isMutable parent).key = "T" ++ barred ((if isMutable then "m1" else "m0") ::
      parentPart parent :: labelled "n" names.length :: names.map namePart) :=
  intercalate_cons_eq_append_barred _ _

/-- The key of a closed type, part by part. -/
theorem key_closed (definition : TypeId) (arguments : List TypeId) :
    (closed definition arguments).key = "I" ++ barred (labelled "t" definition.number ::
      labelled "n" arguments.length :: arguments.map fun t => labelled "#" t.number) :=
  intercalate_cons_eq_append_barred _ _

theorem key_template_ne_key_closed (names : List String) (isMutable : Bool)
    (parent : Option TypeId) (definition : TypeId) (arguments : List TypeId) :
    (template names isMutable parent).key ≠ (closed definition arguments).key := by
  intro h
  rw [key_template, key_closed] at h
  -- The first parts are one byte long and differ.
  exact absurd (append_inj_of_utf8ByteSize (by rfl) h).1 (by decide)

/-- Templates with one key have the same names, mutability and parent. -/
theorem template_eq_of_key_eq {names names' : List String} {isMutable isMutable' : Bool}
    {parent parent' : Option TypeId}
    (h : (template names isMutable parent).key = (template names' isMutable' parent').key) :
    template names isMutable parent = template names' isMutable' parent' := by
  rw [key_template, key_template] at h
  obtain ⟨rfl, hparent⟩ := delimited_flag.barred_cons_inj ((String.append_right_inj _).mp h)
  obtain ⟨rfl, hcount⟩ := delimited_parentPart.barred_cons_inj hparent
  -- Only now is it known that there are as many names on both sides.
  obtain ⟨hlength, hnames⟩ := (delimited_labelled "n").barred_cons_inj hcount
  rw [delimited_namePart.barred_map_inj hlength hnames]

/-- Closed types with one key are closed over the same types and have the same template. -/
theorem closed_eq_of_key_eq {definition definition' : TypeId} {arguments arguments' : List TypeId}
    (h : (closed definition arguments).key = (closed definition' arguments').key) :
    closed definition arguments = closed definition' arguments' := by
  rw [key_closed, key_closed] at h
  obtain ⟨rfl, hcount⟩ :=
    (delimited_labelled_number "t").barred_cons_inj ((String.append_right_inj _).mp h)
  obtain ⟨hlength, harguments⟩ := (delimited_labelled "n").barred_cons_inj hcount
  rw [(delimited_labelled_number "#").barred_map_inj hlength harguments]

/-- Signatures with one key are the same. -/
theorem key_injective {s t : Signature} (h : s.key = t.key) : s = t := by
  cases s with
  | template names isMutable parent =>
    cases t with
    | template names' isMutable' parent' => exact template_eq_of_key_eq h
    | closed definition arguments => exact absurd h (key_template_ne_key_closed _ _ _ _ _)
  | closed definition arguments =>
    cases t with
    | template names isMutable parent => exact absurd h.symm (key_template_ne_key_closed _ _ _ _ _)
    | closed definition' arguments' => exact closed_eq_of_key_eq h

/-- Keys collide for no two signatures, and equal signatures have equal keys. -/
theorem key_eq_key_iff (s t : Signature) : s.key = t.key ↔ s = t :=
  ⟨key_injective, fun h => h ▸ rfl⟩

end RecordTypes.Signature
