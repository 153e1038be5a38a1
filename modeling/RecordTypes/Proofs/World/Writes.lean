import RecordTypes.Proofs.Heap.Agreement
import RecordTypes.Proofs.World.Steps
import RecordTypes.Proofs.World.Text

/-!
# What a write can change

A write is meant for a property of an instance, which has an own slot, or for an inherited member,
directly or through a view.  One that is refused, or goes to an inherited member, changes nothing
that equality, hash codes and texts are made of.  One that goes to a property changes these only for
the values that reach the instance through own slots (`Write.confined`).

An instance that reaches nothing but instances without properties that may be written keeps its hash
code and its text for good.
-/

namespace RecordTypes.World

open Heap (AgreeOn)

variable {w w' : World} {v : Value}

/-! ### Texts in worlds that agree -/

theorem text?_eq_of_agreeOn (hv : AgreeOn w.heap w'.heap v)
    (hproperties : ∀ r, w.heap.Reaches v (.ref r) →
      w'.types.properties (w.heap.cell r).type = w.types.properties (w.heap.cell r).type) :
    w'.text? v = w.text? v := by
  by_cases hacyclic : w.heap.Acyclic v
  · induction v, hacyclic using Heap.Acyclic.induction with
    | scalar s => rw [text?_scalar, text?_scalar]
    | ref r _ ih =>
      obtain ⟨htype, hown⟩ := hv r .refl
      have hslots : (w.heap.cell r).own.mapM w'.text? = (w.heap.cell r).own.mapM w.text? := by
        apply mapM_congr
        intro x hx
        have hslot : w.heap.Slot (.ref r) x := Heap.slot_ref_iff.mpr hx
        exact ih x hx (hv.slot hslot) fun s hs => hproperties s (.head hslot hs)
      rw [text?_ref, text?_ref, htype, hown, hproperties r .refl, hslots]
  · rw [text?, text?, hv.tree?_eq, Heap.tree?_eq_none_iff.mpr hacyclic]
    rfl

/-- A value has the same hash code and the same text in two worlds. -/
def Preserves (w w' : World) (v : Value) : Prop :=
  w'.heap.hash? v = w.heap.hash? v ∧ w'.text? v = w.text? v

theorem preserves_of_agreeOn (htypes : w'.types = w.types) (hv : AgreeOn w.heap w'.heap v) :
    Preserves w w' v :=
  ⟨hv.hash?_eq, text?_eq_of_agreeOn hv fun _ _ => by rw [htypes]⟩

/-! ### Writes -/

namespace Write

variable {x : Write}

/-- Whether the write is meant for a property; no property is seen through a view. -/
def IsOwn (w : World) : Write → Prop
  | direct r name _ => name ∈ (w.types.properties (w.heap.cell r).type).map (·.name)
  | via _ _ _ => False

theorem isOwn_of_property? {r : InstanceId} {name : String} {l : Layout} {p : Property}
    (hl : w.layoutOf? r = some l) (hp : l.property? name = some p) : (direct r name v).IsOwn w := by
  show name ∈ (w.types.properties (w.heap.cell r).type).map (·.name)
  rw [Universe.properties_of_layout? hl]
  by_contra hname
  rw [Layout.property?, Layout.index?_eq_none_iff.mpr hname] at hp
  exact Option.some_ne_none p hp.symm

/-- What does not reach the target is the same after the request. -/
theorem agreeOn_after (hv : ¬ w.heap.Reaches v (.ref x.target)) :
    AgreeOn w.heap (x.after w).heap v := by
  rcases x.outcome_cases w with
    ⟨e, hout⟩ | ⟨name, l, p, -, -, -, -, -, -, hout⟩ | ⟨i, m, -, -, -, hout⟩
  · rw [after_of_eq hout]
    exact .refl _ _
  · rw [after_of_eq hout]
    exact Heap.agreeOn_modify hv
  · rw [after_of_eq hout]
    exact Heap.agreeOn_modify hv

/-- A request that is refused, or is not for a property, leaves all own slots as they are. -/
theorem agreeOn_after_of_not_isOwn (h : (∃ e, (x.outcome w).1 = .error e) ∨ ¬ x.IsOwn w)
    (v : Value) : AgreeOn w.heap (x.after w).heap v := by
  rcases x.outcome_cases w with
    ⟨e, hout⟩ | ⟨name, l, p, hx, hl, hp, -, -, -, hout⟩ | ⟨i, m, -, -, -, hout⟩
  · rw [after_of_eq hout]
    exact .refl _ _
  · rcases h with ⟨e, he⟩ | hnot
    · rw [hout] at he
      exact absurd he nofun
    · rw [hx] at hnot
      exact absurd (isOwn_of_property? hl hp) hnot
  · rw [after_of_eq hout]
    exact Heap.agreeOn_setInherited v

end Write

/-! ### In the long run -/

/-- Instances without properties that may be written keep their own slots, whatever happens. -/
theorem Steps.agreeOn (h : Steps w w') (hw : w.Sound) (hv : w.heap.Holds v)
    (hfixed : ∀ r, w.heap.Reaches v (.ref r) → w.types.IsFixed (w.heap.cell r).type) :
    AgreeOn w.heap w'.heap v := by
  intro r hr
  have hevolves : Evolves w w' := Steps.evolves h hw
  have hheld : w.heap.Holds (.ref r) := hw.complete.holds_of_reaches hv hr
  exact ⟨hevolves.type_eq r hheld, hevolves.own_eq r hheld (hfixed r hr)⟩

theorem Steps.preserves (h : Steps w w') (hw : w.Sound) (hv : w.heap.Holds v)
    (hfixed : ∀ r, w.heap.Reaches v (.ref r) → w.types.IsFixed (w.heap.cell r).type) :
    Preserves w w' v := by
  have hagree : AgreeOn w.heap w'.heap v := Steps.agreeOn h hw hv hfixed
  refine ⟨hagree.hash?_eq, text?_eq_of_agreeOn hagree fun r hr => ?_⟩
  have hheld : w.heap.Holds (.ref r) := hw.complete.holds_of_reaches hv hr
  exact (Steps.evolves h hw).grows.properties_eq (hw.closed r hheld).knows

/-- What a write can change.  A request that is refused, or is not for a property, changes nothing
for any values.  Any other one changes nothing for those that do not reach the instance written.  So
a value keeps its hash code and its text for good if no property of any instance that it reaches may
be written. -/
theorem Write.confined (w : World) (x : Write) :
    ((∃ e, (x.outcome w).1 = .error e) ∨ ¬ x.IsOwn w → ∀ a b,
      Preserves w (x.after w) a ∧ (x.after w).heap.same? a b = w.heap.same? a b) ∧
    (∀ a, ¬ w.heap.Reaches a (.ref x.target) →
      Preserves w (x.after w) a ∧
      ∀ b, ¬ w.heap.Reaches b (.ref x.target) →
        (x.after w).heap.same? a b = w.heap.same? a b) ∧
    (w.Sound → ∀ v, w.heap.Holds v →
      (∀ r, w.heap.Reaches v (.ref r) → w.types.IsFixed (w.heap.cell r).type) →
      ∀ w', Steps w w' → Preserves w w' v) := by
  refine ⟨fun h a b => ?_, fun a ha => ?_, fun hw v hv hfixed w' hsteps => ?_⟩
  · have hagree : ∀ v, AgreeOn w.heap (x.after w).heap v := agreeOn_after_of_not_isOwn h
    exact ⟨preserves_of_agreeOn rfl (hagree a), (hagree a).same?_eq (hagree b)⟩
  · have hagree : AgreeOn w.heap (x.after w).heap a := agreeOn_after ha
    exact ⟨preserves_of_agreeOn rfl hagree,
      fun b hb => hagree.same?_eq (agreeOn_after hb)⟩
  · exact Steps.preserves hsteps hw hv hfixed

/-- A type with one property, `x`. -/
def boxType (isMutable : Bool) : Layout where
  properties := [{ name := "x", type := .object, position := 0, canWrite := isMutable }]
  parent := none
  inherited := []
  isMutable := isMutable
  shape := .closed .object []

/-- A box that may be written, one that may not, and one of the latter type around the first. -/
def boxes : World where
  types := (Universe.add {} ⟨"Box", .record (boxType true)⟩).add ⟨"Fixed", .record (boxType false)⟩
  heap := { cells := #[
    ⟨.declared 0, [.scalar (.int32 1)], []⟩,
    ⟨.declared 1, [.scalar (.int32 2)], []⟩,
    ⟨.declared 1, [.ref ⟨0⟩], []⟩] }

theorem sound_boxes : boxes.Sound := by
  have hcases : ∀ r, boxes.heap.Holds (.ref r) → r = ⟨0⟩ ∨ r = ⟨1⟩ ∨ r = ⟨2⟩ := by
    rintro ⟨i⟩ hi
    have : i < 3 := hi
    simp only [InstanceId.mk.injEq]
    omega
  constructor
  · intro r hr
    rcases hcases r hr with rfl | rfl | rfl
    · exact ⟨boxType true, rfl, rfl⟩
    · exact ⟨boxType false, rfl, rfl⟩
    · exact ⟨boxType false, rfl, rfl⟩
  · intro r hr v hv
    rcases hcases r hr with rfl | rfl | rfl
    · obtain rfl := List.mem_singleton.mp hv
      trivial
    · obtain rfl := List.mem_singleton.mp hv
      trivial
    · obtain rfl := List.mem_singleton.mp hv
      exact (by decide : 0 < 3)

/-- Writing the box that may be written changes the hash codes of it and of the box around it.  The
box beside it keeps its own, and its text, whatever happens. -/
theorem Write.confined_boxes :
    let x : Write := .direct ⟨0⟩ "x" (.scalar (.int32 5))
    let refused : Write := .direct ⟨1⟩ "x" (.scalar (.int32 5))
    x.IsOwn boxes ∧
    (x.after boxes).heap.hash? (.ref ⟨0⟩) ≠ boxes.heap.hash? (.ref ⟨0⟩) ∧
    (x.after boxes).heap.hash? (.ref ⟨2⟩) ≠ boxes.heap.hash? (.ref ⟨2⟩) ∧
    Preserves boxes (x.after boxes) (.ref ⟨1⟩) ∧
    (∃ e, (refused.outcome boxes).1 = .error e) ∧
    Preserves boxes (refused.after boxes) (.ref ⟨1⟩) ∧
    ∀ w', Steps boxes w' → Preserves boxes w' (.ref ⟨1⟩) := by
  intro x refused
  have hreaches : ∀ r, boxes.heap.Reaches (.ref ⟨1⟩) (.ref r) → r = ⟨1⟩ := by
    intro r hr
    rcases Heap.reaches_ref_iff.mp hr with heq | ⟨v, hv, hr⟩
    · exact Value.ref.inj heq
    · obtain rfl := List.mem_singleton.mp hv
      exact absurd (Heap.reaches_scalar_iff.mp hr) nofun
  have hapart : ¬ boxes.heap.Reaches (.ref ⟨1⟩) (.ref x.target) := by
    intro hr
    exact absurd (hreaches _ hr) (by decide)
  have hfixed : ∀ r, boxes.heap.Reaches (.ref ⟨1⟩) (.ref r) →
      boxes.types.IsFixed (boxes.heap.cell r).type := by
    intro r hr p hp
    obtain rfl := hreaches r hr
    obtain rfl := List.mem_singleton.mp hp
    rfl
  have hrefused : ∃ e, (refused.outcome boxes).1 = .error e := by
    have hnot : (refused.outcome boxes).1.isOk = false := by decide +kernel
    rcases houtcome : (refused.outcome boxes).1 with e | _
    · exact ⟨e, rfl⟩
    · rw [houtcome] at hnot
      exact absurd hnot.symm Bool.false_ne_true
  refine ⟨?_, ?_, ?_, ((Write.confined boxes x).2.1 _ hapart).1, hrefused,
    ((Write.confined boxes refused).1 (.inl hrefused) _ .null).1,
    (Write.confined boxes x).2.2 sound_boxes _ (by decide : 1 < 3) hfixed⟩
  · exact List.mem_singleton.mpr rfl
  · decide +kernel
  · decide +kernel

end RecordTypes.World
