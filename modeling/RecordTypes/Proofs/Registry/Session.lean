import RecordTypes.Proofs.Registry.Made
import RecordTypes.Proofs.Registry.Steps

/-!
# Sessions

A `Session` is a run of a registry over the direct backend in which nothing is handed over that does
not exist yet.  Between its calls anything may happen to the world, step by step: what another
registry does comes down to such steps too, as it declares types and makes instances.

After every session the instances are of closed types and hold values that exist
(`Session.sound`), and every object that was made, however long ago, is known to be made from its
values (`Session.madeFrom`).
-/

namespace RecordTypes.Registry

open World (Evolves)

/-- Calls made one after another, beginning with a new registry, and steps of the world. -/
inductive Session : List Exchange → Registry Unit → World → Prop
  | start (naming : Naming) : Session [] (new naming ()) {}
  | call {history : List Exchange} {r : Registry Unit} {w : World} (c : Call)
      (h : Session history r w) (hheld : c.ValuesExist w.heap) :
      Session (⟨c, (perform directBackend r w c).1⟩ :: history) (perform directBackend r w c).2.1
        (perform directBackend r w c).2.2
  | step {history : List Exchange} {r : Registry Unit} {w w' : World}
      (h : Session history r w) (hw : World.Step w w') : Session history r w'

variable {history : List Exchange} {r : Registry Unit} {w : World} {values : Fields Value}
  {made : InstanceId} {c : Call}

/-- A session is a run. -/
theorem Session.run (h : Session history r w) : Run TypesGrow directBackend history r w := by
  induction h with
  | start naming => exact .start naming ()
  | call c _ _ ih => exact ih.call c
  | step _ hw ih => exact ih.elsewhere hw.evolves.grows

/-- Calls that are played one after another make up a session, if each hands over values that exist
by then. -/
theorem Session.play_cons {naming : Naming} (calls : List Call)
    (h : Session (calls.zipWith Exchange.mk (play directBackend naming () calls).1)
      (play directBackend naming () calls).2.1 (play directBackend naming () calls).2.2)
    (hheld : c.ValuesExist (play directBackend naming () calls).2.2.heap) :
    Session ((c :: calls).zipWith Exchange.mk (play directBackend naming () (c :: calls)).1)
      (play directBackend naming () (c :: calls)).2.1
      (play directBackend naming () (c :: calls)).2.2 :=
  h.call c hheld

theorem Session.faithful (h : Session history r w) : Faithful r w.types := h.run.faithful

/-- A call adds types and instances, and keeps a world sound. -/
theorem Faithful.evolves_perform (h : Faithful r w.types) (hw : w.Sound)
    (hheld : c.ValuesExist w.heap) :
    Evolves w (perform directBackend r w c).2.2 ∧ (perform directBackend r w c).2.2.Sound := by
  have hsteps := steps_perform h.wellFormed r hheld
  exact ⟨World.Steps.evolves hsteps hw, World.Steps.sound hsteps hw⟩

/-- After every session instances are of closed record types and hold values that exist. -/
theorem Session.sound (h : Session history r w) : w.Sound := by
  induction h with
  | start naming => exact World.sound_empty
  | call c h hheld ih => exact (h.faithful.evolves_perform ih hheld).2
  | step _ hw ih => exact ih.step hw

/-- Every object that was made goes on being one that was made from its values. -/
theorem Session.madeFrom (h : Session history r w)
    (he : ⟨.object values none, .object (.ok made)⟩ ∈ history) : MadeFrom r w values made := by
  induction h with
  | start naming => exact absurd he (by simp)
  | @call history r w c h hheld ih =>
    rcases List.mem_cons.mp he with hnew | hold
    · obtain ⟨hc, hanswer⟩ := Exchange.mk.inj hnew
      subst hc
      obtain ⟨made', r', w', hout, hmade, -⟩ := h.faithful.make_eq_ok h.sound hheld
      rw [perform_object, object, hout] at hanswer ⊢
      obtain rfl : made = made' := Except.ok.inj (Answer.object.inj hanswer)
      exact hmade
    · -- The object was there before the call, which leaves it as it is.
      have hmemo := ((kept_extends directBackend r.memo).perform (w := w)
        ⟨h.faithful.sound, .refl _⟩ c).2
      exact (ih hold).mono h.faithful hmemo (h.faithful.evolves_perform h.sound hheld).1
  | step h hw ih => exact (ih he).mono h.faithful (.refl _) hw.evolves

end RecordTypes.Registry
