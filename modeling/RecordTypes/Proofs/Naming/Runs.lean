import RecordTypes.Proofs.Naming.Calls
import RecordTypes.Proofs.World.Requests
import Mathlib.Logic.Function.Basic

/-!
# Runs under two namings

A `Site` is any number of registries over the direct backend that share a world.  Two runs of a
site, in which the same is done step by step, may name types differently, from the beginning and by
any call that asks for another naming.  Nothing but the names tells the two runs apart
(`Site.run_unnamed`).
-/

namespace RecordTypes.Registry

/-- Registries that share a world. -/
structure Site where
  registries : Nat → Registry Unit
  world : World := {}

/-- What can be done at a site. -/
inductive Action where
  /-- A call of the `k`-th registry. -/
  | call (k : Nat) (c : Call)
  | declareClass (name : String) (c : ClassInfo)
  | newObject
  | create (t : TypeId) (arguments : List Value)
  | write (x : World.Write)

/-- What an action came to. -/
inductive Outcome where
  | answer (answer : Answer)
  | made (object : ObjectId)
  | written (result : Except Fault Unit)
  deriving DecidableEq

/-- An action without the naming that it asks for. -/
def Action.unnamed : Action → Action
  | .call k c => .call k c.unnamed
  | a => a

/-- An outcome, where a fault goes without the names of types. -/
def Outcome.unnamed : Outcome → Outcome
  | .answer a => .answer a.unnamed
  | .made o => .made o
  | .written result => .written (RecordTypes.unnamed result)

namespace Site

/-- Does what is to be done. -/
def act (s : Site) : Action → Outcome × Site
  | .call k c =>
    let (answer, r, world) := perform directBackend (s.registries k) s.world c
    (.answer answer, ⟨Function.update s.registries k r, world⟩)
  | .declareClass name c =>
    match s.world.declareClass name c with
    | .error e => (.answer (.type (.error e)), s)
    | .ok (t, types) => (.answer (.type (.ok t)), { s with world := { s.world with types } })
  | .newObject =>
    let (object, heap) := s.world.heap.newObject
    (.made object, { s with world := { s.world with heap } })
  | .create t arguments =>
    (.answer (.object (s.world.create t arguments).1),
      { s with world := s.world.afterCreate t arguments })
  | .write x => (.written (x.outcome s.world).1, { s with world := x.after s.world })

/-- Does one thing after another, the last of the list first, beginning with new registries. -/
def run (namings : Nat → Naming) : List Action → List Outcome × Site
  | [] => ([], { registries := fun k => new (namings k) () })
  | a :: earlier =>
    let (outcomes, s) := run namings earlier
    let (outcome, s) := s.act a
    (outcome :: outcomes, s)

/-- Two sites are the same but for names. -/
structure Alike (s s' : Site) : Prop where
  registries : ∀ k, (s.registries k).Alike (s'.registries k)
  world : s.world.Alike s'.world

end Site

/-! ### One action -/

theorem Action.cases_of_unnamed_eq {a a' : Action} (h : a'.unnamed = a.unnamed) :
    a' = a ∨ ∃ k c c', a = .call k c ∧ a' = .call k c' ∧ c'.unnamed = c.unnamed := by
  cases a with
  | call k c =>
    cases a' with
    | call k' c' =>
      obtain ⟨rfl, hc⟩ := Action.call.inj h
      exact .inr ⟨k', c, c', rfl, rfl, hc⟩
    | _ => exact absurd h nofun
  | _ =>
    cases a' with
    | call k' c' => exact absurd h nofun
    | _ => exact .inl h

namespace Site

variable {s s' : Site}

theorem Alike.call (hs : s.Alike s') (k : Nat) {c c' : Call} (hc : c'.unnamed = c.unnamed) :
    (s'.act (.call k c')).1.unnamed = (s.act (.call k c)).1.unnamed ∧
      (s.act (.call k c)).2.Alike (s'.act (.call k c')).2 := by
  obtain ⟨hanswer, hregistry, hworld⟩ := (hs.registries k).perform hs.world hc
  refine ⟨congrArg Outcome.answer hanswer, fun j => ?_, hworld⟩
  unfold act
  dsimp only
  by_cases hj : j = k
  · subst hj
    rw [Function.update_self, Function.update_self]
    exact hregistry
  · rw [Function.update_of_ne hj, Function.update_of_ne hj]
    exact hs.registries j

theorem Alike.write (hs : s.Alike s') (x : World.Write) :
    (s'.act (.write x)).1.unnamed = (s.act (.write x)).1.unnamed ∧
      (s.act (.write x)).2.Alike (s'.act (.write x)).2 := by
  have hagree : World.Agree (x.outcome s.world) (x.outcome s'.world) := by
    cases x with
    | direct r name v => exact hs.world.write r name v
    | via view name v => exact hs.world.writeVia view name v
  exact ⟨congrArg Outcome.written hagree.result, hs.registries, hs.world.types, hagree.heap⟩

/-- What is done at sites that are alike comes to the same but for names. -/
theorem Alike.act (hs : s.Alike s') {a a' : Action} (ha : a'.unnamed = a.unnamed) :
    (s'.act a').1.unnamed = (s.act a).1.unnamed ∧ (s.act a).2.Alike (s'.act a').2 := by
  obtain rfl | ⟨k, c, c', rfl, rfl, hc⟩ := Action.cases_of_unnamed_eq ha
  · cases a' with
    | call k c => exact hs.call k rfl
    | declareClass name c =>
      unfold Site.act
      dsimp only
      rcases hs.world.declareClass name c with
        ⟨t, u, u', h, h', hu⟩ | ⟨e, e', h, h', he⟩
      · rw [h, h']
        exact ⟨rfl, hs.registries, hu, hs.world.heap⟩
      · rw [h, h']
        exact ⟨congrArg (fun r => Outcome.answer (.type r)) (unnamed_error he), hs⟩
    | newObject =>
      unfold Site.act
      dsimp only
      rw [hs.world.heap]
      exact ⟨rfl, hs.registries, hs.world.types, rfl⟩
    | create t arguments =>
      obtain ⟨hmade, hheap⟩ := hs.world.create t arguments
      exact ⟨congrArg (fun r => Outcome.answer (.object r)) hmade, hs.registries, hs.world.types,
        hheap⟩
    | write x => exact hs.write x
  · exact hs.call k hc

/-! ### Runs -/

theorem run_alike (namings namings' : Nat → Naming) {actions actions' : List Action}
    (h : actions'.map Action.unnamed = actions.map Action.unnamed) :
    (run namings' actions').1.map Outcome.unnamed = (run namings actions).1.map Outcome.unnamed ∧
      (run namings actions).2.Alike (run namings' actions').2 := by
  induction actions generalizing actions' with
  | nil =>
    obtain rfl : actions' = [] := List.map_eq_nil_iff.mp h
    exact ⟨rfl, fun _ => ⟨rfl, rfl⟩, .refl _, rfl⟩
  | cons a earlier ih =>
    obtain ⟨a', earlier', rfl, ha, hearlier⟩ := List.map_eq_cons_iff.mp h
    obtain ⟨houtcomes, hsite⟩ := ih hearlier
    obtain ⟨houtcome, hsite'⟩ := hsite.act ha
    exact ⟨List.cons_eq_cons.mpr ⟨houtcome, houtcomes⟩, hsite'⟩

/-- Two runs in which the same is done, under whatever namings, come to the same but for names after
every step: every outcome, the memo with its counts and the index of every registry, what every type
is, and all instances with their equality, their hash codes and their texts. -/
theorem run_unnamed (namings namings' : Nat → Naming) {actions actions' : List Action}
    (h : actions'.map Action.unnamed = actions.map Action.unnamed) :
    let out := run namings actions
    let out' := run namings' actions'
    out'.1.map Outcome.unnamed = out.1.map Outcome.unnamed ∧
    (∀ k, (out'.2.registries k).memo = (out.2.registries k).memo ∧
      (out'.2.registries k).foundry.nextIndex = (out.2.registries k).foundry.nextIndex) ∧
    (∀ t, out'.2.world.types.kind? t = out.2.world.types.kind? t) ∧
    out'.2.world.heap = out.2.world.heap ∧
    ∀ a b, out'.2.world.heap.same? a b = out.2.world.heap.same? a b ∧
      out'.2.world.heap.hash? a = out.2.world.heap.hash? a ∧
      out'.2.world.text? a = out.2.world.text? a := by
  obtain ⟨houtcomes, hregistries, hworld⟩ := run_alike namings namings' h
  refine ⟨houtcomes, fun k => ?_, hworld.types.kind?_eq, hworld.heap, fun a b => ?_⟩
  · have hfoundry := (hregistries k).foundry
    exact ⟨(hregistries k).memo, congrArg Foundry.nextIndex hfoundry⟩
  · exact ⟨by rw [hworld.heap], by rw [hworld.heap], hworld.text?_eq a⟩

/-- An object is made, another naming is asked for, a template is made, and it is closed over too
few types: the two runs call both templates by different names, also in the fault. -/
theorem run_unnamed_of_four_actions :
    let values : Fields Value := ⟨[("a", .scalar (.int32 1))], List.nodup_singleton _⟩
    let actions (n : Naming) : List Action := [.call 0 (.close ⟨.declared 4⟩ []),
      .call 0 (.template ["b"] {}), .call 0 (.rename n), .call 0 (.object values none)]
    let out := run (fun _ => .standard) (actions ⟨"A", "x"⟩)
    let out' := run (fun _ => ⟨"R", "y"⟩) (actions ⟨"B", "z"⟩)
    out.2.world.types.name (.declared 1) = "<>f__LatticeUtilsAnonymousType0`1" ∧
    out'.2.world.types.name (.declared 1) = "R0`1" ∧
    out.2.world.types.name (.declared 4) = "A1`1" ∧
    out'.2.world.types.name (.declared 4) = "B1`1" ∧
    out'.1 ≠ out.1 ∧
    out'.1.map Outcome.unnamed = out.1.map Outcome.unnamed ∧
    (out'.2.registries 0).memo = (out.2.registries 0).memo ∧
    out'.2.world.text? (.ref ⟨0⟩) = out.2.world.text? (.ref ⟨0⟩) := by
  intro values actions
  have hactions : (actions ⟨"B", "z"⟩).map Action.unnamed =
      (actions ⟨"A", "x"⟩).map Action.unnamed := rfl
  have hrun := run_unnamed (fun _ => .standard) (fun _ => ⟨"R", "y"⟩) hactions
  refine ⟨?_, ?_, ?_, ?_, ?_, hrun.1, (hrun.2.1 0).1, (hrun.2.2.2.2 (.ref ⟨0⟩) .null).2.2⟩
  all_goals decide +kernel

end Site

end RecordTypes.Registry
