import RecordTypes.Proofs.Heap.Acyclic
import RecordTypes.Proofs.Scalar.Canonical
import Mathlib.Data.List.Forall2

/-!
# The content of values

`Heap.content?` is what equality sees of a value: its tree with canonical leaves, in which nodes do
not tell what instance they stand for.  Two values are equal exactly if they have one content
(`same?_eq_some_true_iff`), and what is read off the content alone, such as the type and the hash
code, is the same for equal values (`typeOf?_eq`, `hash?_eq`).

Equality takes a shortcut where it meets one instance on both sides.  `Tree.alike` is equality
without it, and in the trees of one heap the two agree (`same_eq_alike`): there an instance has one
tree, and every tree is like itself.
-/

namespace RecordTypes

namespace Tree

/-! ### What equality sees of a tree -/

mutual

/-- A tree with canonical leaves, in which it does not show what instances the nodes stand for. -/
def canonical : Tree → Tree
  | leaf s => leaf s.canonical
  | node _ t slots => node ⟨0⟩ t (canonicals slots)

/-- Trees in order. -/
def canonicals : List Tree → List Tree
  | [] => []
  | x :: xs => canonical x :: canonicals xs

end

mutual

/-- Equality field by field that looks into an instance even where it meets it on both sides. -/
def alike : Tree → Tree → Bool
  | leaf a, leaf b => a.same b
  | node _ t xs, node _ t' ys => t = t' && alikeAll xs ys
  | _, _ => false

/-- Trees of two lists are alike in order. -/
def alikeAll : List Tree → List Tree → Bool
  | [], [] => true
  | x :: xs, y :: ys => alike x y && alikeAll xs ys
  | _, _ => false

end

theorem canonicals_eq_map (xs : List Tree) : canonicals xs = xs.map canonical := by
  induction xs with
  | nil => rfl
  | cons x xs ih => rw [canonicals, ih, List.map_cons]

theorem texts_eq_map (names : TypeId → List String) (xs : List Tree) :
    texts names xs = xs.map (text names) := by
  induction xs with
  | nil => rfl
  | cons x xs ih => rw [texts, ih, List.map_cons]

theorem hashes_eq_map (xs : List Tree) : hashes xs = xs.map hash := by
  induction xs with
  | nil => rfl
  | cons x xs ih => rw [hashes, ih, List.map_cons]

mutual

theorem alike_iff : ∀ x y : Tree, x.alike y = true ↔ x.canonical = y.canonical
  | leaf a, leaf b => by rw [alike, canonical, canonical, leaf.injEq, a.same_iff b]
  | leaf a, node r t ys => by simp [alike, canonical]
  | node r t xs, leaf b => by simp [alike, canonical]
  | node r t xs, node r' t' ys => by simp [alike, canonical, alikeAll_iff xs ys]

theorem alikeAll_iff : ∀ xs ys : List Tree,
    alikeAll xs ys = true ↔ canonicals xs = canonicals ys
  | [], [] => by simp [alikeAll]
  | [], y :: ys => by simp [alikeAll, canonicals]
  | x :: xs, [] => by simp [alikeAll, canonicals]
  | x :: xs, y :: ys => by
    rw [alikeAll, Bool.and_eq_true, alike_iff x y, alikeAll_iff xs ys, canonicals, canonicals,
      List.cons.injEq]

end

mutual

theorem hash_canonical : ∀ x : Tree, x.canonical.hash = x.hash
  | leaf s => by rw [canonical, hash, hash, s.hash_canonical]
  | node r t slots => by rw [canonical, hash, hash, hashes_canonicals slots]

theorem hashes_canonicals : ∀ xs : List Tree, hashes (canonicals xs) = hashes xs
  | [] => rfl
  | x :: xs => by rw [canonicals, hashes, hashes, hash_canonical x, hashes_canonicals xs]

end

/-- The type of what a tree unfolds. -/
def type? : Tree → Option TypeId
  | leaf s => s.primitive?.map .builtin
  | node _ t _ => some t

theorem type?_canonical (x : Tree) : x.canonical.type? = x.type? := by
  cases x with
  | leaf s => rw [canonical, type?, type?, s.primitive?_canonical]
  | node r t slots => rfl

theorem sameAll_eq_alikeAll {xs ys : List Tree} (h : ∀ x ∈ xs, ∀ y ∈ ys, x.same y = x.alike y) :
    sameAll xs ys = alikeAll xs ys := by
  induction xs generalizing ys with
  | nil => cases ys <;> rfl
  | cons x xs ih =>
    cases ys with
    | nil => rfl
    | cons y ys =>
      have hhead : x.same y = x.alike y := h x List.mem_cons_self y List.mem_cons_self
      have htail : sameAll xs ys = alikeAll xs ys := ih fun x hx y hy =>
        h x (List.mem_cons_of_mem _ hx) y (List.mem_cons_of_mem _ hy)
      rw [sameAll, alikeAll, hhead, htail]

end Tree

namespace Heap

variable {h : Heap} {r s : InstanceId} {a b v : Value} {x y c : Tree}

/-! ### What equality sees of a value -/

/-- What equality sees of a value. -/
def content? (h : Heap) (v : Value) : Option Tree := (h.tree? v).map Tree.canonical

/-- Deep equality of two values, without the shortcut for one instance on both sides. -/
def alike? (h : Heap) (a b : Value) : Option Bool := do return (← h.tree? a).alike (← h.tree? b)

theorem tree?_ref_eq_some_iff : h.tree? (.ref r) = some x ↔
    ∃ slots, (h.cell r).own.map h.tree? = slots.map some ∧ .node r (h.cell r).type slots = x := by
  rw [tree?_ref, Option.map_eq_some_iff]
  simp only [mapM_eq_some_iff]

theorem content?_scalar (h : Heap) (s : Scalar) :
    h.content? (.scalar s) = some (.leaf s.canonical) := by
  rw [content?, tree?_scalar, Option.map_some, Tree.canonical]

theorem content?_ref (h : Heap) (r : InstanceId) :
    h.content? (.ref r) =
      ((h.cell r).own.mapM h.content?).map (.node ⟨0⟩ (h.cell r).type) := by
  have hslots : (h.cell r).own.mapM h.content? =
      ((h.cell r).own.mapM h.tree?).map (List.map Tree.canonical) := (mapM_map_some _ _ _).symm
  rw [content?, tree?_ref, hslots, Option.map_map, Option.map_map]
  congr 1
  funext slots
  rw [Function.comp_apply, Function.comp_apply, Tree.canonical, Tree.canonicals_eq_map]

theorem isSome_content?_iff : (h.content? v).isSome ↔ h.Acyclic v := by
  rw [content?, Option.isSome_map, isSome_tree?_iff]

/-- The hash code is that of the content. -/
theorem hash?_eq (h : Heap) (v : Value) : h.hash? v = (h.content? v).map Tree.hash := by
  rw [hash?, content?, Option.map_map]
  congr 1
  funext x
  exact x.hash_canonical.symm

/-- The content tells the type. -/
theorem typeOf?_eq (hc : h.content? v = some c) : h.typeOf? v = c.type? := by
  obtain ⟨x, hx, rfl⟩ := Option.map_eq_some_iff.mp hc
  rw [Tree.type?_canonical]
  cases v with
  | scalar s =>
    obtain rfl : Tree.leaf s = x := Option.some.inj ((tree?_scalar h s).symm.trans hx)
    rfl
  | ref r =>
    obtain ⟨slots, -, rfl⟩ := tree?_ref_eq_some_iff.mp hx
    rfl

/-! ### The shortcut -/

/-- In the trees of one heap, equality is what it would be without the shortcut. -/
theorem same_eq_alike (hx : h.tree? a = some x) (hy : h.tree? b = some y) :
    x.same y = x.alike y := by
  have ha : h.Acyclic a := isSome_tree?_iff.mp (Option.isSome_iff_exists.mpr ⟨x, hx⟩)
  induction a, ha using Acyclic.induction generalizing x b y with
  | scalar s =>
    obtain rfl : Tree.leaf s = x := Option.some.inj ((tree?_scalar h s).symm.trans hx)
    cases y <;> rfl
  | ref r _ ih =>
    cases b with
    | scalar s =>
      obtain rfl : Tree.leaf s = y := Option.some.inj ((tree?_scalar h s).symm.trans hy)
      obtain ⟨xs, -, rfl⟩ := tree?_ref_eq_some_iff.mp hx
      rfl
    | ref s =>
      by_cases hrs : r = s
      · -- The shortcut says yes, and so does a look into the one tree that there is.
        subst hrs
        obtain rfl : x = y := Option.some.inj (hx.symm.trans hy)
        have hself : x.alike x = true := (Tree.alike_iff x x).mpr rfl
        obtain ⟨xs, -, rfl⟩ := tree?_ref_eq_some_iff.mp hx
        rw [hself, Tree.same, decide_eq_true rfl, Bool.true_or]
      · obtain ⟨xs, hxs, rfl⟩ := tree?_ref_eq_some_iff.mp hx
        obtain ⟨ys, hys, rfl⟩ := tree?_ref_eq_some_iff.mp hy
        have hslots : Tree.sameAll xs ys = Tree.alikeAll xs ys := by
          apply Tree.sameAll_eq_alikeAll
          intro x hx y hy
          obtain ⟨v, hv, hvx⟩ := List.mem_map.mp (hxs ▸ List.mem_map_of_mem hx)
          obtain ⟨w, -, hwy⟩ := List.mem_map.mp (hys ▸ List.mem_map_of_mem hy)
          exact ih v hv hvx hwy
        rw [Tree.same, Tree.alike, decide_eq_false hrs, Bool.false_or, hslots]

theorem same?_eq_alike? (h : Heap) (a b : Value) : h.same? a b = h.alike? a b := by
  unfold same? alike?
  cases hx : h.tree? a with
  | none => rfl
  | some x =>
    cases hy : h.tree? b with
    | none => rfl
    | some y => exact congrArg some (same_eq_alike hx hy)

theorem alike?_eq_some_true_iff :
    h.alike? a b = some true ↔ ∃ c, h.content? a = some c ∧ h.content? b = some c := by
  unfold alike? content?
  cases h.tree? a with
  | none => exact ⟨nofun, nofun⟩
  | some x =>
    cases h.tree? b with
    | none => exact ⟨nofun, nofun⟩
    | some y =>
      show some (x.alike y) = some true ↔ ∃ c, some x.canonical = some c ∧ some y.canonical = some c
      rw [Option.some.injEq, Tree.alike_iff]
      constructor
      · intro hxy
        exact ⟨x.canonical, rfl, by rw [hxy]⟩
      · rintro ⟨c, hx, hy⟩
        rw [Option.some.inj hx, Option.some.inj hy]

/-! ### Equality is equality of contents -/

/-- Two values are equal exactly if they have one content. -/
theorem same?_eq_some_true_iff :
    h.same? a b = some true ↔ ∃ c, h.content? a = some c ∧ h.content? b = some c := by
  rw [same?_eq_alike?, alike?_eq_some_true_iff]

theorem same?_scalar_iff {s s' : Scalar} :
    h.same? (.scalar s) (.scalar s') = some true ↔ s.canonical = s'.canonical := by
  rw [same?_eq_some_true_iff, content?_scalar, content?_scalar]
  constructor
  · rintro ⟨c, hs, hs'⟩
    exact Tree.leaf.inj (Option.some.inj (hs.trans hs'.symm))
  · intro hs
    exact ⟨.leaf s.canonical, rfl, by rw [hs]⟩

/-- Equality is decided for acyclic values. -/
theorem isSome_same? (ha : h.Acyclic a) (hb : h.Acyclic b) : (h.same? a b).isSome := by
  obtain ⟨x, hx⟩ := Option.isSome_iff_exists.mp (isSome_tree?_iff.mpr ha)
  obtain ⟨y, hy⟩ := Option.isSome_iff_exists.mp (isSome_tree?_iff.mpr hb)
  unfold same?
  rw [hx, hy]
  rfl

/-- Lists are equal value by value exactly if they have one list of contents. -/
theorem forall₂_same?_iff {as bs : List Value} :
    List.Forall₂ (fun a b => h.same? a b = some true) as bs ↔
      ∃ cs, as.mapM h.content? = some cs ∧ bs.mapM h.content? = some cs := by
  simp only [mapM_eq_some_iff]
  constructor
  · intro hall
    induction hall with
    | nil => exact ⟨[], rfl, rfl⟩
    | cons hab _ ih =>
      obtain ⟨c, ha, hb⟩ := same?_eq_some_true_iff.mp hab
      obtain ⟨cs, has, hbs⟩ := ih
      exact ⟨c :: cs, by rw [List.map_cons, List.map_cons, ha, has],
        by rw [List.map_cons, List.map_cons, hb, hbs]⟩
  · rintro ⟨cs, has, hbs⟩
    induction cs generalizing as bs with
    | nil =>
      obtain rfl : as = [] := List.map_eq_nil_iff.mp has
      obtain rfl : bs = [] := List.map_eq_nil_iff.mp hbs
      exact .nil
    | cons c cs ih =>
      obtain ⟨a, as, rfl, ha, has⟩ := List.map_eq_cons_iff.mp has
      obtain ⟨b, bs, rfl, hb, hbs⟩ := List.map_eq_cons_iff.mp hbs
      exact .cons (same?_eq_some_true_iff.mpr ⟨c, ha, hb⟩) (ih has hbs)

/-- Two instances are equal exactly if they are of one type and their slots are equal in order. -/
theorem same?_ref_iff : h.same? (.ref r) (.ref s) = some true ↔
    (h.cell r).type = (h.cell s).type ∧
      List.Forall₂ (fun a b => h.same? a b = some true) (h.cell r).own (h.cell s).own := by
  rw [same?_eq_some_true_iff, forall₂_same?_iff, content?_ref, content?_ref]
  simp only [Option.map_eq_some_iff]
  constructor
  · rintro ⟨c, ⟨xs, hxs, rfl⟩, ys, hys, hnode⟩
    obtain ⟨-, htype, rfl⟩ := Tree.node.inj hnode
    exact ⟨htype.symm, ys, hxs, hys⟩
  · rintro ⟨htype, cs, hxs, hys⟩
    exact ⟨_, ⟨cs, hxs, rfl⟩, cs, hys, by rw [htype]⟩

end Heap

end RecordTypes
