import RecordTypes.Memo
import RecordTypes.Proofs.Signature.Key
import Mathlib.Data.List.Nodup

/-!
# Memos as finite maps

A memo that is `Sound` is a finite map from signatures to types, and `Memo.get?` looks up in it.
Keys play no part in that: they determine signatures (`Signature.key_injective`), so an entry found
under the key of a signature is the entry of that signature, and no request runs into the entry of
another one (`peek_eq_get?`).  `resolve` then has two cases, one for a stored type and one for a
signature that nothing is stored for (`resolve_of_get?_eq_some`, `resolve_of_get?_eq_none`).
-/

namespace RecordTypes.Memo

/-- Every entry is stored under the key of its own signature, and no signature has two entries. -/
structure Sound (m : Memo) : Prop where
  keyed : ∀ e ∈ m.entries, e.key = e.signature.key
  nodup : (m.entries.map (·.signature)).Nodup

variable {m : Memo} {s s' : Signature} {t : TypeId}

theorem sound_empty : Sound {} := ⟨by simp, by simp⟩

/-! ### Looking up -/

/-- What is found under the key of a signature was stored for that signature. -/
theorem Sound.signature_of_entry? (hm : m.Sound) {e : MemoEntry} (h : m.entry? s = some e) :
    e ∈ m.entries ∧ e.signature = s := by
  have hmem : e ∈ m.entries := List.mem_of_find?_eq_some h
  have hkey : e.key = s.key := by simpa using List.find?_some h
  exact ⟨hmem, Signature.key_injective ((hm.keyed e hmem).symm.trans hkey)⟩

theorem Sound.get?_eq_map_entry? (hm : m.Sound) (s : Signature) :
    m.get? s = (m.entry? s).map (·.type) := by
  rw [get?]
  rcases he : m.entry? s with _ | e
  · rfl
  · rw [Option.filter_some, if_pos (by simpa using (hm.signature_of_entry? he).2)]

/-- A type is stored for a signature if there is an entry that says so. -/
theorem Sound.get?_eq_some_iff (hm : m.Sound) :
    m.get? s = some t ↔ ∃ e ∈ m.entries, e.signature = s ∧ e.type = t := by
  rw [hm.get?_eq_map_entry?, Option.map_eq_some_iff]
  constructor
  · rintro ⟨e, he, htype⟩
    obtain ⟨hmem, hsignature⟩ := hm.signature_of_entry? he
    exact ⟨e, hmem, hsignature, htype⟩
  · rintro ⟨e, hmem, hsignature, htype⟩
    have hfound : (m.entry? s).isSome := by
      unfold entry?
      rw [List.find?_isSome]
      exact ⟨e, hmem, by simp [hm.keyed e hmem, hsignature]⟩
    obtain ⟨e', he'⟩ := Option.isSome_iff_exists.mp hfound
    obtain ⟨hmem', hsignature'⟩ := hm.signature_of_entry? he'
    -- Signatures are not repeated, so the entry found is the entry given.
    have hsame : e'.signature = e.signature := hsignature'.trans hsignature.symm
    obtain rfl : e' = e := List.inj_on_of_nodup_map hm.nodup hmem' hmem hsame
    exact ⟨e', he', htype⟩

/-- No request runs into an entry of another signature. -/
theorem Sound.peek_eq_get? (hm : m.Sound) (s : Signature) : m.peek s = .ok (m.get? s) := by
  rw [peek, hm.get?_eq_map_entry?]
  rcases he : m.entry? s with _ | e
  · rfl
  · simp [(hm.signature_of_entry? he).2]

theorem Sound.state_of_get?_eq_some (hm : m.Sound) (h : m.get? s = some t) :
    m.state s = .present := by
  rw [hm.get?_eq_map_entry?, Option.map_eq_some_iff] at h
  obtain ⟨e, he, -⟩ := h
  simp [state, he]

/-! ### Changing a memo -/

@[simp] theorem get?_hit (m : Memo) (s : Signature) : m.hit.get? s = m.get? s := rfl

@[simp] theorem get?_fail (m : Memo) (s : Signature) : m.fail.get? s = m.get? s := rfl

theorem Sound.hit (hm : m.Sound) : m.hit.Sound := ⟨hm.keyed, hm.nodup⟩

theorem Sound.fail (hm : m.Sound) : m.fail.Sound := ⟨hm.keyed, hm.nodup⟩

/-- A type may be stored for a signature that nothing is stored for. -/
theorem Sound.store (hm : m.Sound) (h : m.get? s = none) (t : TypeId) : (m.store s t).Sound := by
  constructor
  · intro e he
    rcases List.mem_cons.mp he with rfl | he
    · rfl
    · exact hm.keyed e he
  · refine List.nodup_cons.mpr ⟨?_, hm.nodup⟩
    intro hmem
    obtain ⟨e, he, hsignature⟩ := List.mem_map.mp hmem
    have : m.get? s = some e.type := hm.get?_eq_some_iff.mpr ⟨e, he, hsignature, rfl⟩
    rw [h] at this
    exact absurd this (by simp)

/-- Storing a type changes the look-up of its signature and of no other. -/
theorem get?_store (m : Memo) (s s' : Signature) (t : TypeId) :
    (m.store s t).get? s' = if s = s' then some t else m.get? s' := by
  rw [get?, get?, entry?, entry?, Memo.store]
  by_cases hs : s = s'
  · subst hs
    rw [if_pos rfl, List.find?_cons_of_pos (by simp), Option.filter_some, if_pos (by simp),
      Option.map_some]
  · -- Look-up goes by keys, and different signatures have different keys.
    have hkey : s.key ≠ s'.key := fun h => hs (Signature.key_injective h)
    rw [if_neg hs, List.find?_cons_of_neg (by simpa using hkey)]

theorem get?_store_self (m : Memo) (s : Signature) (t : TypeId) :
    (m.store s t).get? s = some t := by simp [get?_store]

/-- What is stored stays stored when a type is stored for a new signature. -/
theorem get?_store_of_get?_eq_some (h : m.get? s = none) (t : TypeId) {t' : TypeId}
    (h' : m.get? s' = some t') : (m.store s t).get? s' = some t' := by
  rw [get?_store, if_neg, h']
  rintro rfl
  rw [h] at h'
  exact absurd h' (by simp)

/-- Every type that one memo stores is stored by another one, for the same signature. -/
def Extends (m m' : Memo) : Prop := ∀ s t, m.get? s = some t → m'.get? s = some t

theorem Extends.refl (m : Memo) : m.Extends m := fun _ _ h => h

theorem Extends.trans {m' m'' : Memo} (h : m.Extends m') (h' : m'.Extends m'') : m.Extends m'' :=
  fun s t ht => h' s t (h s t ht)

/-! ### Resolving a request -/

section Resolve

variable {σ : Type} {build : Memo → σ → Except Fault TypeId × σ} {state : σ}

/-- A stored type is handed out, and the build is not run. -/
theorem Sound.resolve_of_get?_eq_some (hm : m.Sound) (h : m.get? s = some t) :
    m.resolve s build state = (.ok t, m.hit, state) := by
  rw [resolve, hm.peek_eq_get?, h]

/-- If nothing is stored, the build is run, and the type it makes is stored. -/
theorem Sound.resolve_of_get?_eq_none (hm : m.Sound) (h : m.get? s = none) :
    m.resolve s build state = match build (m.mark s) state with
      | (.ok t, state') => (.ok t, m.store s t, state')
      | (.error e, state') => (.error e, m.fail, state') := by
  have hpeek : m.peek s = .ok none := by rw [hm.peek_eq_get?, h]
  rcases hbuild : build (m.mark s) state with ⟨e | t, state'⟩ <;>
    simp only [Memo.resolve, hpeek, hbuild]

/-- Everything that a request can come to: an answer from store, a build, or a build that fails. -/
theorem Sound.resolve_cases (hm : m.Sound) (s : Signature)
    (build : Memo → σ → Except Fault TypeId × σ) (state : σ) :
    (∃ t, m.get? s = some t ∧ m.resolve s build state = (.ok t, m.hit, state)) ∨
    (∃ t state', m.get? s = none ∧ build (m.mark s) state = (.ok t, state') ∧
      m.resolve s build state = (.ok t, m.store s t, state')) ∨
    (∃ e state', m.get? s = none ∧ build (m.mark s) state = (.error e, state') ∧
      m.resolve s build state = (.error e, m.fail, state')) := by
  rcases hget : m.get? s with _ | t
  · right
    rcases hbuild : build (m.mark s) state with ⟨e | t, state'⟩
    · exact .inr ⟨e, state', rfl, rfl, by rw [hm.resolve_of_get?_eq_none hget, hbuild]⟩
    · exact .inl ⟨t, state', rfl, rfl, by rw [hm.resolve_of_get?_eq_none hget, hbuild]⟩
  · exact .inl ⟨t, rfl, hm.resolve_of_get?_eq_some hget⟩

/-- A request keeps a memo sound and takes nothing from it. -/
theorem Sound.resolve (hm : m.Sound) (s : Signature) (build : Memo → σ → Except Fault TypeId × σ)
    (state : σ) :
    (m.resolve s build state).2.1.Sound ∧ m.Extends (m.resolve s build state).2.1 := by
  rcases hm.resolve_cases s build state with
    ⟨t, -, hres⟩ | ⟨t, state', hget, -, hres⟩ | ⟨e, state', -, -, hres⟩
  · rw [hres]
    exact ⟨hm.hit, Extends.refl m⟩
  · rw [hres]
    exact ⟨hm.store hget t, fun s' t' => get?_store_of_get?_eq_some hget t⟩
  · rw [hres]
    exact ⟨hm.fail, Extends.refl m⟩

/-- What a request is answered with is stored from then on. -/
theorem Sound.get?_resolve (hm : m.Sound) (h : (m.resolve s build state).1 = .ok t) :
    (m.resolve s build state).2.1.get? s = some t := by
  rcases hm.resolve_cases s build state with
    ⟨t', hget, hres⟩ | ⟨t', state', -, -, hres⟩ | ⟨e, state', -, -, hres⟩
  · rw [hres] at h ⊢
    rw [get?_hit, hget, Except.ok.inj h]
  · rw [hres] at h ⊢
    rw [get?_store_self, Except.ok.inj h]
  · rw [hres] at h
    exact absurd h nofun

/-- After a request the state is what it was, or what the build made of it. -/
theorem resolve_state {P : σ → Prop} (m : Memo) (s : Signature) (h : P state)
    (hbuild : ∀ m', P (build m' state).2) : P (m.resolve s build state).2.2 := by
  unfold Memo.resolve
  rcases m.peek s with e | _ | t
  · exact h
  · have hmarked := hbuild (m.mark s)
    dsimp only
    generalize build (m.mark s) state = out at hmarked ⊢
    rcases out with ⟨e | t, state'⟩ <;> exact hmarked
  · exact h

end Resolve

end RecordTypes.Memo
