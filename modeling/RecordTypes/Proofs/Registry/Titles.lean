import RecordTypes.Proofs.Registry.Asking
import RecordTypes.Proofs.Registry.Names
import RecordTypes.Proofs.Registry.Recording
import RecordTypes.Proofs.Text.Delimited

/-!
# Names that do not repeat

The name of a template can be read back after its prefix, whatever the prefix is: the index ends
before the mark that comes after it (`Naming.typeName_inj`).  In a run under names that agree in the
prefix, the requests for templates that reach the backend are named by their number, whether or not
the backend answers them (`keptUnder_titled`).

Over the direct backend a template bears the name of its request, and a closed type that of its
template.  So the templates that a registry made can be listed under their names
(`NamedRun.exists_lists`), and types that are closed from different ones differ in their names, too
(`titles_differ`).
-/

namespace RecordTypes

/-- What holds of every entry of a list at its place, and of a new one at the place after the last,
holds when the new one is added there. -/
theorem forall_getElem?_concat {α : Type} {P : Nat → α → Prop} {l : List α} {a : α}
    (h : ∀ (i : Nat) b, l[i]? = some b → P i b) (ha : P l.length a) (i : Nat) (b : α)
    (hb : (l ++ [a])[i]? = some b) : P i b := by
  by_cases hi : i < l.length
  · rw [List.getElem?_append_left hi] at hb
    exact h i b hb
  · have hlt : i < (l ++ [a]).length := (List.getElem?_eq_some_iff.mp hb).1
    rw [List.length_append, List.length_singleton] at hlt
    obtain rfl : i = l.length := by omega
    obtain rfl : a = b := by simpa using hb
    exact ha

/-! ### Names of templates -/

namespace Naming

variable {n n' : Naming} {i j arity arity' : Nat}

/-- After a prefix, a name tells the index and the arity. -/
theorem typeName_inj (hsame : n.typePrefix = n'.typePrefix)
    (h : n.typeName i arity = n'.typeName j arity') : i = j ∧ arity = arity' := by
  unfold typeName at h
  rw [hsame, String.append_assoc, String.append_assoc, String.append_assoc, String.append_assoc,
    String.append_right_inj] at h
  obtain ⟨hindex, harity⟩ := Text.delimited_nat.mark_inj (by decide) (by decide) h
  exact ⟨hindex, Text.eq_of_toString_eq harity⟩

/-- The name of a template, by its prefix, its index and its arity. -/
def title (typePrefix : String) (index arity : Nat) : String :=
  typeName { typePrefix } index arity

theorem title_inj {typePrefix : String}
    (h : title typePrefix i arity = title typePrefix j arity') : i = j ∧ arity = arity' :=
  typeName_inj rfl h

end Naming

/-! ### Closed types bear the names of their templates -/

namespace Universe

variable {u v : Universe} {t template : TypeId}

/-- A type bears the name of another one. -/
def NamedAfter (u : Universe) (t template : TypeId) : Prop :=
  u.Knows t ∧ u.Knows template ∧ u.name t = u.name template

theorem Extends.name_eq (h : u.Extends v) (ht : u.Knows t) : v.name t = u.name t := by
  rw [name, name, h t ht]

theorem Extends.namedAfter (h : u.Extends v) (ht : u.NamedAfter t template) :
    v.NamedAfter t template := by
  obtain ⟨hknows, htemplate, hname⟩ := ht
  exact ⟨h.knows hknows, h.knows htemplate, by rw [h.name_eq hknows, h.name_eq htemplate, hname]⟩

/-- A type that the direct backend closes bears the name of what it is closed from. -/
theorem namedAfter_of_cast_close {arguments : List TypeId}
    (h : (u.cast (Direct.close u template arguments)).1 = .ok t) :
    (u.cast (Direct.close u template arguments)).2.NamedAfter t template := by
  have hextends := u.extends_cast (Direct.close u template arguments)
  rcases hl : u.layout? template with _ | l
  · rw [Direct.close, hl] at h
    cases h
  · by_cases harity : l.arity = arguments.length
    · have hknows : u.Knows template := knows_of_kind? (layout?_eq_some_iff.mp hl)
      rw [Direct.close_eq u hl harity] at h hextends ⊢
      refine ⟨?_, hextends.knows hknows, ?_⟩
      · rw [Knows, entry?_of_cast rfl h]
        rfl
      · rw [(name_of_cast rfl h).1, hextends.name_eq hknows]
    · rw [Direct.close, hl] at h
      dsimp only at h
      rw [if_neg harity] at h
      cases h

end Universe

theorem Foundry.namedAfter_castClosed {u : Universe} {t template : TypeId}
    {arguments : List TypeId} {f : Foundry Unit}
    (h : (castClosed directBackend template arguments f u).1 = .ok t) :
    (castClosed directBackend template arguments f u).2.2.NamedAfter t template := by
  unfold castClosed at h ⊢
  rcases hcheck : u.checkClosing template arguments with e | _
  · rw [hcheck] at h
    exact absurd h nofun
  · rw [hcheck] at h
    exact Universe.namedAfter_of_cast_close h

namespace Registry

open Naming (title)
open Universe (Grows)

variable {σ : Type}

variable {allowed : Naming → Prop} {between : World → World → Prop} {b : Backend σ}
  {history : List Exchange} {r : Registry σ} {w : World} {typePrefix : String}

/-! ### Requests for templates -/

/-- The requests of a record, the oldest first, are named by their number. -/
def Titled (typePrefix : String) (asked : List Asked) : Prop :=
  ∀ (i : Nat) a, asked[i]? = some a →
    a.request.name = title typePrefix i a.request.propertyNames.length

/-- A request is named by the index at which it is made, and takes it, whether or not it is
answered. -/
theorem keptUnder_titled (b : Backend σ) (typePrefix : String) :
    KeptUnder (fun n => n.typePrefix = typePrefix) b.recorded fun r _ =>
      r.naming.typePrefix = typePrefix ∧ r.foundry.nextIndex = r.foundry.record.length ∧
        Titled typePrefix r.foundry.record.reverse := by
  apply keptUnder_of_foundry (Q := fun f _ => f.nextIndex = f.record.length ∧
    Titled typePrefix f.record.reverse)
  · rintro f n names isMutable parent u rfl ⟨hindex, htitled⟩
    unfold Foundry.castTemplate
    dsimp only
    rcases u.checkDefinition (properParent parent) names with e | _
    · exact ⟨hindex, htitled⟩
    · let request := n.request f.nextIndex names isMutable (properParent parent)
      let asked : Asked := ⟨request, (b.define f.backend.1 u request).1⟩
      refine ⟨congrArg (· + 1) hindex, ?_⟩
      show Titled n.typePrefix (asked :: f.record).reverse
      rw [List.reverse_cons]
      apply forall_getElem?_concat htitled
      rw [List.length_reverse, ← hindex]
      rfl
  · rintro f template arguments u h
    unfold Foundry.castClosed
    rcases u.checkClosing template arguments with e | _ <;> exact h

/-! ### Templates over the direct backend -/

/-- The templates that a registry made, the oldest first.  They are named by their number, and what
is stored for names is among them.  A closed type that is stored bears the name of its template. -/
structure Lists (typePrefix : String) (made : List TypeId) (r : Registry Unit) (u : Universe) :
    Prop where
  faithful : Faithful r u
  naming : r.naming.typePrefix = typePrefix
  length : r.foundry.nextIndex = made.length
  name : ∀ (i : Nat) t, made[i]? = some t →
    u.Knows t ∧ ∃ arity, u.name t = title typePrefix i arity
  stored : ∀ names isMutable parent t,
    r.memo.get? (.template names isMutable parent) = some t → t ∈ made
  closed : ∀ template arguments t,
    r.memo.get? (.closed template arguments) = some t → u.NamedAfter t template

section Lists

variable {typePrefix : String} {made : List TypeId} {r r' : Registry Unit} {u v : Universe}
  {t t' template : TypeId}

theorem lists_new {naming : Naming} (hn : naming.typePrefix = typePrefix) :
    Lists typePrefix [] (new naming ()) {} where
  faithful := faithful_new naming
  naming := hn
  length := rfl
  name _ _ h := absurd h nofun
  stored _ _ _ _ h := absurd h nofun
  closed _ _ _ h := absurd h nofun

/-- No two of the templates have the same name. -/
theorem Lists.name_inj (h : Lists typePrefix made r u) (ht : t ∈ made) (ht' : t' ∈ made)
    (hname : u.name t = u.name t') : t = t' := by
  obtain ⟨i, hi⟩ := List.mem_iff_getElem?.mp ht
  obtain ⟨j, hj⟩ := List.mem_iff_getElem?.mp ht'
  obtain ⟨-, arity, htitle⟩ := h.name i t hi
  obtain ⟨-, arity', htitle'⟩ := h.name j t' hj
  rw [htitle, htitle'] at hname
  obtain ⟨rfl, -⟩ := Naming.title_inj hname
  exact Option.some.inj (hi.symm.trans hj)

/-- Types that are declared elsewhere change no name. -/
theorem Lists.grows (h : Lists typePrefix made r u) (hg : Grows u v) :
    Lists typePrefix made r v where
  faithful := h.faithful.grows hg
  naming := h.naming
  length := h.length
  name i t ht := by
    obtain ⟨hknows, arity, hname⟩ := h.name i t ht
    exact ⟨hg.knows hknows, arity, by rw [hg.name_eq hknows, hname]⟩
  stored := h.stored
  closed template arguments t ht := hg.extends.namedAfter (h.closed template arguments t ht)

/-- Only what the memo stores, the prefix and the index count. -/
theorem Lists.congr (h : Lists typePrefix made r u) (hsound : r'.memo.Sound)
    (hget : ∀ s, r'.memo.get? s = r.memo.get? s) (hnaming : r'.naming.typePrefix = typePrefix)
    (hindex : r'.foundry.nextIndex = r.foundry.nextIndex) : Lists typePrefix made r' u where
  faithful := h.faithful.congr hsound hget
  naming := hnaming
  length := hindex.trans h.length
  name := h.name
  stored names isMutable parent t ht := h.stored names isMutable parent t (by rw [← hget, ht])
  closed template arguments t ht := h.closed template arguments t (by rw [← hget, ht])

/-- A new template is listed under the index that it takes. -/
theorem Lists.concat (h : Lists typePrefix made r u) (hknows : u.Knows t) {arity : Nat}
    (hname : u.name t = r.naming.typeName r.foundry.nextIndex arity) :
    Lists typePrefix (made ++ [t]) { r with foundry := ⟨r.foundry.nextIndex + 1, ()⟩ } u where
  faithful := h.faithful.congr h.faithful.sound fun _ => rfl
  naming := h.naming
  length := by
    rw [List.length_append, ← h.length]
    rfl
  name := by
    refine forall_getElem?_concat h.name ⟨hknows, arity, ?_⟩
    rw [hname, ← h.length, title, ← h.naming]
    rfl
  stored names isMutable parent t' ht' :=
    List.mem_append_left _ (h.stored names isMutable parent t' ht')
  closed := h.closed

/-- A type may be stored if it is listed, as far as it is a template, or else named after its
template. -/
theorem Lists.store (h : Lists typePrefix made r u) {s : Signature}
    (hfaithful : Faithful { r with memo := r.memo.store s t } u)
    (htemplate : ∀ names isMutable parent, s = .template names isMutable parent → t ∈ made)
    (hclosed : ∀ template arguments, s = .closed template arguments → u.NamedAfter t template) :
    Lists typePrefix made { r with memo := r.memo.store s t } u where
  faithful := hfaithful
  naming := h.naming
  length := h.length
  name := h.name
  stored names isMutable parent t' ht' := by
    rw [Memo.get?_store] at ht'
    split at ht'
    · next hs => exact Option.some.inj ht' ▸ htemplate names isMutable parent hs
    · exact h.stored names isMutable parent t' ht'
  closed template arguments t' ht' := by
    rw [Memo.get?_store] at ht'
    split at ht'
    · next hs => exact Option.some.inj ht' ▸ hclosed template arguments hs
    · exact h.closed template arguments t' ht'

/-! ### What calls make of the list -/

theorem Lists.templateFor (h : Lists typePrefix made r u) (names : List String)
    (options : Options) :
    let out := templateFor directBackend r u names options
    ∃ made', made <+: made' ∧ Lists typePrefix made' out.2.1 out.2.2 := by
  intro out
  have hfaithful := (h.faithful.templateFor names options).1
  rcases h.faithful.templateFor_cases names options with
    ⟨t, -, hout⟩ | ⟨e, -, -, hout⟩ | ⟨t, v, hget, -, hgrows, ht, hout⟩
  · rw [show out = _ from hout]
    exact ⟨made, List.prefix_rfl, h.congr h.faithful.sound.hit (fun _ => rfl) h.naming rfl⟩
  · rw [show out = _ from hout]
    exact ⟨made, List.prefix_rfl, h.congr h.faithful.sound.fail (fun _ => rfl) h.naming rfl⟩
  · -- The template is made under the next index, and then stored.
    have hmade : out.1 = .ok ⟨t⟩ := congrArg Prod.fst hout
    obtain ⟨-, ⟨hname, -⟩, -⟩ := templateFor_new h.faithful.sound hget hmade
    rw [hout] at hname hfaithful
    have hlisted := (h.grows hgrows).concat ht.knows hname
    rw [show out = _ from hout]
    refine ⟨made ++ [t], List.prefix_append _ _, hlisted.store hfaithful
      (fun _ _ _ _ => List.mem_append_right _ List.mem_cons_self) nofun⟩

theorem Lists.close (h : Lists typePrefix made r u) (template : Template)
    (arguments : List TypeId) :
    let out := close directBackend r u template arguments
    Lists typePrefix made out.2.1 out.2.2 := by
  intro out
  have hfaithful := (h.faithful.close template arguments).1
  rcases h.faithful.close_cases template arguments with
    ⟨t, -, hout⟩ | ⟨e, -, -, hout⟩ | ⟨t, v, hget, hcheck, hgrows, ht, hout⟩
  · rw [show out = _ from hout]
    exact h.congr h.faithful.sound.hit (fun _ => rfl) h.naming rfl
  · rw [show out = _ from hout]
    exact h.congr h.faithful.sound.fail (fun _ => rfl) h.naming rfl
  · obtain ⟨hname, -⟩ := close_new h.faithful.sound hget (congrArg Prod.fst hout)
    rw [hout] at hname hfaithful
    obtain ⟨l, hl, -⟩ := Universe.exists_layout?_of_checkClosing hcheck
    have htemplate : u.Knows template.type :=
      Universe.knows_of_kind? (Universe.layout?_eq_some_iff.mp hl)
    rw [show out = _ from hout]
    refine (h.grows hgrows).store hfaithful nofun fun template' arguments' hs => ?_
    obtain ⟨rfl, -⟩ := Signature.closed.inj hs
    exact ⟨ht.knows, hgrows.knows htemplate, by rw [hname, hgrows.name_eq htemplate]⟩

/-- A template that is made past the memo is listed, too. -/
theorem Lists.castTemplate (h : Lists typePrefix made r u) (names : List String)
    (isMutable : Bool) (parent : Option TypeId) :
    let out := r.foundry.castTemplate directBackend r.naming names isMutable parent u
    ∃ made', made <+: made' ∧ Lists typePrefix made' { r with foundry := out.2.1 } out.2.2 ∧
      ∀ t, out.1 = .ok t → t ∈ made' := by
  intro out
  rcases Foundry.castTemplate_cases h.faithful.wellFormed r.naming names isMutable parent
    r.foundry with ⟨e, -, hout⟩ | ⟨-, t, v, hout, hgrows, ht⟩
  · rw [show out = _ from hout]
    exact ⟨made, List.prefix_rfl, h, fun t ht => absurd ht nofun⟩
  · obtain ⟨hname, -⟩ := Foundry.name_castTemplate (congrArg Prod.fst hout)
    rw [hout] at hname
    have hlisted := (h.grows hgrows).concat ht.knows hname
    rw [show out = _ from hout]
    refine ⟨made ++ [t], List.prefix_append _ _, hlisted, fun t' ht' => ?_⟩
    obtain rfl : t = t' := Except.ok.inj ht'
    exact List.mem_append_right _ List.mem_cons_self

theorem Lists.castClosed (h : Lists typePrefix made r u) (template : TypeId)
    (arguments : List TypeId) :
    let out := r.foundry.castClosed directBackend template arguments u
    Lists typePrefix made { r with foundry := out.2.1 } out.2.2 := by
  intro out
  rcases Foundry.castClosed_cases h.faithful.wellFormed template arguments r.foundry with
    ⟨e, -, hout⟩ | ⟨-, t, v, hout, hgrows, -⟩
  · rw [show out = _ from hout]
    exact h
  · rw [show out = _ from hout]
    exact h.grows hgrows

/-- Whatever is called, a list goes on and stays one. -/
theorem keptUnder_lists (typePrefix : String) (made : List TypeId) :
    KeptUnder (fun n => n.typePrefix = typePrefix) directBackend fun r u =>
      ∃ made', made <+: made' ∧ Lists typePrefix made' r u where
  templateFor r u names options := by
    rintro ⟨made', hinit, h⟩
    obtain ⟨made'', hinit', h'⟩ := h.templateFor names options
    exact ⟨made'', hinit.trans hinit', h'⟩
  close r u template arguments := by
    rintro ⟨made', hinit, h⟩
    exact ⟨made', hinit, h.close template arguments⟩
  rename r u naming hn := by
    rintro ⟨made', hinit, h⟩
    exact ⟨made', hinit, h.congr h.faithful.sound (fun _ => rfl) hn rfl⟩
  castTemplate r u names isMutable parent := by
    rintro ⟨made', hinit, h⟩
    obtain ⟨made'', hinit', h', -⟩ := h.castTemplate names isMutable parent
    exact ⟨made'', hinit.trans hinit', h'⟩
  castClosed r u template arguments := by
    rintro ⟨made', hinit, h⟩
    exact ⟨made', hinit, h.castClosed template arguments⟩

/-- Whatever is called, a list goes on, and a template that was made past the memo is on it. -/
theorem Lists.perform {w : World} {c : Call} (h : Lists typePrefix made r w.types)
    (hc : c.IsAllowed fun n => n.typePrefix = typePrefix) :
    let out := perform directBackend r w c
    ∃ made', made <+: made' ∧ Lists typePrefix made' out.2.1 out.2.2.types ∧
      ∀ names isMutable parent t, c = .castTemplate names isMutable parent →
        out.1 = .type (.ok t) → t ∈ made' := by
  intro out
  by_cases hcast : ∃ names isMutable parent, c = .castTemplate names isMutable parent
  · obtain ⟨names, isMutable, parent, rfl⟩ := hcast
    obtain ⟨made', hinit, hlisted, hmade⟩ := h.castTemplate names isMutable parent
    exact ⟨made', hinit, hlisted, fun _ _ _ t _ ht => hmade t (Answer.type.inj ht)⟩
  · obtain ⟨made', hinit, hlisted⟩ :=
      (keptUnder_lists typePrefix made).perform ⟨made, List.prefix_rfl, h⟩ c hc
    exact ⟨made', hinit, hlisted, fun names isMutable parent _ hc' _ =>
      absurd ⟨names, isMutable, parent, hc'⟩ hcast⟩

end Lists

/-! ### After a run -/

/-- A template that is closed into a type: by the registry, which stores the type or made it past
the memo, or by the direct backend on behalf of anyone. -/
inductive Closes (history : List Exchange) (r : Registry Unit) (w : World)
    (template t : TypeId) : Prop
  | stored {arguments : List TypeId} (h : r.memo.get? (.closed template arguments) = some t)
  | past {arguments : List TypeId}
      (he : ⟨.castClosed template arguments, .type (.ok t)⟩ ∈ history)
  | elsewhere {u : Universe} {arguments : List TypeId}
      (h : (u.cast (Direct.close u template arguments)).1 = .ok t)
      (hextends : (u.cast (Direct.close u template arguments)).2.Extends w.types)

/-- What a call for a record type hands out was closed from a template of the registry. -/
theorem NamedRun.exists_closes {r : Registry Unit} {fields : Fields TypeId} {options : Options}
    {t : TypeId} (h : NamedRun allowed TypesGrow directBackend history r w)
    (he : ⟨.recordType fields options, .type (.ok t)⟩ ∈ history) :
    ∃ template, IsOwn history r template ∧ Closes history r w template t ∧
      w.types.template? t = some template := by
  obtain ⟨template, htemplate, hclosed⟩ := h.run.remembers.2 _ he
  exact ⟨template, .stored htemplate, .stored hclosed,
    (h.run.faithful.closed _ _ _ hclosed).template?_eq⟩

/-- After every run under names of one prefix, the templates that the registry made can be listed,
and closed types bear the names of their templates. -/
theorem NamedRun.exists_lists {r : Registry Unit}
    (h : NamedRun (fun n => n.typePrefix = typePrefix) TypesGrow directBackend history r w) :
    ∃ made, Lists typePrefix made r w.types ∧ (∀ template, IsOwn history r template →
      template ∈ made) ∧
      ∀ template t, Closes history r w template t → w.types.NamedAfter t template := by
  -- What is stored is told by the list, so that only what was made past the memo is to be followed.
  suffices hpast : ∃ made, Lists typePrefix made r w.types ∧
      (∀ names isMutable parent template,
        ⟨.castTemplate names isMutable parent, .type (.ok template)⟩ ∈ history →
        template ∈ made) ∧
      ∀ template arguments t, ⟨.castClosed template arguments, .type (.ok t)⟩ ∈ history →
        w.types.NamedAfter t template by
    obtain ⟨made, hlisted, htemplates, hclosed⟩ := hpast
    refine ⟨made, hlisted, fun template hown => ?_, fun template t hcloses => ?_⟩
    · cases hown with
      | stored hstored => exact hlisted.stored _ _ _ _ hstored
      | past he => exact htemplates _ _ _ _ he
    · cases hcloses with
      | stored hstored => exact hlisted.closed _ _ _ hstored
      | past he => exact hclosed _ _ _ he
      | elsewhere hcast hextends =>
        exact hextends.namedAfter (Universe.namedAfter_of_cast_close hcast)
  induction h with
  | start _ hn =>
    exact ⟨[], lists_new hn, fun _ _ _ _ he => absurd he List.not_mem_nil,
      fun _ _ _ he => absurd he List.not_mem_nil⟩
  | @call history r w c _ hc ih =>
    obtain ⟨made, hlisted, htemplates, hclosed⟩ := ih
    obtain ⟨made', hinit, hlisted', hmade⟩ := hlisted.perform hc
    have hextends : w.types.Extends (perform directBackend r w c).2.2.types :=
      (kept_types directBackend w.types).perform (r := r) (.refl _) c
    refine ⟨made', hlisted', fun names isMutable parent template he => ?_,
      fun template arguments t he => ?_⟩
    · rcases List.mem_cons.mp he with hnew | hold
      · obtain ⟨hcall, hanswer⟩ := Exchange.mk.inj hnew
        exact hmade names isMutable parent template hcall.symm hanswer.symm
      · exact hinit.subset (htemplates names isMutable parent template hold)
    · rcases List.mem_cons.mp he with hnew | hold
      · obtain ⟨rfl, hanswer⟩ := Exchange.mk.inj hnew
        exact Foundry.namedAfter_castClosed (Answer.type.inj hanswer).symm
      · exact hextends.namedAfter (hclosed template arguments t hold)
  | elsewhere _ hw ih =>
    obtain ⟨made, hlisted, htemplates, hclosed⟩ := ih
    exact ⟨made, hlisted.grows hw, htemplates, fun template arguments t he =>
      (Grows.extends hw).namedAfter (hclosed template arguments t he)⟩

/-- In a run under names of one prefix, whatever it is, the requests for templates that reach the
backend are named by the prefix, their number and their arity.  These names tell the number and
the arity, so no two of them are the same, whether or not the backend answered.  Over the direct
backend, closed types of different templates that the registry made have different names. -/
theorem titles_differ (typePrefix : String) :
    (∀ {σ : Type} {between : World → World → Prop} {b : Backend σ} {history : List Exchange}
      {r : Registry σ} {w : World},
      NamedRun (fun n => n.typePrefix = typePrefix) between b history r w →
      (∃ r', Recording (fun n => n.typePrefix = typePrefix) between b history r' w ∧
        r'.forget = r) ∧
      ∀ r', Recording (fun n => n.typePrefix = typePrefix) between b history r' w →
        r'.forget = r →
        let asked := r'.foundry.record.reverse
        r.foundry.nextIndex = asked.length ∧
        (∀ (i : Nat) a, asked[i]? = some a →
          a.request.name = title typePrefix i a.request.propertyNames.length) ∧
        ∀ (i j : Nat) a a', asked[i]? = some a → asked[j]? = some a' →
          a.request.name = a'.request.name →
          i = j ∧ a.request.propertyNames.length = a'.request.propertyNames.length) ∧
    ∀ {history : List Exchange} {r : Registry Unit} {w : World},
      NamedRun (fun n => n.typePrefix = typePrefix) TypesGrow directBackend history r w →
      ∀ template template' t t', IsOwn history r template → IsOwn history r template' →
        Closes history r w template t → Closes history r w template' t' →
        template ≠ template' → w.types.name t ≠ w.types.name t' := by
  refine ⟨fun h => ?_, fun h template template' t t' hown hown' hcloses hcloses' hne hname => ?_⟩
  · refine ⟨h.exists_recording, ?_⟩
    rintro r' hrecording rfl
    obtain ⟨-, hindex, htitled⟩ := hrecording.kept (keptUnder_titled _ typePrefix)
      fun naming _ hn => ⟨hn, rfl, fun _ _ ha => absurd ha nofun⟩
    refine ⟨?_, htitled, fun i j a a' ha ha' hname => ?_⟩
    · rw [List.length_reverse]
      exact hindex
    · rw [htitled i a ha, htitled j a' ha'] at hname
      exact Naming.title_inj hname
  · obtain ⟨made, hlisted, hmade, hnamed⟩ := h.exists_lists
    obtain ⟨-, -, htitle⟩ := hnamed template t hcloses
    obtain ⟨-, -, htitle'⟩ := hnamed template' t' hcloses'
    rw [htitle, htitle'] at hname
    exact hne (hlisted.name_inj (hmade template hown) (hmade template' hown') hname)

/-- A backend that is busy once is asked twice, under two names, though the prefix ends in a digit
and a mark.  Two record types with one field each have different names, too. -/
theorem titles_differ_after_failure :
    let naming : Naming := { typePrefix := "T1`" }
    let script : Script := { define := [.fail "busy"] }
    let asking := [Call.template ["a"] {}, .template ["a"] {}]
    let fields (name : String) : Fields TypeId := .ofList [(name, .builtin .int32)]
    let making := [Call.recordType (fields "b") {}, .recordType (fields "a") {}]
    (∃ history r' w, Recording (fun n => n.typePrefix = "T1`") (fun _ _ => False) scriptedBackend
        history r' w ∧
      r'.forget = (play scriptedBackend naming script asking).2.1 ∧
      r'.foundry.record.length = 2 ∧
      ∀ (i j : Nat) a a', r'.foundry.record.reverse[i]? = some a →
        r'.foundry.record.reverse[j]? = some a' → a.request.name = a'.request.name → i = j) ∧
    let w := (play directBackend naming () making).2.2
    (play directBackend naming () making).1 =
      [.type (.ok (.declared 5)), .type (.ok (.declared 2))] ∧
    w.types.name (.declared 5) ≠ w.types.name (.declared 2) := by
  intro naming script asking fields making
  have hasking : ∀ c ∈ asking, c.IsAllowed fun n => n.typePrefix = "T1`" := by
    simp [asking, Call.IsAllowed]
  have hmaking : ∀ c ∈ making, c.IsAllowed fun n => n.typePrefix = "T1`" := by
    simp [making, Call.IsAllowed]
  obtain ⟨hrequests, htypes⟩ := titles_differ "T1`"
  constructor
  · have hrun :=
      namedRun_play (fun _ _ => False) scriptedBackend naming script hasking rfl
    obtain ⟨⟨r', hrecording, hforget⟩, hrecorded⟩ := hrequests hrun
    obtain ⟨hlength, -, hnames⟩ := hrecorded r' hrecording hforget
    have hindex : (play scriptedBackend naming script asking).2.1.foundry.nextIndex = 2 := by
      decide +kernel
    rw [List.length_reverse, hindex] at hlength
    exact ⟨_, r', _, hrecording, hforget, hlength.symm,
      fun i j a a' ha ha' hname => (hnames i j a a' ha ha' hname).1⟩
  · intro w
    have hanswers : (play directBackend naming () making).1 =
        [.type (.ok (.declared 5)), .type (.ok (.declared 2))] := by decide +kernel
    refine ⟨hanswers, ?_⟩
    have hrun := namedRun_play TypesGrow directBackend naming () hmaking rfl
    rw [hanswers] at hrun
    obtain ⟨template, hown, hcloses, htemplate⟩ :=
      hrun.exists_closes List.mem_cons_self
    obtain ⟨template', hown', hcloses', htemplate'⟩ :=
      hrun.exists_closes (List.mem_cons_of_mem _ List.mem_cons_self)
    refine htypes hrun template template' _ _ hown hown' hcloses hcloses' fun heq => ?_
    have hne : (play directBackend naming () making).2.2.types.template? (.declared 5) ≠
        (play directBackend naming () making).2.2.types.template? (.declared 2) := by
      decide +kernel
    exact hne (by rw [htemplate, htemplate', heq])

end Registry

end RecordTypes
