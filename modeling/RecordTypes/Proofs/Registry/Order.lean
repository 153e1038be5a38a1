import RecordTypes.Proofs.Naming.Unnamed
import RecordTypes.Proofs.Registry.Tally

/-!
# The order of requests

Requests for templates and for record types may be made in any order (`askAll_perm`): with a new
registry every request is granted or refused as it is in any other order, it is answered with a type
of the same structure, the same requests share a type or a template, and the registry ends up with
the same counts.  Only the identities of types and the indices in their names depend on the order.

Nothing is ever swapped to see that.  Over types that exist beforehand a request alone decides what
it looks up (`TypeRequest.lookups`) and what it is answered with (`TypeRequest.verdict`), so what is
known of the registry afterwards is the tally of all look-ups (`tally_askAll`), in which their order
plays no part.
-/

namespace RecordTypes.Registry

/-! ### Requests -/

/-- A request for a template or for a record type. -/
inductive TypeRequest where
  | template (names : List String) (options : Options)
  | recordType (fields : Fields TypeId) (options : Options)

namespace TypeRequest

def options : TypeRequest → Options
  | template _ options | recordType _ options => options

def fieldTypes : TypeRequest → List TypeId
  | template _ _ => []
  | recordType fields _ => fields.values

/-- The types that a request names exist. -/
structure Exists (q : TypeRequest) (u : Universe) : Prop where
  parent : ∀ p ∈ q.options.parent, u.Knows p
  fieldTypes : ∀ t ∈ q.fieldTypes, u.Knows t

/-- Makes a request. -/
def ask {σ : Type} (b : Backend σ) (r : Registry σ) (u : Universe) :
    TypeRequest → Except Fault TypeId × Registry σ × Universe
  | template names options =>
    let (result, r, u) := Registry.template b r u names options
    (result.map (·.type), r, u)
  | recordType fields options => Registry.recordType b r u fields options

/-- What a request looks up over types that exist, one demand after another; none stands for a
look-up that is refused. -/
def lookups (u : Universe) : TypeRequest → List (Option Demand)
  | template names options =>
    match checkNames names, u.checkDefinition (properParent options.parent) names with
    | .error _, _ => []
    | .ok _, .error _ => [none]
    | .ok _, .ok _ => [some (.template names options)]
  | recordType fields options =>
    match u.checkDefinition (properParent options.parent) fields.names with
    | .error _ => [none]
    | .ok _ =>
      [some (.template fields.names options),
        if fields.values.any u.isOpen then none else some (.closed fields options)]

/-- What a request is to be answered with over types that exist, where faults go without the names
of types. -/
def verdict (u : Universe) : TypeRequest → Except Fault Demand
  | template names options =>
    match checkNames names, u.checkDefinition (properParent options.parent) names with
    | .error e, _ | .ok _, .error e => .error e
    | .ok _, .ok _ => .ok (.template names options)
  | recordType fields options =>
    match u.checkDefinition (properParent options.parent) fields.names with
    | .error e => .error e
    | .ok _ =>
      if fields.values.any u.isOpen then .error (.misuse (.openArgument "" ""))
      else .ok (.closed fields options)

end TypeRequest

/-- A request was answered as its verdict says, with a type that is stored. -/
inductive Settled (m : Memo) : Except Fault Demand → Except Fault TypeId → Prop
  | type {d : Demand} {t : TypeId} (h : find? m d = some t) : Settled m (.ok d) (.ok t)
  | fault {e e' : Fault} (h : e'.unnamed = e.unnamed) : Settled m (.error e) (.error e')

variable {n : Naming} {u₀ u u' : Universe} {r r' : Registry Unit} {m m' : Memo}
  {looked looked' : List (Option Demand)} {q : TypeRequest} {d : Demand} {t t' : TypeId}

theorem Settled.mono {verdict : Except Fault Demand} {result : Except Fault TypeId}
    (h : Settled m verdict result) (hm : m.Extends m') : Settled m' verdict result := by
  cases h with
  | type h => exact .type (find?_mono hm h)
  | fault h => exact .fault h

theorem TypeRequest.Exists.properParent (hq : q.Exists u₀) :
    ∀ p ∈ properParent q.options.parent, u₀.Knows p :=
  fun p hp => hq.parent p (Option.filter_eq_some_iff.mp hp).1

/-- A request for a template adds what it looks up to the tally. -/
theorem Tally.ask_template (h : Tally n u₀ looked r u) {names : List String} {options : Options}
    (hq : (TypeRequest.template names options).Exists u₀) :
    let q := TypeRequest.template names options
    let out := q.ask directBackend r u
    Tally n u₀ (looked ++ q.lookups u₀) out.2.1 out.2.2 ∧
      Settled out.2.1.memo (q.verdict u₀) out.1 := by
  have hparent : ∀ p ∈ properParent options.parent, u₀.Knows p := hq.properParent
  dsimp only [TypeRequest.ask, TypeRequest.lookups, TypeRequest.verdict, Registry.template]
  rcases hnames : checkNames names with e | _
  · -- Repeated names are refused before anything is looked up.
    dsimp only
    rw [List.append_nil]
    exact ⟨h, .fault rfl⟩
  · rcases hcheck : u₀.checkDefinition (properParent options.parent) names with e | _
    · rw [h.templateFor_error hparent hcheck]
      exact ⟨h.fail, .fault rfl⟩
    · obtain ⟨template, r', v, hout, htally, hfind⟩ := h.templateFor hparent hcheck
      rw [hout]
      exact ⟨htally, .type hfind⟩

/-- A request for a record type adds what it looks up to the tally. -/
theorem Tally.ask_recordType (h : Tally n u₀ looked r u) {fields : Fields TypeId}
    {options : Options} (hq : (TypeRequest.recordType fields options).Exists u₀) :
    let q := TypeRequest.recordType fields options
    let out := q.ask directBackend r u
    Tally n u₀ (looked ++ q.lookups u₀) out.2.1 out.2.2 ∧
      Settled out.2.1.memo (q.verdict u₀) out.1 := by
  have hparent : ∀ p ∈ properParent options.parent, u₀.Knows p := hq.properParent
  dsimp only [TypeRequest.ask, TypeRequest.lookups, TypeRequest.verdict, Registry.recordType]
  rcases hcheck : u₀.checkDefinition (properParent options.parent) fields.names with e | _
  · rw [h.templateFor_error hparent hcheck]
    exact ⟨h.fail, .fault rfl⟩
  · obtain ⟨template, r₁, u₁, hout, h₁, htemplate⟩ := h.templateFor hparent hcheck
    rw [hout]
    dsimp only
    by_cases hopen : fields.values.any u₀.isOpen = true
    · -- The template stays stored, though the request for the record type is refused.
      rw [if_pos hopen, if_pos hopen]
      obtain ⟨a, hclose⟩ := h₁.close_error (d := .closed fields options) htemplate rfl
        fields.length_values hq.fieldTypes (List.any_eq_true.mp hopen)
      rw [hclose]
      have hunnamed (argument template : String) :
          (Fault.misuse (.openArgument argument template)).unnamed =
            .misuse (.openArgument "" "") := rfl
      have htally := h₁.fail
      rw [List.append_assoc] at htally
      exact ⟨htally, .fault (hunnamed _ _)⟩
    · rw [if_neg hopen, if_neg hopen]
      have hclosed : ∀ a ∈ fields.values, u₀.isOpen a = false := by
        simpa using hopen
      have hgranted : (Demand.closed fields options).Granted u₀ := by
        refine ⟨hcheck, hparent, ?_⟩
        rintro _ ⟨⟩
        exact ⟨fields.length_values, fun a ha => ⟨hq.fieldTypes a ha, hclosed a ha⟩⟩
      obtain ⟨t, r₂, u₂, hclose, htally, hfind⟩ :=
        h₁.close (d := .closed fields options) htemplate rfl hgranted
      rw [hclose]
      rw [List.append_assoc] at htally
      exact ⟨htally, .type hfind⟩

theorem Tally.ask (h : Tally n u₀ looked r u) (hq : q.Exists u₀) :
    let out := q.ask directBackend r u
    Tally n u₀ (looked ++ q.lookups u₀) out.2.1 out.2.2 ∧
      Settled out.2.1.memo (q.verdict u₀) out.1 := by
  cases q with
  | template names options => exact h.ask_template hq
  | recordType fields options => exact h.ask_recordType hq

/-- A request takes nothing from the memo. -/
theorem TypeRequest.extends_ask (q : TypeRequest) (hr : r.memo.Sound) (u : Universe) :
    r.memo.Extends (q.ask directBackend r u).2.1.memo := by
  have hkept := kept_extends directBackend r.memo
  cases q with
  | template names options => exact (hkept.template (u := u) ⟨hr, .refl _⟩ names options).2
  | recordType fields options => exact (hkept.recordType (u := u) ⟨hr, .refl _⟩ fields options).2

/-! ### Requests one after another -/

/-- What requests came to: the result of each, in the order in which they were made, and what they
left behind. -/
structure Replies (σ : Type) where
  results : List (TypeRequest × Except Fault TypeId)
  registry : Registry σ
  types : Universe

/-- Makes requests one after another. -/
def askAll {σ : Type} (b : Backend σ) (r : Registry σ) (u : Universe) :
    List TypeRequest → Replies σ
  | [] => ⟨[], r, u⟩
  | q :: rest =>
    let (result, r, u) := q.ask b r u
    let out := askAll b r u rest
    { out with results := (q, result) :: out.results }

theorem askAll_cons {σ : Type} (b : Backend σ) (r : Registry σ) (u : Universe) (q : TypeRequest)
    (rest : List TypeRequest) :
    askAll b r u (q :: rest) =
      let first := q.ask b r u
      let out := askAll b first.2.1 first.2.2 rest
      { out with results := (q, first.1) :: out.results } := rfl

/-- Whatever the backend, every request has a result, in order. -/
theorem map_fst_results {σ : Type} (b : Backend σ) (r : Registry σ) (u : Universe)
    (asked : List TypeRequest) : (askAll b r u asked).results.map Prod.fst = asked := by
  induction asked generalizing r u with
  | nil => rfl
  | cons q rest ih => exact congrArg (q :: ·) (ih _ _)

/-- The look-ups of all requests add up to the tally, and every request was answered as its verdict
says. -/
theorem tally_askAll (h : Tally n u₀ looked r u) {asked : List TypeRequest}
    (hasked : ∀ q ∈ asked, q.Exists u₀) :
    let out := askAll directBackend r u asked
    Tally n u₀ (looked ++ asked.flatMap (·.lookups u₀)) out.registry out.types ∧
      r.memo.Extends out.registry.memo ∧
      ∀ x ∈ out.results, Settled out.registry.memo (x.1.verdict u₀) x.2 := by
  induction asked generalizing looked r u with
  | nil =>
    rw [List.flatMap_nil, List.append_nil]
    exact ⟨h, .refl _, fun x hx => absurd hx List.not_mem_nil⟩
  | cons q rest ih =>
    obtain ⟨hq, hrest⟩ := List.forall_mem_cons.mp hasked
    obtain ⟨htally, hsettled⟩ := h.ask hq
    have hextends := q.extends_ask h.faithful.sound u
    rw [askAll_cons]
    generalize q.ask directBackend r u = first at htally hsettled hextends ⊢
    obtain ⟨htally', hextends', hsettled'⟩ := ih htally hrest
    rw [List.append_assoc, ← List.flatMap_cons] at htally'
    refine ⟨htally', hextends.trans hextends', ?_⟩
    -- What was stored for the first request stays stored.
    intro x hx
    rcases List.mem_cons.mp hx with rfl | hx
    · exact hsettled.mono hextends'
    · exact hsettled' x hx

/-! ### Types that differ in their identities -/

/-- Two types, each of a universe of its own, differ in nothing but identities and the indices in
their names. -/
structure Resembles (n : Naming) (u : Universe) (t : TypeId) (u' : Universe) (t' : TypeId) :
    Prop where
  outline : ∃ l l', u.layout? t = some l ∧ u'.layout? t' = some l' ∧ l'.outline = l.outline
  name : ∃ i j arity suffix,
    (u.name t = n.typeName i arity ∧ u.fullName t = n.typeName i arity ++ suffix) ∧
    u'.name t' = n.typeName j arity ∧ u'.fullName t' = n.typeName j arity ++ suffix
  /-- A template has type parameters of the same names; a closed type has none. -/
  parameters : (u'.parameters t').map u'.entry? = (u.parameters t).map u.entry?

/-- What two registries store for one demand differs in nothing but identities and indices. -/
theorem Tally.resembles (hu : u₀.WellFormed) (h : Tally n u₀ looked r u)
    (h' : Tally n u₀ looked' r' u') (ht : find? r.memo d = some t)
    (ht' : find? r'.memo d = some t') : Resembles n u t u' t' := by
  have hgranted := h.granted d ((h.stored d).mp ⟨t, ht⟩)
  have hmembers : u'.membersOver d.parent = u.membersOver d.parent :=
    (h'.grows.membersOver_eq hu hgranted.parent).trans
      (h.grows.membersOver_eq hu hgranted.parent).symm
  have hmeets := h.faithful.meets_of_find? ht
  have hmeets' := h'.faithful.meets_of_find? ht'
  obtain ⟨l, hl, houtline⟩ := hmeets.exists_outline
  obtain ⟨l', hl', houtline'⟩ := hmeets'.exists_outline
  rw [hmembers, ← houtline] at houtline'
  obtain ⟨i, hi⟩ := (h.named d t ht).name
  obtain ⟨j, hj⟩ := (h'.named d t' ht').name
  refine ⟨⟨l, l', hl, hl', houtline'⟩, ⟨i, j, _, _, hi, hj⟩, ?_⟩
  cases hd : d.arguments with
  | none => exact ((h'.named d t' ht').parameters hd).trans ((h.named d t ht).parameters hd).symm
  | some arguments =>
    rw [hmeets.parameters_eq_nil hd, hmeets'.parameters_eq_nil hd]
    rfl

/-! ### Replies that differ in the order of requests -/

/-- Two results of one request: types of the same structure, or faults that are the same but for the
names of types. -/
inductive SameResult (n : Naming) (u u' : Universe) :
    Except Fault TypeId → Except Fault TypeId → Prop
  | type {t t' : TypeId} (h : Resembles n u t u' t') : SameResult n u u' (.ok t) (.ok t')
  | fault {e e' : Fault} (h : e'.unnamed = e.unnamed) : SameResult n u u' (.error e) (.error e')

/-- Two lots of replies to the same requests differ in nothing but identities, the indices in names,
and the order of the results. -/
structure Replies.Matches (n : Naming) (out out' : Replies Unit) : Prop where
  results : ∀ q result result', (q, result) ∈ out.results → (q, result') ∈ out'.results →
    SameResult n out.types out'.types result result'
  /-- The same requests share a type, and the same requests share a template. -/
  shared : ∀ q₁ q₂ t₁ t₂ t₁' t₂', (q₁, .ok t₁) ∈ out.results → (q₂, .ok t₂) ∈ out.results →
    (q₁, .ok t₁') ∈ out'.results → (q₂, .ok t₂') ∈ out'.results →
    (t₁ = t₂ ↔ t₁' = t₂') ∧
    (out.types.template? t₁ = out.types.template? t₂ ↔
      out'.types.template? t₁' = out'.types.template? t₂')
  length : out'.registry.memo.length = out.registry.memo.length
  hits : out'.registry.memo.hits = out.registry.memo.hits
  misses : out'.registry.memo.misses = out.registry.memo.misses
  failures : out'.registry.memo.failures = out.registry.memo.failures
  /-- As many templates were made. -/
  nextIndex : out'.registry.foundry.nextIndex = out.registry.foundry.nextIndex

/-- A type that answers a request is stored for the demand of the verdict. -/
theorem Settled.exists_demand {verdict : Except Fault Demand} (h : Settled m verdict (.ok t)) :
    ∃ d, verdict = .ok d ∧ find? m d = some t := by
  cases h with
  | type h => exact ⟨_, rfl, h⟩

/-- Results that answer one verdict are the same but for identities and indices. -/
theorem Tally.sameResult (hu : u₀.WellFormed) (h : Tally n u₀ looked r u)
    (h' : Tally n u₀ looked' r' u') {verdict : Except Fault Demand}
    {result result' : Except Fault TypeId} (hsettled : Settled r.memo verdict result)
    (hsettled' : Settled r'.memo verdict result') : SameResult n u u' result result' := by
  cases hsettled with
  | type ht =>
    cases hsettled' with
    | type ht' => exact .type (h.resembles hu h' ht ht')
  | fault he =>
    cases hsettled' with
    | fault he' => exact .fault (he'.trans he.symm)

/-- Two tallies of the same look-ups in any order have the same counts. -/
theorem Tally.counts_eq (h : Tally n u₀ looked r u) (h' : Tally n u₀ looked' r' u')
    (horder : looked.Perm looked') :
    r'.memo.length = r.memo.length ∧ r'.memo.hits = r.memo.hits ∧
    r'.memo.misses = r.memo.misses ∧ r'.memo.failures = r.memo.failures ∧
    r'.foundry.nextIndex = r.foundry.nextIndex := by
  have hdemands : demands looked' = demands looked := (demands_perm horder).symm
  have hlength : r'.memo.length = r.memo.length := by rw [h'.length, h.length, hdemands]
  have hmisses : r'.memo.misses = r.memo.misses := by rw [h'.misses, h.misses, hdemands]
  have hfailures : r'.memo.failures = r.memo.failures := by
    rw [h'.failures, h.failures, horder.count_eq]
  have hnextIndex : r'.foundry.nextIndex = r.foundry.nextIndex := by
    rw [h'.nextIndex, h.nextIndex, templateCount, templateCount, hdemands]
  -- What was neither built nor refused was answered from store.
  have hhits : r'.memo.hits = r.memo.hits := by
    have hcalls := h.calls
    have hcalls' := h'.calls
    have hsame := horder.length_eq
    omega
  exact ⟨hlength, hhits, hmisses, hfailures, hnextIndex⟩

/-- Requests over types that exist may be made in any order. -/
theorem askAll_perm (n : Naming) {u : Universe} (hu : u.WellFormed)
    {asked asked' : List TypeRequest} (horder : asked.Perm asked')
    (hasked : ∀ q ∈ asked, q.Exists u) :
    let out := askAll directBackend (new n ()) u asked
    let out' := askAll directBackend (new n ()) u asked'
    out.results.map Prod.fst = asked ∧ out'.results.map Prod.fst = asked' ∧
      out.Matches n out' := by
  intro out out'
  have hasked' : ∀ q ∈ asked', q.Exists u := fun q hq => hasked q (horder.mem_iff.mpr hq)
  obtain ⟨h, -, hsettled⟩ := tally_askAll (tally_new n hu) hasked
  obtain ⟨h', -, hsettled'⟩ := tally_askAll (tally_new n hu) hasked'
  rw [List.nil_append] at h h'
  have hlooked := horder.flatMap fun q _ => List.Perm.refl (q.lookups u)
  obtain ⟨hlength, hhits, hmisses, hfailures, hnextIndex⟩ := h.counts_eq h' hlooked
  refine ⟨map_fst_results _ _ _ asked, map_fst_results _ _ _ asked', ?_, ?_, hlength, hhits,
    hmisses, hfailures, hnextIndex⟩
  · intro q result result' hq hq'
    exact h.sameResult hu h' (hsettled _ hq) (hsettled' _ hq')
  · intro q₁ q₂ t₁ t₂ t₁' t₂' h₁ h₂ h₁' h₂'
    obtain ⟨d₁, hd₁, ht₁⟩ := (hsettled _ h₁).exists_demand
    obtain ⟨d₂, hd₂, ht₂⟩ := (hsettled _ h₂).exists_demand
    -- In either order the verdict, and with it the demand, is that of the request.
    obtain ⟨d₁', hd₁', ht₁'⟩ := (hsettled' _ h₁').exists_demand
    obtain ⟨d₂', hd₂', ht₂'⟩ := (hsettled' _ h₂').exists_demand
    obtain rfl := Except.ok.inj (hd₁.symm.trans hd₁')
    obtain rfl := Except.ok.inj (hd₂.symm.trans hd₂')
    constructor
    · rw [h.faithful.eq_iff_demand_eq ht₁ ht₂, h'.faithful.eq_iff_demand_eq ht₁' ht₂']
    · rw [h.faithful.template?_eq_iff ht₁ ht₂, h'.faithful.template?_eq_iff ht₁' ht₂']

/-- Of these requests the first is refused after its template was made, and the others are granted,
also in the other order, where the refused one finds the template made already. -/
theorem askAll_perm_reverse :
    let u := Universe.add {} ⟨"T", .parameter 0⟩
    let asked : List TypeRequest :=
      [.recordType ⟨[("a", .declared 0)], by decide⟩ {}, .template ["a"] {},
        .recordType ⟨[("a", .builtin .int32)], by decide⟩ {}]
    let out := askAll directBackend (new .standard ()) u asked
    let out' := askAll directBackend (new .standard ()) u asked.reverse
    u.WellFormed ∧ asked.Perm asked.reverse ∧ (∀ q ∈ asked, q.Exists u) ∧
      (out.results.map Prod.fst = asked ∧ out'.results.map Prod.fst = asked.reverse ∧
        out.Matches .standard out') ∧
      out.results.map (fun reply => reply.2.isOk) = [false, true, true] ∧
      out'.results.map (fun reply => reply.2.isOk) = [true, true, false] := by
  intro u asked out out'
  have hu : u.WellFormed := Universe.wellFormed_empty.add trivial
  have horder : asked.Perm asked.reverse := asked.reverse_perm.symm
  have hparent : ∀ p ∈ (none : Option TypeId), u.Knows p :=
    fun p hp => absurd hp (Option.not_mem_none p)
  have hasked : ∀ q ∈ asked, q.Exists u := by
    intro q hq
    rcases List.mem_cons.mp hq with rfl | hq
    · exact ⟨hparent, List.forall_mem_singleton.mpr rfl⟩
    rcases List.mem_cons.mp hq with rfl | hq
    · exact ⟨hparent, fun t ht => absurd ht List.not_mem_nil⟩
    · obtain rfl := List.mem_singleton.mp hq
      exact ⟨hparent, List.forall_mem_singleton.mpr rfl⟩
  exact ⟨hu, horder, hasked, askAll_perm .standard hu horder hasked, by decide +kernel,
    by decide +kernel⟩

end RecordTypes.Registry
