import RecordTypes.Proofs.Memo.Basic

/-!
# Runs of requests to a memo

A `Run` begins with an empty memo and makes requests one after another, each with a signature and a
build of its own that may succeed, fail and look at the memo.  Its history has an event per request,
the newest first, which says what came of the request and whether the build was run.  After every
run the history says all there is to know of the memo (`Accounts`): a type is stored for a signature
exactly if an earlier request for that signature was answered with it, and every request was
counted once, as a hit, a miss or a failure.
-/

namespace RecordTypes.Memo

/-- A request: a signature, and the build to run if nothing is stored for it. -/
structure Call (σ : Type) where
  signature : Signature
  build : Memo → σ → Except Fault TypeId × σ

/-- A build that leaves a mark when it is run, and else does what it did. -/
def Call.marked {σ : Type} (c : Call σ) (m : Memo) (state : σ × Bool) :
    Except Fault TypeId × σ × Bool :=
  ((c.build m state.1).1, (c.build m state.1).2, true)

/-- Whether a request has its build run: a build that leaves a mark leaves it. -/
def runs {σ : Type} (m : Memo) (c : Call σ) (state : σ) : Bool :=
  (m.resolve c.signature c.marked (state, false)).2.2.2

/-- What came of a request. -/
structure Event where
  signature : Signature
  result : Except Fault TypeId
  /-- Whether the build was run. -/
  ran : Bool

/-- Makes a request. -/
def serve {σ : Type} (m : Memo) (c : Call σ) (state : σ) : Event × Memo :=
  let (result, m', _) := m.resolve c.signature c.build state
  (⟨c.signature, result, m.runs c state⟩, m')

/-- Requests made one after another, beginning with an empty memo.  The states that the builds run
on are arbitrary, since anything may happen outside of the memo between two requests. -/
inductive Run : List Event → Memo → Prop
  | start : Run [] {}
  | call {σ : Type} {history : List Event} {m : Memo} (c : Call σ) (state : σ)
      (h : Run history m) : Run ((m.serve c state).1 :: history) (m.serve c state).2

/-- A request for a signature was answered with a type. -/
def Made (history : List Event) (s : Signature) (t : TypeId) : Prop :=
  ∃ e ∈ history, e.signature = s ∧ e.result = .ok t

theorem made_cons {e : Event} {history : List Event} {s : Signature} {t : TypeId} :
    Made (e :: history) s t ↔ (e.signature = s ∧ e.result = .ok t) ∨ Made history s t := by
  simp [Made]

/-- The history of a memo says what it stores and what it counted. -/
structure Accounts (history : List Event) (m : Memo) : Prop where
  sound : m.Sound
  stored : ∀ s t, m.get? s = some t ↔ Made history s t
  misses : m.misses = m.length
  calls : m.hits + m.misses + m.failures = history.length

/-! ### One request -/

section Request

variable {σ : Type} {m : Memo}

/-- The build is run exactly if nothing is stored. -/
theorem Sound.runs_iff (hm : m.Sound) (c : Call σ) (state : σ) :
    m.runs c state = true ↔ m.get? c.signature = none := by
  rw [runs]
  rcases hm.resolve_cases c.signature c.marked (state, false) with
    ⟨t, hget, hres⟩ | ⟨t, state', hget, hbuild, hres⟩ | ⟨e, state', hget, hbuild, hres⟩
  · simp [hget, hres]
  · have hmark : state'.2 = true := by rw [← congrArg (·.2.2) hbuild]; rfl
    simp [hget, hres, hmark]
  · have hmark : state'.2 = true := by rw [← congrArg (·.2.2) hbuild]; rfl
    simp [hget, hres, hmark]

/-- If the build is run, the result and the state after it are those of the build, run once. -/
theorem Sound.resolve_of_runs (hm : m.Sound) {c : Call σ} {state : σ}
    (h : m.runs c state = true) :
    ((m.resolve c.signature c.build state).1, (m.resolve c.signature c.build state).2.2) =
      c.build (m.mark c.signature) state := by
  rw [hm.runs_iff] at h
  rcases hm.resolve_cases c.signature c.build state with
    ⟨t, hget, hres⟩ | ⟨t, state', -, hbuild, hres⟩ | ⟨e, state', -, hbuild, hres⟩
  · simp [h] at hget
  · rw [hres, hbuild]
  · rw [hres, hbuild]

/-- A request that fails has had its build run, and changes nothing but the count of failures. -/
theorem Sound.runs_of_resolve_eq_error (hm : m.Sound) {c : Call σ} {state : σ} {e : Fault}
    (h : (m.resolve c.signature c.build state).1 = .error e) :
    m.runs c state = true ∧ (m.resolve c.signature c.build state).2.1 = m.fail := by
  rw [hm.runs_iff]
  rcases hm.resolve_cases c.signature c.build state with
    ⟨t, hget, hres⟩ | ⟨t, state', hget, -, hres⟩ | ⟨e', state', hget, -, hres⟩
  · simp [hres] at h
  · simp [hres] at h
  · exact ⟨hget, by rw [hres]⟩

/-- One request keeps the accounts: each way it can end is counted once, and only a build that
succeeds stores anything. -/
theorem Accounts.serve {history : List Event} (hm : Accounts history m) (c : Call σ) (state : σ) :
    Accounts ((m.serve c state).1 :: history) (m.serve c state).2 := by
  rcases hm.sound.resolve_cases c.signature c.build state with
    ⟨t, hget, hres⟩ | ⟨t, state', hget, -, hres⟩ | ⟨e, state', hget, -, hres⟩
  · -- A hit repeats what the history says already.
    rw [Memo.serve, hres]
    refine ⟨hm.sound.hit, fun s t' => ?_, hm.misses, ?_⟩
    · rw [get?_hit, made_cons, ← hm.stored]
      constructor
      · exact .inr
      · rintro (⟨rfl, hok⟩ | h)
        · rw [← Except.ok.inj hok]
          exact hget
        · exact h
    · simp only [hit, List.length_cons, ← hm.calls]
      omega
  · -- A success is the first one for its signature, or it would have been a hit.
    rw [Memo.serve, hres]
    refine ⟨hm.sound.store hget t, fun s t' => ?_, ?_, ?_⟩
    · rw [get?_store, made_cons, ← hm.stored]
      by_cases hs : c.signature = s
      · subst hs
        simp [hget]
      · simp [hs]
    · simp only [store, length, List.length_cons]
      rw [hm.misses, length]
    · simp only [store, List.length_cons, ← hm.calls]
      omega
  · -- A failure is an event, but not one that the stored types are told by.
    rw [Memo.serve, hres]
    refine ⟨hm.sound.fail, fun s t' => ?_, hm.misses, ?_⟩
    · rw [get?_fail, made_cons, ← hm.stored]
      simp
    · simp only [fail, List.length_cons, ← hm.calls]
      omega

end Request

/-! ### Whole runs -/

theorem Run.accounts {history : List Event} {m : Memo} (h : Run history m) :
    Accounts history m := by
  induction h with
  | start => exact ⟨sound_empty, by simp [get?, entry?, Made], rfl, rfl⟩
  | call c state _ ih => exact ih.serve c state

/-- After every run no signature is stored twice, the builds that succeeded are as many as the types
stored, and every request was counted once.  A request made then has its build run exactly if no
request for its signature succeeded so far, and what the build comes to is what the request comes
to.  If one did succeed, the request is answered with the type of that one, which is stored.  No
entry of another signature is in the way of any request: a request fails only if its build is run,
with the fault of the build, and then nothing that is stored or known of any signature changes, so
that the next request has its build run again. -/
theorem Run.answers {history : List Event} {m : Memo} (h : Run history m) :
    (m.entries.map (·.signature)).Nodup ∧ m.misses = m.length ∧
    m.hits + m.misses + m.failures = history.length ∧
    (∀ s e, m.peek s ≠ .error e) ∧
    ∀ {σ : Type} (c : Call σ) (state : σ),
      let after := (m.resolve c.signature c.build state).2.1
      (m.runs c state = true ↔ ∀ t, ¬ Made history c.signature t) ∧
      (m.runs c state = true →
        ((m.resolve c.signature c.build state).1, (m.resolve c.signature c.build state).2.2) =
          c.build (m.mark c.signature) state) ∧
      (∀ t, Made history c.signature t →
        m.resolve c.signature c.build state = (.ok t, m.hit, state) ∧
        m.get? c.signature = some t ∧ m.state c.signature = .present) ∧
      (∀ e, (m.resolve c.signature c.build state).1 = .error e →
        m.runs c state = true ∧ after.entries = m.entries ∧ after.length = m.length ∧
        (∀ s, after.state s = m.state s) ∧
        ∀ {τ : Type} (d : Call τ) (state' : τ), d.signature = c.signature →
          after.runs d state' = true) := by
  have hm := h.accounts
  refine ⟨hm.sound.nodup, hm.misses, hm.calls, fun s e => ?_, fun c state => ⟨?_, ?_, ?_, ?_⟩⟩
  · rw [hm.sound.peek_eq_get?]
    exact nofun
  · rw [hm.sound.runs_iff, Option.eq_none_iff_forall_ne_some]
    exact forall_congr' fun t => not_congr (hm.stored _ t)
  · exact hm.sound.resolve_of_runs
  · intro t hmade
    have hget := (hm.stored _ _).mpr hmade
    exact ⟨hm.sound.resolve_of_get?_eq_some hget, hget, hm.sound.state_of_get?_eq_some hget⟩
  · intro e he
    obtain ⟨hruns, hfail⟩ := hm.sound.runs_of_resolve_eq_error he
    rw [hfail]
    refine ⟨hruns, rfl, rfl, fun s => rfl, fun d state' hd => ?_⟩
    rw [hm.sound.runs_iff] at hruns
    rw [hm.sound.fail.runs_iff, hd, get?_fail, hruns]

/-- A request whose build has a known outcome. -/
def Call.fixed (s : Signature) (result : Except Fault TypeId) : Call Unit :=
  ⟨s, fun _ state => (result, state)⟩

/-- A build that fails is run again by the next request, and its success answers the one after. -/
theorem Run.answers_after_retry :
    let s : Signature := .template ["a"] false none
    let refused := Call.fixed s (.error (.backend "busy"))
    let granted := Call.fixed s (.ok (.declared 0))
    let first := serve {} refused ()
    let second := serve first.2 granted ()
    Run [second.1, first.1] second.2 ∧ first.1.result = .error (.backend "busy") ∧
    first.1.ran = true ∧ second.1.ran = true ∧ second.2.runs refused () = false ∧
    second.2.resolve s refused.build () = (.ok (.declared 0), second.2.hit, ()) := by
  intro s refused granted first second
  have h : Run [second.1, first.1] second.2 := .call granted () (.call refused () .start)
  have hmade : Made [second.1, first.1] s (.declared 0) := ⟨second.1, by simp, rfl, rfl⟩
  obtain ⟨-, -, -, -, hcalls⟩ := Run.answers h
  obtain ⟨hruns, -, hstored, -⟩ := hcalls refused ()
  refine ⟨h, rfl, rfl, rfl, ?_, (hstored _ hmade).1⟩
  rw [Bool.eq_false_iff, ne_eq, hruns]
  exact fun hnone => hnone _ hmade

end RecordTypes.Memo
