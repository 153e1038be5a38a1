import RecordTypes.Proofs.Registry.Session

/-!
# Objects of a session

At any point of a session an object can be made from any values that exist, and it shows exactly
these values (`Session.exists_object`).  Two objects made at any two points are equal if and only if
they were made with the same names and of equal values, and then they have one type and one hash
code (`Session.same?_made_iff`).
-/

namespace RecordTypes

theorem Tree.nodeText_eq (names texts : List String) :
    nodeText names texts =
      if texts.isEmpty then "\x7b \x7d" else
        "\x7b " ++ ", ".intercalate (names.zipWith (fun n t => n ++ " = " ++ t) texts) ++
          " \x7d" := by
  cases texts <;> rfl

namespace Registry

variable {history : List Exchange} {r : Registry Unit} {w : World} {values values' : Fields Value}
  {made made' : InstanceId}

/-- Making an object never fails.  The object has the values as its fields, in their order, and a
property of the type of each, or of type `Object` for null.  Reading gives the value of a name, and
for any other name a fault.  The text lists the names with the texts that the values have. -/
theorem Session.exists_object (h : Session history r w)
    (hheld : ∀ v ∈ values.values, w.heap.Holds v) :
    ∃ made r' w', object directBackend r w values none = (.ok made, r', w') ∧
      w'.fields made = values.entries ∧
      (∀ name v, values.get? name = some v → w'.read made name = .ok v) ∧
      (∀ name, name ∉ values.names →
        w'.read made name = .error (.unknownProperty (w'.ownerName made) name)) ∧
      (w'.types.properties (w'.heap.cell made).type).map (fun p => (p.name, p.type)) =
        values.entries.map (fun entry => (entry.1, (w.heap.typeOf? entry.2).getD .object)) ∧
      ((∀ v ∈ values.values, w.heap.Acyclic v) →
        ∃ texts, values.values.mapM w.text? = some texts ∧
          values.values.mapM w'.text? = some texts ∧
          w'.text? (.ref made) = some (if values.isEmpty then "\x7b \x7d" else
            "\x7b " ++ ", ".intercalate (values.names.zipWith (fun n t => n ++ " = " ++ t) texts) ++
              " \x7d")) := by
  obtain ⟨made, r', w', hout, hmade, hr', hw', hgrows, hextends⟩ :=
    h.faithful.make_eq_ok h.sound hheld
  refine ⟨made, r', w', hout, hmade.fields_eq hr', ?_, ?_, ?_, ?_⟩
  · intro name v hv
    rw [World.read, hmade.slot?_eq hr', hv]
  · intro name hname
    rw [World.read, hmade.slot?_eq hr', Fields.get?_eq_none_iff.mpr hname]
  · rw [hmade.map_properties hr']
    apply List.map_congr_left
    intro entry hentry
    have hentry' : w.heap.Holds entry.2 := hheld entry.2 (List.mem_map_of_mem hentry)
    rw [slotType, (World.evolves_of_extends hgrows hextends).typeOf?_eq hentry']
  · intro hacyclic
    obtain ⟨texts, htexts⟩ := Option.isSome_iff_exists.mp
      (isSome_mapM_iff.mpr fun v hv => World.isSome_text?_iff.mpr (hacyclic v hv))
    -- Making the object changed no text.
    have htexts' : values.values.mapM w'.text? = some texts := by
      rw [← htexts]
      exact mapM_congr fun v hv => h.sound.text?_eq hgrows hextends (hheld v hv) (hacyclic v hv)
    have hlength : values.entries.length = texts.length := by
      simpa [Fields.values] using congrArg List.length (mapM_eq_some_iff.mp htexts)
    have hempty : texts.isEmpty = values.isEmpty := by
      rw [Fields.isEmpty, Bool.eq_iff_iff, List.isEmpty_iff_length_eq_zero,
        List.isEmpty_iff_length_eq_zero, hlength]
    refine ⟨texts, htexts, htexts', ?_⟩
    rw [hmade.text?_eq hr', htexts', Option.map_some, Tree.nodeText_eq, hempty]

/-- An object over another one, with null in its second slot. -/
theorem Session.exists_object_over_object :
    let inner : Call := .object ⟨[("x", .scalar (.int32 1))], List.nodup_singleton _⟩ none
    let values : Fields Value := ⟨[("a", .ref ⟨0⟩), ("b", .null)], by decide⟩
    ∃ r w, Session [⟨inner, .object (.ok ⟨0⟩)⟩] r w ∧
      (∀ v ∈ values.values, w.heap.Holds v) ∧ (∀ v ∈ values.values, w.heap.Acyclic v) ∧
      ∃ made r' w', object directBackend r w values none = (.ok made, r', w') ∧
        w'.fields made = values.entries ∧ w'.read made "b" = .ok .null ∧
        w'.text? (.ref made) = some "\x7b a = \x7b x = 1 \x7d, b =  \x7d" := by
  intro inner values
  have h := Session.play_cons [] (.start .standard) (show inner.ValuesExist {} by
    simp [inner, Call.ValuesExist, Fields.values, Heap.Holds])
  have hanswers : (play directBackend .standard () [inner]).1 = [.object (.ok ⟨0⟩)] := by
    decide +kernel
  have hsize : (play directBackend .standard () [inner]).2.2.heap.cells.size = 1 := by
    decide +kernel
  have htexts : values.values.mapM (play directBackend .standard () [inner]).2.2.text? =
      some ["\x7b x = 1 \x7d", ""] := by decide +kernel
  rw [hanswers] at h
  generalize play directBackend .standard () [inner] = out at h hsize htexts
  have hheld : ∀ v ∈ values.values, out.2.2.heap.Holds v := by
    simp [values, Fields.values, Heap.Holds, hsize]
  have hacyclic : ∀ v ∈ values.values, out.2.2.heap.Acyclic v := by
    intro v hv
    rw [← World.isSome_text?_iff]
    exact isSome_mapM_iff.mp (Option.isSome_iff_exists.mpr ⟨_, htexts⟩) v hv
  obtain ⟨made, r', w', hmade, hfields, hread, -, -, htext⟩ := Session.exists_object h hheld
  obtain ⟨texts, htexts', -, htext⟩ := htext hacyclic
  obtain rfl := Option.some.inj (htexts.symm.trans htexts')
  exact ⟨_, _, h, hheld, hacyclic, made, r', w', hmade, hfields, hread "b" .null rfl, htext⟩

/-- Objects made at any two points of a session are equal, at any later point, if and only if they
were made with the same names in the same order and of values that are equal in order at that point.
Equal objects have one type and one hash code. -/
theorem Session.same?_made_iff (h : Session history r w)
    (he : ⟨.object values none, .object (.ok made)⟩ ∈ history)
    (he' : ⟨.object values' none, .object (.ok made')⟩ ∈ history)
    (hacyclic : ∀ v ∈ values.values, w.heap.Acyclic v)
    (hacyclic' : ∀ v ∈ values'.values, w.heap.Acyclic v) :
    ∃ answer, w.heap.same? (.ref made) (.ref made') = some answer ∧
      (answer = true ↔ values.names = values'.names ∧
        List.Forall₂ (fun a b => w.heap.same? a b = some true) values.values values'.values) ∧
      (answer = true → (w.heap.cell made).type = (w.heap.cell made').type ∧
        ∃ code, w.heap.hash? (.ref made) = some code ∧ w.heap.hash? (.ref made') = some code) := by
  have hmade := h.madeFrom he
  have hmade' := h.madeFrom he'
  have hown := hmade.own
  have hown' := hmade'.own
  obtain ⟨answer, hanswer⟩ := Option.isSome_iff_exists.mp (Heap.isSome_same?
    (Heap.acyclic_ref_iff.mpr (by rwa [hown])) (Heap.acyclic_ref_iff.mpr (by rwa [hown'])))
  have hsame : answer = true ↔ w.heap.same? (.ref made) (.ref made') = some true := by
    rw [hanswer, Option.some.injEq]
  refine ⟨answer, hanswer, ?_, ?_⟩
  · rw [hsame, Heap.same?_ref_iff, hown, hown']
    constructor
    · rintro ⟨htype, hall⟩
      refine ⟨?_, hall⟩
      rw [← hmade.map_name_properties h.faithful, htype, hmade'.map_name_properties h.faithful]
    · rintro ⟨hnames, hall⟩
      exact ⟨hmade.type_eq hmade' hnames (map_slotType_eq_of_same? hall), hall⟩
  · rw [hsame]
    intro hequal
    obtain ⟨c, hc, hc'⟩ := Heap.same?_eq_some_true_iff.mp hequal
    refine ⟨(Heap.same?_ref_iff.mp hequal).1, c.hash, ?_, ?_⟩
    · rw [Heap.hash?_eq, hc, Option.map_some]
    · rw [Heap.hash?_eq, hc', Option.map_some]

/-- Two objects made over two others, which hold different patterns of "not a number". -/
theorem Session.same?_made_iff_over_nan :
    let inner (bits : UInt64) : Call :=
      .object ⟨[("x", .scalar (.double ⟨bits⟩))], List.nodup_singleton _⟩ none
    let values (i : Nat) : Fields Value := ⟨[("a", .ref ⟨i⟩)], List.nodup_singleton _⟩
    let calls : List Call := [.object (values 1) none, .object (values 0) none,
      inner 0xfff8000000000000, inner 0x7ff0000000000001]
    let answers : List Answer :=
      [.object (.ok ⟨3⟩), .object (.ok ⟨2⟩), .object (.ok ⟨1⟩), .object (.ok ⟨0⟩)]
    ∃ r w, Session (calls.zipWith Exchange.mk answers) r w ∧
      (∀ v ∈ (values 0).values, w.heap.Acyclic v) ∧ (∀ v ∈ (values 1).values, w.heap.Acyclic v) ∧
      w.heap.same? (.ref ⟨2⟩) (.ref ⟨3⟩) = some true ∧
      (w.heap.cell ⟨2⟩).type = (w.heap.cell ⟨3⟩).type ∧
      ∃ code, w.heap.hash? (.ref ⟨2⟩) = some code ∧ w.heap.hash? (.ref ⟨3⟩) = some code := by
  intro inner values calls answers
  have hinner : ∀ (h : Heap) bits, (inner bits).ValuesExist h := by
    simp [inner, Call.ValuesExist, Fields.values, Heap.Holds]
  have hvalues : ∀ (h : Heap) i, i < h.cells.size →
      (Call.object (values i) none).ValuesExist h := by
    simp [values, Call.ValuesExist, Fields.values, Heap.Holds]
  have h : Session (calls.zipWith Exchange.mk (play directBackend .standard () calls).1)
      (play directBackend .standard () calls).2.1 (play directBackend .standard () calls).2.2 := by
    have hnan := Session.play_cons [] (.start .standard) (hinner _ 0x7ff0000000000001)
    have hnans := hnan.play_cons _ (hinner _ 0xfff8000000000000)
    have hobject := hnans.play_cons _ (hvalues _ 0 (by decide +kernel))
    exact hobject.play_cons _ (hvalues _ 1 (by decide +kernel))
  have hanswers : (play directBackend .standard () calls).1 = answers := by decide +kernel
  have hslots : (play directBackend .standard () calls).2.2.heap.same? (.ref ⟨0⟩) (.ref ⟨1⟩) =
      some true := by decide +kernel
  rw [hanswers] at h
  generalize play directBackend .standard () calls = out at h hslots
  have hmade : ⟨.object (values 0) none, .object (.ok ⟨2⟩)⟩ ∈ calls.zipWith Exchange.mk answers :=
    .tail _ (.head _)
  have hmade' : ⟨.object (values 1) none, .object (.ok ⟨3⟩)⟩ ∈ calls.zipWith Exchange.mk answers :=
    .head _
  -- Values that are equal have a content, and are acyclic for that reason.
  obtain ⟨c, hc, hc'⟩ := Heap.same?_eq_some_true_iff.mp hslots
  have hacyclic : ∀ v ∈ (values 0).values, out.2.2.heap.Acyclic v := by
    rintro v (_ | ⟨_, ⟨⟩⟩)
    exact Heap.isSome_content?_iff.mp (Option.isSome_iff_exists.mpr ⟨c, hc⟩)
  have hacyclic' : ∀ v ∈ (values 1).values, out.2.2.heap.Acyclic v := by
    rintro v (_ | ⟨_, ⟨⟩⟩)
    exact Heap.isSome_content?_iff.mp (Option.isSome_iff_exists.mpr ⟨c, hc'⟩)
  obtain ⟨answer, hanswer, hiff, htype⟩ :=
    Session.same?_made_iff h hmade hmade' hacyclic hacyclic'
  obtain rfl : answer = true := hiff.mpr ⟨rfl, .cons hslots .nil⟩
  obtain ⟨htype, hhash⟩ := htype rfl
  exact ⟨_, _, h, hacyclic, hacyclic', hanswer, htype, hhash⟩

end Registry

end RecordTypes
