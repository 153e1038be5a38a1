/-!
# Texts that end where they are known to end

A text written before another one can be read back if it shows by itself where it ends.  A numeral
ends before the first character that is not a digit (`toString_append_inj`); a text that comes
after its own length in bytes ends where that many bytes are used up (`append_inj_of_utf8ByteSize`),
whatever it holds.  `Delimited f` says that all the texts `f a` can be read back in front of
anything that does not begin with a digit, and the parts between the bars of a key are of that sort.
-/

namespace RecordTypes.Text

/-- A text ends a numeral written before it: it is empty or begins with no digit. -/
def EndsNumeral (s : String) : Prop := ∀ c ∈ s.toList.head?, c.isDigit = false

theorem endsNumeral_empty : EndsNumeral "" := by simp [EndsNumeral]

/-- Only the first character counts, so anything may follow a text that is not empty. -/
theorem EndsNumeral.append {s : String} (hs : EndsNumeral s) (hne : s ≠ "") (t : String) :
    EndsNumeral (s ++ t) := by
  intro c hc
  apply hs
  rcases hl : s.toList with _ | ⟨d, ds⟩
  · exact absurd (String.toList_inj.mp hl) hne
  · simpa [hl] using hc

theorem endsNumeral_iff (s : String) : s.toList.head?.any Char.isDigit = false ↔ EndsNumeral s := by
  unfold EndsNumeral
  cases s.toList.head? <;> simp

instance : DecidablePred EndsNumeral := fun s => decidable_of_decidable_of_iff (endsNumeral_iff s)

/-- Every character is a digit. -/
def IsNumeral (s : String) : Prop := ∀ c ∈ s.toList, c.isDigit = true

theorem isNumeral_toString (n : Nat) : IsNumeral (toString n) := by
  intro c hc
  rw [Nat.toString_eq_repr, Nat.toList_repr] at hc
  exact Nat.isDigit_of_mem_toDigits (by decide) (by decide) hc

/-- A numeral is the longest row of digits at the front of what it begins. -/
theorem IsNumeral.takeWhile_append {a s : String} (ha : IsNumeral a) (hs : EndsNumeral s) :
    (a ++ s).toList.takeWhile Char.isDigit = a.toList := by
  have hrest : s.toList.takeWhile Char.isDigit = [] := by
    rcases hl : s.toList with _ | ⟨c, cs⟩
    · rfl
    · have : c.isDigit = false := hs c (by simp [hl])
      simp [this]
  rw [String.toList_append, List.takeWhile_append_of_pos ha, hrest, List.append_nil]

/-- Two numerals that begin one text are the same, and so is what comes after them. -/
theorem IsNumeral.append_inj {a b s t : String} (ha : IsNumeral a) (hb : IsNumeral b)
    (hs : EndsNumeral s) (ht : EndsNumeral t) (h : a ++ s = b ++ t) : a = b ∧ s = t := by
  have hab : a.toList = b.toList := by
    rw [← ha.takeWhile_append hs, h, hb.takeWhile_append ht]
  obtain rfl : a = b := String.toList_inj.mp hab
  exact ⟨rfl, (String.append_right_inj a).mp h⟩

theorem eq_of_toString_eq {m n : Nat} (h : toString m = toString n) : m = n := by
  have hdigits : Nat.toDigits 10 m = Nat.toDigits 10 n := by
    rw [← Nat.toList_repr, ← Nat.toList_repr, ← Nat.toString_eq_repr, h, Nat.toString_eq_repr]
  rw [← Nat.ofDigitChars_toDigits (b := 10) (n := m) (by decide) (by decide), hdigits,
    Nat.ofDigitChars_toDigits (by decide) (by decide)]

/-- Two numbers whose numerals begin one text are the same, and so is what comes after them. -/
theorem toString_append_inj {m n : Nat} {s t : String} (hs : EndsNumeral s) (ht : EndsNumeral t)
    (h : toString m ++ s = toString n ++ t) : m = n ∧ s = t := by
  obtain ⟨hmn, hst⟩ := (isNumeral_toString m).append_inj (isNumeral_toString n) hs ht h
  exact ⟨eq_of_toString_eq hmn, hst⟩

/-- No number begins with a dash. -/
theorem toString_append_ne_dash (n : Nat) (s t : String) : toString n ++ s ≠ "-" ++ t := by
  intro h
  have hl := congrArg String.toList h
  rw [String.toList_append, String.toList_append, Nat.toString_eq_repr, Nat.toList_repr] at hl
  rcases hd : Nat.toDigits 10 n with _ | ⟨c, cs⟩
  · exact Nat.toDigits_ne_nil hd
  · rw [hd, List.cons_append] at hl
    have hc : c = '-' := (List.cons.inj hl).1
    have hdigit : c.isDigit = true :=
      Nat.isDigit_of_mem_toDigits (by decide) (by decide) (hd ▸ List.mem_cons_self)
    rw [hc] at hdigit
    exact absurd hdigit (by decide)

/-- Two texts of one length in bytes that begin one text are the same, and so is what comes after
them. -/
theorem append_inj_of_utf8ByteSize {a b s t : String} (hsize : a.utf8ByteSize = b.utf8ByteSize)
    (h : a ++ s = b ++ t) : a = b ∧ s = t := by
  -- Of two beginnings one begins the other, and what is missing takes no bytes.
  have shorter : ∀ {x y : String} {u : List Char}, x.utf8ByteSize = y.utf8ByteSize →
      x.toList = y.toList ++ u → x = y := by
    intro x y u hxy hx
    have hx' : x = y ++ String.ofList u := by
      rw [← String.toList_inj, String.toList_append, String.toList_ofList, hx]
    have hu : (String.ofList u).utf8ByteSize = 0 := by
      rw [hx', String.utf8ByteSize_append] at hxy
      omega
    rw [hx', String.utf8ByteSize_eq_zero_iff.mp hu, String.append_empty]
  have hl : a.toList ++ s.toList = b.toList ++ t.toList := by
    rw [← String.toList_append, h, String.toList_append]
  obtain rfl : a = b := by
    rcases List.append_eq_append_iff.mp hl with ⟨u, hb, -⟩ | ⟨u, ha, -⟩
    · exact (shorter hsize.symm hb).symm
    · exact shorter hsize ha
  exact ⟨rfl, (String.append_right_inj _).mp h⟩

/-! ### Families of texts -/

/-- Every text `f a` can be told from what follows it, unless a digit follows. -/
def Delimited {α : Type} (f : α → String) : Prop :=
  ∀ ⦃a b : α⦄ ⦃s t : String⦄, EndsNumeral s → EndsNumeral t → f a ++ s = f b ++ t → a = b ∧ s = t

theorem delimited_nat : Delimited fun n : Nat => toString n := fun _ _ _ _ => toString_append_inj

/-- A whole number is written with a dash in front of it if it is negative. -/
theorem delimited_int : Delimited fun n : Int => toString n := by
  intro m n s t hs ht h
  cases m with
  | ofNat m =>
    cases n with
    | ofNat n =>
      obtain ⟨rfl, hst⟩ := toString_append_inj hs ht h
      exact ⟨rfl, hst⟩
    | negSucc n =>
      exact absurd (h.trans (String.append_assoc ..)) (toString_append_ne_dash m s _)
  | negSucc m =>
    cases n with
    | ofNat n =>
      exact absurd (h.symm.trans (String.append_assoc ..)) (toString_append_ne_dash n t _)
    | negSucc n =>
      have hdash : "-" ++ (toString (m + 1) ++ s) = "-" ++ (toString (n + 1) ++ t) := by
        rw [← String.append_assoc, ← String.append_assoc]
        exact h
      obtain ⟨hmn, hst⟩ := toString_append_inj hs ht ((String.append_right_inj _).mp hdash)
      obtain rfl : m = n := Nat.succ.inj hmn
      exact ⟨rfl, hst⟩

/-- A part can be told from what comes after a mark that no numeral holds. -/
theorem Delimited.mark_inj {α : Type} {f : α → String} (hf : Delimited f) {mark : String}
    (hmark : EndsNumeral mark) (hne : mark ≠ "") {a b : α} {s t : String}
    (h : f a ++ (mark ++ s) = f b ++ (mark ++ t)) : a = b ∧ s = t := by
  obtain ⟨hab, hst⟩ := hf (hmark.append hne s) (hmark.append hne t) h
  exact ⟨hab, (String.append_right_inj mark).mp hst⟩

/-- Parts with a bar before each. -/
def barred : List String → String
  | [] => ""
  | part :: rest => "|" ++ (part ++ barred rest)

theorem intercalate_cons_eq_append_barred (part : String) (rest : List String) :
    "|".intercalate (part :: rest) = part ++ barred rest := by
  induction rest generalizing part with
  | nil => simp [barred]
  | cons next rest ih =>
    rw [String.intercalate_cons_cons, ih, barred, String.append_assoc]

/-- Barred parts are empty or begin with a bar. -/
theorem endsNumeral_barred (parts : List String) : EndsNumeral (barred parts) := by
  cases parts with
  | nil => exact endsNumeral_empty
  | cons part rest =>
    have hbar : EndsNumeral "|" := by decide
    exact hbar.append (by decide) _

/-- The first of several barred parts can be told from the others. -/
theorem Delimited.barred_cons_inj {α : Type} {f : α → String} (hf : Delimited f) {a b : α}
    {ps qs : List String} (h : barred (f a :: ps) = barred (f b :: qs)) :
    a = b ∧ barred ps = barred qs :=
  hf (endsNumeral_barred ps) (endsNumeral_barred qs) ((String.append_right_inj _).mp h)

/-- Barred parts of one sort and number determine what they are parts for. -/
theorem Delimited.barred_map_inj {α : Type} {f : α → String} (hf : Delimited f) {xs ys : List α}
    (hlength : xs.length = ys.length) (h : barred (xs.map f) = barred (ys.map f)) : xs = ys := by
  induction xs generalizing ys with
  | nil => exact (List.length_eq_zero_iff.mp hlength.symm).symm
  | cons x xs ih =>
    cases ys with
    | nil => simp at hlength
    | cons y ys =>
      -- The first part is read back, and as many parts are left on both sides.
      obtain ⟨rfl, hrest⟩ := hf.barred_cons_inj h
      rw [ih (Nat.succ.inj hlength) hrest]

end RecordTypes.Text
