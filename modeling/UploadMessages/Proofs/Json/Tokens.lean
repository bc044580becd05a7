import UploadMessages.Proofs.Json.Grammar
import UploadMessages.Proofs.Text.Numerals

/-! # The reader takes the spellings of numbers and texts

Read where a value is awaited, a spelling of a number leads to a number that may
end. A spelling of a text leads through its closing quote, wherever the reader
meets texts.
-/

namespace UploadMessages.Json

namespace State

variable {places : List Place} {s s' : State}

theorem run_nil (s : State) : run s [] = .ok s := rfl

theorem run_cons_of_step {c : Char} (h : step s c = .ok s') (cs : List Char) :
    run s (c :: cs) = run s' cs := by
  simp only [run, List.foldlM_cons, h]
  rfl

theorem run_cons_of_error {c : Char} {fault : Fault} (h : step s c = .error fault)
    (cs : List Char) : run s (c :: cs) = .error fault := by
  simp only [run, List.foldlM_cons, h]
  rfl

theorem run_append_of_run {cs : List Char} (h : run s cs = .ok s') (ds : List Char) :
    run s (cs ++ ds) = run s' ds := by
  rw [run_append, h]
  rfl

theorem read_of_run {text : List Char} (h : initial.run text = .ok s) : read text = s.finish := by
  rw [read, h]
  rfl

theorem read_of_run_error {text : List Char} {fault : Fault}
    (h : initial.run text = .error fault) : read text = .error fault := by
  rw [read, h]
  rfl

theorem step_number {n n' : OpenNumber} {c : Char} (h : n.next c = .ok (.more n')) :
    step ⟨places, .number n⟩ c = .ok ⟨places, .number n'⟩ := by
  simp [step, h]

theorem next_char {n n' : OpenNumber} {d : Digit 10} (h : n.digit d = some n') :
    n.next d.char = .ok (.more n') := by
  simp [OpenNumber.next, Digit.ofChar?_char_decimal, h]

/-- Digits are taken one by one, as long as the number keeps a form that takes more. -/
theorem run_digits (form : Numeral 10 → OpenNumber) (Takes : Numeral 10 → Prop)
    (takes : ∀ ds d, Takes ds → (form ds).digit d = some (form (d :: ds)) ∧ Takes (d :: ds))
    (es ds : Numeral 10) (h : Takes ds) :
    run ⟨places, .number (form ds)⟩ es.toChars =
      .ok ⟨places, .number (form (es.reverse ++ ds))⟩ := by
  induction es generalizing ds with
  | nil => rfl
  | cons d es ih =>
    obtain ⟨hd, h'⟩ := takes ds d h
    rw [Numeral.toChars_cons, run_cons_of_step (step_number (next_char hd)), ih (d :: ds) h']
    simp

theorem run_whole (negative : Bool) {d : Digit 10} {es : Numeral 10} (h : IsWhole (d :: es)) :
    run ⟨places, .number (.whole negative [d])⟩ es.toChars =
      .ok ⟨places, .number (.whole negative (d :: es).reverse)⟩ := by
  cases es with
  | nil => rfl
  | cons e es =>
    have hd : OpenNumber.isZero [d] = false := by
      have hne : d ≠ 0 := by
        rintro rfl
        simpa using h.2 rfl
      exact beq_eq_false_iff_ne.mpr fun h0 => hne (Fin.ext h0)
    have first : (OpenNumber.whole negative [d]).digit e = some (.whole negative [e, d]) := by
      simp [OpenNumber.digit, hd]
    rw [Numeral.toChars_cons, run_cons_of_step (step_number (next_char first)),
      run_digits (.whole negative) (fun ds => 2 ≤ ds.length)]
    · simp
    · intro ds d' hds
      constructor
      · match ds, hds with
        | _ :: _ :: _, _ => simp [OpenNumber.digit, OpenNumber.isZero]
      · simp only [List.length_cons]
        omega
    · simp

/-- Nothing but a number begins with a digit. -/
theorem digit_begins : ∀ d : Digit 10, ¬IsSpace d.char ∧ d.char ≠ '"' ∧ d.char ≠ '[' ∧
    d.char ≠ '\x7b' ∧ d.char ≠ 'n' ∧ d.char ≠ 't' ∧ d.char ≠ 'f' ∧
    OpenNumber.start? d.char = some (.whole false [d]) := by decide

theorem step_value {c : Char} (h : ¬IsSpace c) :
    step ⟨places, .value⟩ c = begin places c := by
  simp [step, next, h]

theorem run_sign (negative : Bool) {d : Digit 10} (cs : List Char) :
    run ⟨places, .value⟩ (signSpelling negative ++ d.char :: cs) =
      run ⟨places, .number (.whole negative [d])⟩ cs := by
  obtain ⟨hs, h₁, h₂, h₃, h₄, h₅, h₆, hd⟩ := digit_begins d
  cases negative with
  | false =>
    have first : step ⟨places, .value⟩ d.char = .ok ⟨places, .number (.whole false [d])⟩ := by
      rw [step_value hs]
      simp [begin, h₁, h₂, h₃, h₄, h₅, h₆, hd]
    exact run_cons_of_step first cs
  | true =>
    have first : step ⟨places, .value⟩ '-' = .ok ⟨places, .number .sign⟩ := rfl
    have second : step ⟨places, .number .sign⟩ d.char =
        .ok ⟨places, .number (.whole true [d])⟩ := step_number (next_char rfl)
    exact (run_cons_of_step first _).trans (run_cons_of_step second cs)

/-- A whole part, with its fraction if it has one, may end or go on to an exponent. -/
theorem run_fraction (negative : Bool) (whole : Numeral 10) {digits : Numeral 10}
    {cs : List Char} (h : FractionSpelling digits cs) :
    ∃ n, run ⟨places, .number (.whole negative whole.reverse)⟩ cs = .ok ⟨places, .number n⟩ ∧
      n.literal? = some ⟨negative, whole, digits, none⟩ ∧
      ∀ e, OpenNumber.IsMark e →
        n.next e = .ok (.more (.mark ⟨negative, whole, digits, none⟩)) := by
  cases h with
  | absent =>
    refine ⟨_, rfl, by simp [OpenNumber.literal?], ?_⟩
    rintro e (rfl | rfl) <;> simp [OpenNumber.next, OpenNumber.sign?, OpenNumber.IsMark] <;> rfl
  | present nonempty =>
    obtain ⟨d, ds, rfl⟩ := List.exists_cons_of_ne_nil nonempty
    have point : step ⟨places, .number (.whole negative whole.reverse)⟩ '.' =
        .ok ⟨places, .number (.point negative whole.reverse)⟩ := rfl
    have first : step ⟨places, .number (.point negative whole.reverse)⟩ d.char =
        .ok ⟨places, .number (.fraction negative whole.reverse [d])⟩ :=
      step_number (next_char rfl)
    have later : run ⟨places, .number (.fraction negative whole.reverse [d])⟩
          (Numeral.toChars ds) =
        .ok ⟨places, .number (.fraction negative whole.reverse (ds.reverse ++ [d]))⟩ :=
      run_digits (.fraction negative whole.reverse) (fun _ => True) (fun _ _ _ => ⟨rfl, trivial⟩)
        ds [d] trivial
    refine ⟨.fraction negative whole.reverse (ds.reverse ++ [d]), ?_, ?_, ?_⟩
    · rw [run_cons_of_step point, Numeral.toChars_cons, run_cons_of_step first, later]
    · simp [OpenNumber.literal?]
    · rintro e (rfl | rfl) <;>
        simp [OpenNumber.next, OpenNumber.sign?, OpenNumber.IsMark] <;> rfl

theorem run_mark {mantissa : Literal} {n : OpenNumber} {negative : Bool} {cs : List Char}
    (marked : ∀ e, OpenNumber.IsMark e → n.next e = .ok (.more (.mark mantissa)))
    (h : MarkSpelling negative cs) (d : Digit 10) (ds : List Char) :
    run ⟨places, .number n⟩ (cs ++ d.char :: ds) =
      run ⟨places, .number (.exponent mantissa negative [d])⟩ ds := by
  cases h with
  | bare mark =>
    have first : step ⟨places, .number n⟩ _ = _ := step_number (marked _ mark)
    have second : step ⟨places, .number (.mark mantissa)⟩ d.char =
        .ok ⟨places, .number (.exponent mantissa false [d])⟩ := step_number (next_char rfl)
    exact (run_cons_of_step first _).trans (run_cons_of_step second ds)
  | plus mark =>
    have first : step ⟨places, .number n⟩ _ = _ := step_number (marked _ mark)
    have second : step ⟨places, .number (.mark mantissa)⟩ '+' =
        .ok ⟨places, .number (.markSign mantissa false)⟩ := rfl
    have third : step ⟨places, .number (.markSign mantissa false)⟩ d.char =
        .ok ⟨places, .number (.exponent mantissa false [d])⟩ := step_number (next_char rfl)
    exact (run_cons_of_step first _).trans
      ((run_cons_of_step second _).trans (run_cons_of_step third ds))
  | minus mark =>
    have first : step ⟨places, .number n⟩ _ = _ := step_number (marked _ mark)
    have second : step ⟨places, .number (.mark mantissa)⟩ '-' =
        .ok ⟨places, .number (.markSign mantissa true)⟩ := rfl
    have third : step ⟨places, .number (.markSign mantissa true)⟩ d.char =
        .ok ⟨places, .number (.exponent mantissa true [d])⟩ := step_number (next_char rfl)
    exact (run_cons_of_step first _).trans
      ((run_cons_of_step second _).trans (run_cons_of_step third ds))

theorem run_literal {l : Literal} {cs : List Char} (h : LiteralSpelling l cs) :
    ∃ n, run ⟨places, .value⟩ cs = .ok ⟨places, .number n⟩ ∧ n.literal? = some l := by
  obtain ⟨negative, whole, digits, exponent⟩ := l
  obtain @⟨cs, ds, isWhole, fraction, power⟩ := h
  obtain ⟨d, es, rfl⟩ := List.exists_cons_of_ne_nil isWhole.1
  obtain ⟨n, hn, literal, marked⟩ :=
    @run_fraction places negative (d :: es) digits cs fraction
  have mantissa : run ⟨places, .value⟩
      (signSpelling negative ++ Numeral.toChars (d :: es) ++ cs) = .ok ⟨places, .number n⟩ := by
    rw [Numeral.toChars_cons, List.append_assoc, List.cons_append, run_sign,
      run_append_of_run (run_whole negative isWhole), hn]
  cases power with
  | absent => exact ⟨n, by rw [List.append_nil]; exact mantissa, literal⟩
  | @present negative' _ _ mark nonempty =>
    obtain ⟨f, fs, rfl⟩ := List.exists_cons_of_ne_nil nonempty
    refine ⟨.exponent ⟨negative, d :: es, digits, none⟩ negative' (fs.reverse ++ [f]), ?_, ?_⟩
    · rw [run_append_of_run mantissa, Numeral.toChars_cons, run_mark marked mark]
      exact run_digits _ (fun _ => True) (fun _ _ _ => ⟨rfl, trivial⟩) fs [f] trivial
    · simp [OpenNumber.literal?]

/-- A state for each text that is open, and the state after each text. -/
def ReadsText (within : OpenText → State) (after : String → State) : Prop :=
  ∀ t c, step (within t) c = match t.next c with
    | .ok (.more t') => .ok (within t')
    | .ok (.done s) => .ok (after s)
    | .error fault => .error fault

theorem readsText_text :
    ReadsText (fun t => ⟨places, .text t⟩) (fun s => complete places (.text s)) := fun _ _ => rfl

theorem readsText_key (before : Members) :
    ReadsText (fun t => ⟨places, .key before t⟩) (fun key => ⟨places, .colon before key⟩) :=
  fun _ _ => rfl

namespace ReadsText

variable {within : OpenText → State} {after : String → State}

theorem step_more (h : ReadsText within after) {t t' : OpenText} {c : Char}
    (more : t.next c = .ok (.more t')) : step (within t) c = .ok (within t') := by
  rw [h, more]

/-- The places of a unit are taken one by one; the last one makes the unit. -/
theorem run_unit (h : ReadsText within after) {read : List Char} {high : Option Nat} {unit : Nat}
    {cs : List Char} {t : OpenText} (digits : UnitSpelling unit cs)
    (take : OpenText.takeUnit read high unit = .ok t) :
    run (within ⟨read, .unit high []⟩) cs = .ok (within t) := by
  obtain ⟨length, numeral, parsed, rfl⟩ := digits
  match cs, length with
  | [c₁, c₂, c₃, c₄], _ =>
    have size := Numeral.byteSize_of_ofChars? parsed
    simp only [Text.byteSize_cons, Text.byteSize_nil, List.length_cons, List.length_nil] at size
    obtain ⟨s₁, s₂, s₃, s₄⟩ : c₁.utf8Size = 1 ∧ c₂.utf8Size = 1 ∧ c₃.utf8Size = 1 ∧
        c₄.utf8Size = 1 := by
      have := c₁.utf8Size_pos
      have := c₂.utf8Size_pos
      have := c₃.utf8Size_pos
      have := c₄.utf8Size_pos
      omega
    have first : OpenText.next ⟨read, .unit high []⟩ c₁ =
        .ok (.more ⟨read, .unit high [c₁]⟩) := by simp [OpenText.next, s₁]
    have second : OpenText.next ⟨read, .unit high [c₁]⟩ c₂ =
        .ok (.more ⟨read, .unit high [c₁, c₂]⟩) := by simp [OpenText.next, s₁, s₂]
    have third : OpenText.next ⟨read, .unit high [c₁, c₂]⟩ c₃ =
        .ok (.more ⟨read, .unit high [c₁, c₂, c₃]⟩) := by simp [OpenText.next, s₁, s₂, s₃]
    have fourth : OpenText.next ⟨read, .unit high [c₁, c₂, c₃]⟩ c₄ = .ok (.more t) := by
      simp [OpenText.next, s₁, s₂, s₃, s₄, parsed, take]
    rw [run_cons_of_step (h.step_more first), run_cons_of_step (h.step_more second),
      run_cons_of_step (h.step_more third), run_cons_of_step (h.step_more fourth), run_nil]

theorem run_char (h : ReadsText within after) (read : List Char) {c : Char} {cs : List Char}
    (spelled : CharSpelling c cs) :
    run (within ⟨read, .none⟩) cs = .ok (within ⟨c :: read, .none⟩) := by
  have backslash : step (within ⟨read, .none⟩) '\\' = .ok (within ⟨read, .backslash⟩) :=
    h.step_more rfl
  have begins : step (within ⟨read, .backslash⟩) 'u' = .ok (within ⟨read, .unit none []⟩) :=
    h.step_more rfl
  cases spelled with
  | raw visible notQuote notBackslash =>
    have one : OpenText.next ⟨read, .none⟩ c = .ok (.more ⟨c :: read, .none⟩) := by
      simp [OpenText.next, notQuote, notBackslash, Nat.not_lt.mpr visible]
    exact run_cons_of_step (h.step_more one) []
  | @letter l _ escape =>
    have one : OpenText.next ⟨read, .backslash⟩ l = .ok (.more ⟨c :: read, .none⟩) := by
      cases escape <;> rfl
    exact (run_cons_of_step backslash _).trans (run_cons_of_step (h.step_more one) [])
  | unit digits notHigh notLow =>
    rw [run_cons_of_step backslash, run_cons_of_step begins]
    exact h.run_unit digits (by simp [OpenText.takeUnit, notHigh, notLow])
  | @pair high low cs ds highDigits lowDigits isHigh isLow =>
    have notLow : ¬OpenText.IsLow high := by
      have := isHigh.2
      rintro ⟨_, _⟩
      omega
    have first : run (within ⟨read, .unit none []⟩) cs = .ok (within ⟨read, .pair high⟩) :=
      h.run_unit highDigits (by simp [OpenText.takeUnit, notLow, isHigh])
    have again : step (within ⟨read, .pair high⟩) '\\' = .ok (within ⟨read, .pairBackslash high⟩) :=
      h.step_more rfl
    have then' : step (within ⟨read, .pairBackslash high⟩) 'u' =
        .ok (within ⟨read, .unit (some high) []⟩) := h.step_more rfl
    rw [List.cons_append, List.cons_append, run_cons_of_step backslash, run_cons_of_step begins,
      run_append_of_run first, run_cons_of_step again, run_cons_of_step then']
    exact h.run_unit lowDigits (by simp [OpenText.takeUnit, isLow])

theorem run_text (h : ReadsText within after) {s cs : List Char} (spelled : TextSpelling s cs) :
    run (within .empty) cs = .ok (within ⟨s.reverse, .none⟩) := by
  induction spelled with
  | nil => rfl
  | snoc before last ih =>
    rw [run_append_of_run ih, h.run_char _ last]
    simp

/-- A text and its closing quote. -/
theorem run_quoted (h : ReadsText within after) {s : String} {cs : List Char}
    (spelled : TextSpelling s.toList cs) (ds : List Char) :
    run (within .empty) (cs ++ '"' :: ds) = run (after s) ds := by
  have closed : step (within ⟨s.toList.reverse, .none⟩) '"' = .ok (after s) := by
    rw [h]
    simp [OpenText.next, String.ofList_toList]
  rw [run_append_of_run (h.run_text spelled), run_cons_of_step closed]

end ReadsText

end State

end UploadMessages.Json
