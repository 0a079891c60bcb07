import MylifeHome.Plugins.Timers.Program
import Mathlib.Data.Nat.Digits.Defs

/-!
# The delays of wait steps

A wait is a number with an optional unit. The code looks for the unit behind the number as
it is printed again, and hands the product to a timer whose delay has 31 bits.
-/
namespace MylifeHome.Plugins.Timers

open MylifeHome.Lib

inductive TimeUnit where
  | milliseconds
  | seconds
  | minutes
  | hours
  deriving DecidableEq

def TimeUnit.text : TimeUnit → List Char
  | .milliseconds => []
  | .seconds => ['s']
  | .minutes => ['m']
  | .hours => ['h']

def TimeUnit.factor : TimeUnit → Nat
  | .milliseconds => 1
  | .seconds => 1000
  | .minutes => 60000
  | .hours => 3600000

/-- The longest delay of a timer. -/
def maxTimeout : Nat := 2 ^ 31 - 1

/-- The duration that a wait is written as, in milliseconds. -/
def duration (digits : List Char) (unit : TimeUnit) : Nat :=
  Nat.ofDigitChars 10 digits 0 * unit.factor

/-- The program of this one wait is refused for a duration that no timer has, and otherwise waits
for the duration. -/
def WaitsAsWritten {Value : Type} (numbers : Numbers)
    (parseOutputValue : List Char → Except ParseError Value) (digits : List Char)
    (unit : TimeUnit) : Prop :=
  (parse numbers parseOutputValue true ('w' :: '-' :: (digits ++ unit.text)) = [] ∧
    maxTimeout < duration digits unit) ∨
    (parse numbers parseOutputValue true ('w' :: '-' :: (digits ++ unit.text)) =
      [.wait (some (duration digits unit))] ∧
      duration digits unit ≤ maxTimeout)

def NoLeadingZero (digits : List Char) : Prop := digits.length = 1 ∨ digits.head? ≠ some '0'

/-! ## Digits -/

theorem ofDigitChars_lt {l : List Char} (h : ∀ c ∈ l, c.isDigit = true) :
    Nat.ofDigitChars 10 l 0 < 10 ^ l.length := by
  induction l with
  | nil => simp [Nat.ofDigitChars]
  | cons c l ih =>
    rw [Nat.ofDigitChars_cons, Nat.ofDigitChars_eq_ofDigitChars_zero, List.length_cons,
      Nat.pow_succ]
    have hl := ih fun c hc => h c (List.mem_cons_of_mem _ hc)
    have hc : c.toNat ≤ '9'.toNat := by
      have hdigit := h c List.mem_cons_self
      simp only [Char.isDigit, Bool.and_eq_true, decide_eq_true_eq] at hdigit
      exact hdigit.2
    have hd : 10 * 0 + (c.toNat - '0'.toNat) ≤ 9 := by
      have h9 : '9'.toNat = 57 := rfl
      have h0 : '0'.toNat = 48 := rfl
      omega
    have hmul := Nat.mul_le_mul_left (10 ^ l.length) hd
    omega

theorem toNat_digit_eq_zero {c : Char} (h : c.isDigit = true) : c.toNat - '0'.toNat = 0 ↔
    c = '0' := by
  simp only [Char.isDigit, Bool.and_eq_true, decide_eq_true_eq] at h
  have hlow : '0'.toNat ≤ c.toNat := h.1
  constructor
  · intro hc
    exact Char.toNat_inj.mp (by omega)
  · rintro rfl
    rfl

/-- The number is printed with the digits it was read from, or with fewer. -/
theorem length_toDigits_le {digits : List Char} (hne : digits ≠ [])
    (h : ∀ c ∈ digits, c.isDigit = true) :
    (Nat.toDigits 10 (Nat.ofDigitChars 10 digits 0)).length ≤ digits.length :=
  (Nat.length_toDigits_le_iff (by decide) (List.length_pos_of_ne_nil hne)).mpr (ofDigitChars_lt h)

theorem length_toDigits_lt_iff {digits : List Char} (hne : digits ≠ [])
    (h : ∀ c ∈ digits, c.isDigit = true) :
    (Nat.toDigits 10 (Nat.ofDigitChars 10 digits 0)).length < digits.length ↔
      ¬ NoLeadingZero digits := by
  obtain ⟨c, l, rfl⟩ := List.exists_cons_of_ne_nil hne
  have hhead := toNat_digit_eq_zero (h c List.mem_cons_self)
  have hl := ofDigitChars_lt fun d hd => h d (List.mem_cons_of_mem c hd)
  have hvalue : Nat.ofDigitChars 10 (c :: l) 0 =
      10 ^ l.length * (c.toNat - '0'.toNat) + Nat.ofDigitChars 10 l 0 := by
    rw [Nat.ofDigitChars_cons, Nat.ofDigitChars_eq_ofDigitChars_zero, Nat.mul_zero, Nat.zero_add]
  obtain hlen | hlen := Nat.eq_zero_or_pos l.length
  · have hpos : 0 < (Nat.toDigits 10 (Nat.ofDigitChars 10 (c :: l) 0)).length :=
      List.length_pos_of_ne_nil Nat.toDigits_ne_nil
    have hone : (c :: l).length = 1 := by rw [List.length_cons, hlen]
    refine iff_of_false (by omega) (not_not_intro (.inl hone))
  · rw [List.length_cons, Nat.lt_succ_iff, Nat.length_toDigits_le_iff (by decide) hlen, hvalue]
    have hzero : 10 ^ l.length * (c.toNat - '0'.toNat) + Nat.ofDigitChars 10 l 0 < 10 ^ l.length ↔
        c.toNat - '0'.toNat = 0 := by
      constructor
      · intro hlt
        by_contra hpos
        have hmul := Nat.mul_le_mul_left (10 ^ l.length) (Nat.one_le_iff_ne_zero.mpr hpos)
        omega
      · intro hc
        rw [hc]
        omega
    rw [hzero, hhead]
    simp [NoLeadingZero, List.ne_nil_of_length_pos hlen]

/-! ## The text of a wait -/

section Reading

variable {digits : List Char} {unit : TimeUnit}

theorem mem_unit_text {c : Char} (h : c ∈ unit.text) : c = 's' ∨ c = 'm' ∨ c = 'h' := by
  cases unit <;> simp [TimeUnit.text] at h <;> simp [h]

theorem takeWhile_arg (h : ∀ c ∈ digits, c.isDigit = true) :
    (digits ++ unit.text).takeWhile Char.isDigit = digits := by
  rw [List.takeWhile_append_of_pos h]
  cases unit <;> simp [TimeUnit.text, Char.isDigit]

theorem parseNumber_arg (hne : digits ≠ []) (h : ∀ c ∈ digits, c.isDigit = true) :
    Text.parseNumber (digits ++ unit.text) = some (Nat.ofDigitChars 10 digits 0 : Int) := by
  have hread : Text.leadingNat (digits ++ unit.text) = some (Nat.ofDigitChars 10 digits 0) := by
    rw [Text.leadingNat, takeWhile_arg h, if_neg hne]
  obtain ⟨c, l, rfl⟩ := List.exists_cons_of_ne_nil hne
  have hc : c.isDigit = true := h c List.mem_cons_self
  have hspace : Text.isSpace c = false := by
    simp only [Char.isDigit, Bool.and_eq_true, decide_eq_true_eq] at hc
    have hlow : 48 ≤ c.toNat := hc.1
    have hhigh : c.toNat ≤ 57 := hc.2
    simp only [Text.isSpace, Bool.or_eq_false_iff, Bool.and_eq_false_iff, decide_eq_false_iff_not,
      List.contains_eq_mem, List.mem_cons, List.not_mem_nil, or_false]
    omega
  rw [Text.parseNumber, Text.signed, List.cons_append,
    List.dropWhile_cons_of_neg (by simp [hspace])]
  split
  · next heq => cases heq; cases hc
  · next heq => cases heq; cases hc
  · -- the second character is a digit or a unit, so it is no hexadecimal number
    have hx : ∀ d ∈ (l ++ unit.text).head?, d ≠ 'x' ∧ d ≠ 'X' := by
      intro d hd
      have hmem := List.mem_of_mem_head? hd
      rcases List.mem_append.mp hmem with hl | hu
      · have hdigit := h d (List.mem_cons_of_mem c hl)
        constructor <;> (rintro rfl; cases hdigit)
      · rcases mem_unit_text hu with rfl | rfl | rfl <;> decide
    split
    · next heq =>
      rw [List.cons.injEq] at heq
      exact absurd rfl (hx 'x' (by simp [heq.2])).1
    · next heq =>
      rw [List.cons.injEq] at heq
      exact absurd rfl (hx 'X' (by simp [heq.2])).2
    · rw [← List.cons_append, hread]
      rfl

/-- The argument of a wait keeps its program in one part with two items. -/
theorem parse_wait {Value : Type} (numbers : Numbers)
    (parseOutputValue : List Char → Except ParseError Value)
    (h : ∀ c ∈ digits, c.isDigit = true) : parse numbers parseOutputValue true
      ('w' :: '-' :: (digits ++ unit.text)) =
      match waitDelay numbers (digits ++ unit.text) with
      | .ok delay => [.wait delay]
      | .error _ => [] := by
  have hchars : ∀ c ∈ digits ++ unit.text, c ≠ '|' ∧ c ≠ ' ' ∧ c ≠ '-' := by
    intro c hc
    rcases List.mem_append.mp hc with hd | hu
    · have hdigit := h c hd
      refine ⟨?_, ?_, ?_⟩ <;> (rintro rfl; cases hdigit)
    · rcases mem_unit_text hu with rfl | rfl | rfl <;> decide
  have hparts : splitParts ('w' :: '-' :: (digits ++ unit.text)) =
      ['w' :: '-' :: (digits ++ unit.text)] := by
    have hsplit : ('w' :: '-' :: (digits ++ unit.text)).splitOnP (fun c => c = '|' || c = ' ') =
        ['w' :: '-' :: (digits ++ unit.text)] := by
      apply List.splitOnP_eq_singleton
      intro c hc
      simp only [List.mem_cons] at hc
      rcases hc with rfl | rfl | hc
      · decide
      · decide
      · simp [hchars c hc]
    rw [splitParts, hsplit]
    rfl
  have hitems : ('w' :: '-' :: (digits ++ unit.text)).splitOn '-' =
      [['w'], digits ++ unit.text] := by
    have hrest : (digits ++ unit.text).splitOn '-' = [digits ++ unit.text] :=
      List.splitOn_eq_singleton fun hmem => (hchars '-' hmem).2.2 rfl
    rw [List.splitOn, List.splitOnP_cons_eq_if_modifyHead, if_neg (by decide),
      List.splitOnP_cons_eq_if_modifyHead, if_pos (by decide), ← List.splitOn, hrest]
    rfl
  rw [parse, hparts]
  simp only [List.mapM_cons, List.mapM_nil, hitems, createStep, outputKey]
  cases waitDelay numbers (digits ++ unit.text) <;> rfl

theorem drop_eq_nil_or {k : Nat} (hk : digits.length ≤ k) :
    (digits ++ unit.text).drop k = if k = digits.length then unit.text else [] := by
  split
  · next heq => rw [heq, List.drop_left]
  · apply List.drop_eq_nil_of_le
    have hunit : unit.text.length ≤ 1 := by cases unit <;> decide
    rw [List.length_append]
    omega

/-- A part of the digits is no suffix. -/
theorem timerSuffix_digit {c : Char} (hc : c.isDigit = true) (l : List Char) :
    timerSuffix (c :: l) = none := by
  have hname : String.ofList (c :: l) ∉ prototypeNames := by
    intro hmem
    have hlist : c :: l ∈ prototypeNames.map String.toList :=
      List.mem_map.mpr ⟨_, hmem, String.toList_ofList⟩
    have hheads : c ∈ (prototypeNames.map String.toList).filterMap List.head? :=
      List.mem_filterMap.mpr ⟨_, hlist, rfl⟩
    have hall : ∀ d ∈ (prototypeNames.map String.toList).filterMap List.head?, d.isDigit =
        false := by
      have hcheck : ((prototypeNames.map String.toList).filterMap List.head?).all
        (fun d => !d.isDigit) = true := by decide
      simpa using List.all_eq_true.mp hcheck
    rw [hall c hheads] at hc
    cases hc
  have hunits : c ≠ 's' ∧ c ≠ 'm' ∧ c ≠ 'h' := by
    refine ⟨?_, ?_, ?_⟩ <;> (rintro rfl; cases hc)
  rw [timerSuffix, if_neg (by simp [hunits]), if_neg (by simp [hunits]), if_neg (by simp [hunits]),
    if_neg hname]

theorem waitDelay_error (numbers : Numbers) (unit : TimeUnit) (hne : digits ≠ [])
    (h : ∀ c ∈ digits, c.isDigit = true)
    (hk : numbers.printedLength (numbers.round (Nat.ofDigitChars 10 digits 0)) < digits.length) :
    waitDelay numbers (digits ++ unit.text) = .error (.invalidWait (digits ++ unit.text)) := by
  generalize hlen : numbers.printedLength (numbers.round (Nat.ofDigitChars 10 digits 0)) = k at hk
  have hdrop : (digits ++ unit.text).drop k =
      digits[k] :: ((digits ++ unit.text).drop (k + 1)) := by
    rw [List.drop_eq_getElem_cons (by rw [List.length_append]; omega), List.getElem_append_left hk]
  have hdigit : digits[k].isDigit = true := h _ (List.getElem_mem hk)
  simp only [waitDelay, parseNumber_arg hne h, Int.toNat_natCast, hlen, hdrop,
    timerSuffix_digit hdigit]

/-- A unit is found behind as many digits as the number is printed with. -/
theorem waitDelay_ok (numbers : Numbers) (unit : TimeUnit) (hne : digits ≠ [])
    (h : ∀ c ∈ digits, c.isDigit = true)
    (hk : digits.length ≤ numbers.printedLength (numbers.round (Nat.ofDigitChars 10 digits 0))) :
    ∃ delay, waitDelay numbers (digits ++ unit.text) = .ok (some delay) ∧
      (numbers.printedLength (numbers.round (Nat.ofDigitChars 10 digits 0)) = digits.length →
        numbers.round (Nat.ofDigitChars 10 digits 0) = Nat.ofDigitChars 10 digits 0 →
        numbers.round (duration digits unit) = duration digits unit →
          delay = duration digits unit) := by
  by_cases hlen : numbers.printedLength (numbers.round (Nat.ofDigitChars 10 digits 0)) =
    digits.length
  · simp only [waitDelay, parseNumber_arg hne h, Int.toNat_natCast, drop_eq_nil_or hk, if_pos hlen]
    cases unit with
    | milliseconds => exact ⟨_, rfl, fun _ hround _ => by simp [duration, TimeUnit.factor, hround]⟩
    | seconds | minutes | hours =>
      refine ⟨_, rfl, fun _ hround hproduct => ?_⟩
      rw [hround]
      exact hproduct
  · simp only [waitDelay, parseNumber_arg hne h, Int.toNat_natCast, drop_eq_nil_or hk, if_neg hlen]
    exact ⟨_, rfl, fun hlen' => absurd hlen' hlen⟩

end Reading

/-- A wait whose duration fits a timer waits as written exactly if it is written without leading
zeros. A longer one does (it is refused) exactly if its number is printed with fewer digits. -/
theorem waits_as_written_iff {Value : Type} (numbers : Numbers)
    (parseOutputValue : List Char → Except ParseError Value) (digits : List Char) (unit : TimeUnit)
    (hne : digits ≠ []) (h : ∀ c ∈ digits, c.isDigit = true) :
    WaitsAsWritten numbers parseOutputValue digits unit ↔
      if duration digits unit ≤ maxTimeout then NoLeadingZero digits
      else numbers.printedLength (numbers.round (Nat.ofDigitChars 10 digits 0)) <
        digits.length := by
  rw [WaitsAsWritten, parse_wait numbers parseOutputValue h]
  by_cases hfits : duration digits unit ≤ maxTimeout
  · rw [if_pos hfits]
    have hmax : maxTimeout < 2 ^ 53 := by decide
    have hvalue : Nat.ofDigitChars 10 digits 0 ≤ duration digits unit :=
      Nat.le_mul_of_pos_right _ (by cases unit <;> decide)
    have hround := numbers.round_eq _ (hvalue.trans_lt (hfits.trans_lt hmax))
    have hprinted := numbers.printedLength_eq _ (hvalue.trans_lt (hfits.trans_lt hmax))
    have hlt := length_toDigits_lt_iff hne h
    have hle := length_toDigits_le hne h
    rw [← hprinted] at hlt hle
    by_cases hzero : NoLeadingZero digits
    · have hlen := Nat.le_antisymm hle (not_lt.mp fun hlt' => hlt.mp hlt' hzero)
      rw [← hround] at hlen
      obtain ⟨delay, hdelay, hexact⟩ := waitDelay_ok numbers unit hne h hlen.ge
      rw [hround] at hlen
      rw [hdelay, hexact (by rw [hround, hlen]) hround (numbers.round_eq _ (hfits.trans_lt hmax))]
      exact iff_of_true (.inr ⟨rfl, hfits⟩) hzero
    · have herror := waitDelay_error numbers unit hne h (by rw [hround]; exact hlt.mpr hzero)
      rw [herror]
      refine iff_of_false ?_ hzero
      rintro (⟨-, hlong⟩ | ⟨hwait, -⟩)
      · omega
      · cases hwait
  · rw [if_neg hfits]
    by_cases hk : numbers.printedLength (numbers.round (Nat.ofDigitChars 10 digits 0)) <
      digits.length
    · rw [waitDelay_error numbers unit hne h hk]
      exact iff_of_true (.inl ⟨rfl, not_le.mp hfits⟩) hk
    · obtain ⟨delay, hdelay, -⟩ := waitDelay_ok numbers unit hne h (not_lt.mp hk)
      rw [hdelay]
      refine iff_of_false ?_ hk
      rintro (⟨hwait, -⟩ | ⟨-, hle⟩)
      · cases hwait
      · exact hfits hle

theorem waits_as_written_minute : WaitsAsWritten exactNumbers percentValue ['9', '0'] .seconds :=
  (waits_as_written_iff exactNumbers percentValue ['9', '0'] .seconds (by simp)
    (by simp [Char.isDigit])).mpr
    ((if_pos (by decide)).mpr (.inr (by decide)))

/-- `w-05s` is refused. `w-600h` is 12516353 ms longer than the longest delay of a timer, and
taken. -/
theorem waits_not_as_written : parse exactNumbers percentValue true "w-05s".toList = [] ∧
    duration ['0', '5'] .seconds = 5000 ∧
    parse exactNumbers percentValue true "w-600h".toList = [.wait (some 2160000000)] ∧
    maxTimeout < 2160000000 ∧ timeoutDelay (some 2160000000) = 1 := by
  decide +kernel

end MylifeHome.Plugins.Timers
