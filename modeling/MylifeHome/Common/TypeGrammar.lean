import MylifeHome.Common.Types

/-!
# The texts that are types

The grammar that the printed types follow, and the texts that `parseType` takes. The
expressions of `parseType` are not anchored: they take a text apart into the word of the
type, its arguments, and what stands before, between and after them.
-/
namespace MylifeHome.Common.Metadata

open MylifeHome.Lib MylifeHome.Bus

/-! ## The grammar -/

/-- Digits, with a sign or not. -/
def Numeral (l : List Char) : Prop :=
  ∃ sign digits, (sign = [] ∨ sign = ['-']) ∧ digits ≠ [] ∧ (∀ c ∈ digits, c.isDigit = true) ∧
    l = sign ++ digits

/-- A character of a value of an enum: a word character or `-`. -/
def isWordChar (c : Char) : Bool := c.isAlphanum || c = '_' || c = '-'

/-- Two values or more, each made of word characters and `-`. -/
structure Values (values : List (List Char)) : Prop where
  two_le : 2 ≤ values.length
  words : ∀ v ∈ values, v ≠ [] ∧ ∀ c ∈ v, isWordChar c = true

/-- The arguments of a range, as they were matched. -/
def rangeArgs (bounds : List Char × List Char) : List Char :=
  '[' :: bounds.1 ++ ';' :: bounds.2 ++ [']']

/-- The arguments of an enum, as they were matched. -/
def enumArgs (values : List Char) : List Char := '\x7b' :: values ++ ['\x7d']

def plainWords : List (List Char) :=
  ["text".toList, "float".toList, "bool".toList, "complex".toList]

/-- Increasing bounds that one of the integer primitives can hold. -/
def Bounds (min max : List Char) : Prop :=
  parseInt min < parseInt max ∧ (computePrimitive (parseInt min) (parseInt max)).isSome = true

/-- The texts of the types. -/
inductive InGrammar : List Char → Prop
  | plain {word : List Char} : word ∈ plainWords → InGrammar word
  | range {min max : List Char} : Numeral min → Numeral max → Bounds min max →
      InGrammar ("range".toList ++ rangeArgs (min, max))
  | enum {values : List (List Char)} : Values values →
    InGrammar ("enum".toList ++ enumArgs ([','].intercalate values))

/-! ## The first match of an expression -/

section Expressions

variable {β : Type} {at_ : List Char → Option β} {Good : β → Prop} {print : β → List Char}

/-- An expression matches the texts of its good results, which have no line terminator. -/
structure Expression (at_ : List Char → Option β) (Good : β → Prop) (print : β → List Char) :
    Prop where
  at_iff : ∀ l r, at_ l = some r ↔ Good r ∧ print r <+: l
  inline : ∀ r, Good r → ∀ c ∈ print r, isLineTerminator c = false

/-- The rest of the line, which `.*` takes. -/
def line (l : List Char) : List Char := l.takeWhile (!isLineTerminator ·)

theorem line_append {l rest : List Char} (hl : ∀ c ∈ l, isLineTerminator c = false) :
    line (l ++ rest) = l ++ line rest :=
  List.takeWhile_append_of_pos fun c hc => by rw [hl c hc]; rfl

theorem line_begins (l : List Char) : line l <+: l := List.takeWhile_prefix _

theorem Expression.at_line (h : Expression at_ Good print) (l : List Char) :
    at_ (line l) = at_ l := by
  have hbegins : ∀ r, Good r → (print r <+: line l ↔ print r <+: l) := by
    intro r hr
    refine ⟨fun hp => hp.trans (line_begins l), ?_⟩
    rintro ⟨rest, rfl⟩
    rw [line_append (h.inline r hr)]
    exact List.prefix_append _ _
  refine Option.ext fun r => ?_
  rw [h.at_iff, h.at_iff]
  exact and_congr_right (hbegins r)

/-- No place in the gap before the match has a match. -/
structure First (Good : β → Prop) (print : β → List Char) (gap : List Char) (r : β)
    (rest : List Char) : Prop where
  good : Good r
  inline : ∀ c ∈ gap, isLineTerminator c = false
  first : ∀ gap₁ gap₂, gap = gap₁ ++ gap₂ → gap₂ ≠ [] → ∀ r', Good r' →
    ¬ print r' <+: gap₂ ++ (print r ++ rest)

theorem First.gap_length_le {gap gap' rest rest' : List Char} {r r' : β}
    (h : First Good print gap r rest) (h' : First Good print gap' r' rest')
    (heq : gap ++ (print r ++ rest) = gap' ++ (print r' ++ rest')) :
    gap'.length ≤ gap.length := by
  by_contra hlt
  obtain ⟨between, rfl⟩ : ∃ between, gap' = gap ++ between := by
    refine ⟨gap'.drop gap.length, ?_⟩
    have htake := congrArg (List.take gap.length) heq
    rw [List.take_left, List.take_append_of_le_length (by omega)] at htake
    conv_lhs => rw [← List.take_append_drop gap.length gap', ← htake]
  rw [List.append_assoc, List.append_cancel_left_eq] at heq
  refine h'.first gap between rfl (fun hnil => ?_) r h.good ⟨rest, heq⟩
  rw [hnil] at hlt
  simp at hlt

theorem First.gap_eq {gap gap' rest rest' : List Char} {r r' : β} (h : First Good print gap r rest)
    (h' : First Good print gap' r' rest')
    (heq : gap ++ (print r ++ rest) = gap' ++ (print r' ++ rest')) : gap = gap' :=
  (List.append_inj heq (Nat.le_antisymm (h'.gap_length_le h heq.symm) (h.gap_length_le h' heq))).1

theorem search_line (h : Expression at_ Good print) {l : List Char} {r : β} :
    search at_ (line l) = some r ↔ ∃ gap rest, First Good print gap r rest ∧
      l = gap ++ (print r ++ rest) := by
  constructor
  · intro hs
    induction l with
    | nil =>
      obtain ⟨hr, rest, hrest⟩ := (h.at_iff [] r).mp hs
      exact ⟨[], rest, ⟨hr, by simp, by simp⟩, hrest.symm⟩
    | cons c l ih =>
      cases hat : at_ (c :: l) with
      | some r' =>
        rw [search_of_head ((h.at_line _).trans hat)] at hs
        cases hs
        obtain ⟨hr, rest, hrest⟩ := (h.at_iff _ _).mp hat
        exact ⟨[], rest, ⟨hr, by simp, by simp⟩, hrest.symm⟩
      | none =>
        have hc : isLineTerminator c = false := by
          by_contra hc
          rw [Bool.not_eq_false] at hc
          have hnil : line (c :: l) = [] := by simp [line, hc]
          rw [← h.at_line, hnil] at hat
          rw [hnil, search, hat] at hs
          cases hs
        have hline : line (c :: l) = c :: line l := by simp [line, hc]
        rw [← h.at_line, hline] at hat
        rw [hline, search, hat] at hs
        obtain ⟨gap, rest, hfirst, rfl⟩ := ih hs
        refine ⟨c :: gap, rest,
          ⟨hfirst.good, List.forall_mem_cons.mpr ⟨hc, hfirst.inline⟩, ?_⟩, rfl⟩
        intro gap₁ gap₂ hgap hne r' hr' hmatch
        cases gap₁ with
        | nil =>
          rw [List.nil_append] at hgap
          subst hgap
          have hfound := (h.at_iff _ _).mpr ⟨hr', hmatch⟩
          rw [← h.at_line, List.cons_append, hline, hat] at hfound
          cases hfound
        | cons d gap₁ =>
          obtain ⟨-, rfl⟩ := List.cons.inj hgap
          exact hfirst.first gap₁ gap₂ rfl hne r' hr' hmatch
  · rintro ⟨gap, rest, hfirst, rfl⟩
    induction gap with
    | nil => exact search_of_head ((h.at_line _).trans
      ((h.at_iff _ _).mpr ⟨hfirst.good, List.prefix_append _ _⟩))
    | cons c gap ih =>
      have hc := hfirst.inline c List.mem_cons_self
      have hat : at_ (line (c :: gap ++ (print r ++ rest))) = none := by
        rw [h.at_line, Option.eq_none_iff_forall_ne_some]
        intro r' hr'
        obtain ⟨hgood, hmatch⟩ := (h.at_iff _ _).mp hr'
        exact hfirst.first [] (c :: gap) rfl (List.cons_ne_nil _ _) r' hgood hmatch
      have hline : line (c :: gap ++ (print r ++ rest)) = c :: line (gap ++ (print r ++ rest)) := by
        simp [line, hc]
      rw [hline] at hat ⊢
      rw [search, hat]
      refine ih ⟨hfirst.good, (List.forall_mem_cons.mp hfirst.inline).2, fun gap₁ gap₂ hgap => ?_⟩
      exact hfirst.first (c :: gap₁) gap₂ (by rw [hgap]; rfl)

/-- The first match is one. -/
theorem First.unique (h : Expression at_ Good print) {gap gap' rest rest' : List Char} {r r' : β}
    (hr : First Good print gap r rest) (hr' : First Good print gap' r' rest')
    (heq : gap ++ (print r ++ rest) = gap' ++ (print r' ++ rest')) : gap = gap' ∧ r = r' ∧
      rest = rest' := by
  have hgap := hr.gap_eq hr' heq
  have hfound : some r = some r' := by
    rw [← (search_line h).mpr ⟨gap, rest, hr, rfl⟩, heq,
      (search_line h).mpr ⟨gap', rest', hr', rfl⟩]
  cases hfound
  refine ⟨hgap, rfl, ?_⟩
  rw [hgap] at heq
  exact List.append_cancel_left (List.append_cancel_left heq)

end Expressions

/-! ## The three expressions -/

/-- The run of digits that a sign is followed by. -/
theorem digits_of_eq_some {sign l number rest : List Char}
    (h : (if l.takeWhile Char.isDigit = [] then none
      else some (sign ++ l.takeWhile Char.isDigit, l.dropWhile Char.isDigit)) =
        some (number, rest)) :
    ∃ digits, digits ≠ [] ∧ (∀ c ∈ digits, c.isDigit = true) ∧ number = sign ++ digits ∧
      l = digits ++ rest ∧
      ∀ c ∈ rest.head?, c.isDigit = false := by
  by_cases hdigits : l.takeWhile Char.isDigit = []
  · rw [if_pos hdigits] at h
    cases h
  · rw [if_neg hdigits] at h
    obtain ⟨rfl, rfl⟩ := Prod.mk.inj (Option.some.inj h)
    refine ⟨_, hdigits, fun c hc => List.mem_takeWhile_imp hc, rfl,
      List.takeWhile_append_dropWhile.symm, fun c hc => ?_⟩
    have hhead := List.head?_dropWhile_not Char.isDigit l
    rw [Option.mem_def.mp hc] at hhead
    simpa using hhead

theorem integer_eq_some {l number rest : List Char} : integer l = some (number, rest) ↔
    Numeral number ∧ l = number ++ rest ∧ ∀ c ∈ rest.head?, c.isDigit = false := by
  constructor
  · intro h
    cases l with
    | nil => cases h
    | cons c l =>
      by_cases hc : c = '-'
      · subst hc
        simp only [integer, if_true] at h
        obtain ⟨digits, hne, hdigits, rfl, rfl, hrest⟩ := digits_of_eq_some h
        exact ⟨⟨['-'], digits, .inr rfl, hne, hdigits, rfl⟩, rfl, hrest⟩
      · simp only [integer, if_neg hc] at h
        obtain ⟨digits, hne, hdigits, hnumber, hl, hrest⟩ := digits_of_eq_some h
        exact ⟨⟨[], digits, .inl rfl, hne, hdigits, hnumber⟩, hnumber ▸ hl, hrest⟩
  · rintro ⟨⟨sign, digits, hsign, hne, hdigits, rfl⟩, rfl, hrest⟩
    obtain ⟨htake, hdrop⟩ := takeWhile_append_of_head rest hdigits hrest
    rcases hsign with rfl | rfl
    · cases digits with
      | nil => exact absurd rfl hne
      | cons c digits =>
        have hc := ne_minus_of_isDigit (hdigits c List.mem_cons_self)
        simp only [List.cons_append, List.nil_append] at htake hdrop ⊢
        simp [integer, hc, htake, hdrop]
    · simp [integer, htake, hdrop, hne]

theorem Numeral.inline {l : List Char} (h : Numeral l) : ∀ c ∈ l, isLineTerminator c = false := by
  obtain ⟨sign, digits, hsign, -, hdigits, rfl⟩ := h
  intro c hc
  rcases List.mem_append.mp hc with hc | hc
  · rcases hsign with rfl | rfl
    · cases hc
    · rw [List.mem_singleton.mp hc]
      decide
  · refine not_isLineTerminator (fun d hd => ?_) (hdigits c hc)
    rcases isLineTerminator_cases hd with rfl | rfl | rfl | rfl <;> decide

theorem rangeAt_expression : Expression rangeAt (fun r => Numeral r.1 ∧ Numeral r.2) rangeArgs where
  at_iff l r := by
    obtain ⟨min, max⟩ := r
    constructor
    · intro h
      unfold rangeAt at h
      split at h
      · next l =>
        split at h
        · next hfirst =>
          split at h
          · next rest hlast =>
            cases h
            obtain ⟨hmin, rfl, -⟩ := integer_eq_some.mp hfirst
            obtain ⟨hmax, rfl, -⟩ := integer_eq_some.mp hlast
            refine ⟨⟨hmin, hmax⟩, rest, ?_⟩
            rw [rangeArgs]
            simp only [List.cons_append, List.append_assoc, List.nil_append]
          · cases h
        · cases h
      · cases h
    · rintro ⟨⟨hmin, hmax⟩, rest, rfl⟩
      have hlast : integer (max ++ ']' :: rest) = some (max, ']' :: rest) :=
        integer_eq_some.mpr ⟨hmax, rfl, by simp⟩
      have hfirst : integer (min ++ ';' :: (max ++ ']' :: rest)) =
          some (min, ';' :: (max ++ ']' :: rest)) :=
        integer_eq_some.mpr ⟨hmin, rfl, by simp⟩
      rw [rangeArgs]
      simp only [List.cons_append, List.append_assoc, List.nil_append, rangeAt, hfirst, hlast]
  inline r h c hc := by
    simp only [rangeArgs, List.cons_append, List.append_assoc, List.mem_cons, List.mem_append,
      List.not_mem_nil, or_false] at hc
    rcases hc with rfl | hc | rfl | hc | rfl
    · decide
    · exact h.1.inline c hc
    · decide
    · exact h.2.inline c hc
    · decide

theorem enumAt_expression :
    Expression enumAt (fun values => isPrintable values = true) enumArgs where
  at_iff l values := by
    rw [enumAt_eq_some]
    refine and_congr_right fun _ => ?_
    constructor
    · rintro ⟨rest, rfl⟩
      exact ⟨rest, by simp [enumArgs]⟩
    · rintro ⟨rest, rfl⟩
      exact ⟨rest, by simp [enumArgs]⟩
  inline values h c hc := by
    simp only [enumArgs, List.cons_append, List.mem_cons, List.mem_append, List.not_mem_nil,
      or_false] at hc
    rcases hc with rfl | hc | rfl
    · decide
    · exact not_isLineTerminator_of_isPrintable h hc
    · decide

/-- The first run of small letters, and what stands before and after it. -/
theorem parser_eq_some {l word args : List Char} : parser l = some (word, args) ↔
    ∃ before tail, l = before ++ (word ++ tail) ∧ args = line tail ∧ word ≠ [] ∧
      (∀ c ∈ before, isLowercase c = false) ∧ (∀ c ∈ word, isLowercase c = true) ∧
      ∀ c ∈ tail.head?, isLowercase c = false := by
  constructor
  · intro h
    have hcut := List.takeWhile_append_dropWhile (p := (!isLowercase ·)) (l := l)
    rw [parser] at h
    split at h
    · cases h
    · next c rest hdrop =>
      obtain ⟨rfl, rfl⟩ := Prod.mk.inj (Option.some.inj h)
      have hc : isLowercase c = true := by
        have hhead := List.head?_dropWhile_not (!isLowercase ·) l
        rw [hdrop] at hhead
        simpa using hhead
      refine ⟨l.takeWhile (!isLowercase ·), (c :: rest).dropWhile isLowercase, ?_, rfl, ?_,
        fun d hd => ?_, fun d hd => List.mem_takeWhile_imp hd, fun d hd => ?_⟩
      · rw [List.takeWhile_append_dropWhile, ← hdrop, hcut]
      · simp [hc]
      · simpa using List.mem_takeWhile_imp hd
      · have hhead := List.head?_dropWhile_not isLowercase (c :: rest)
        rw [Option.mem_def.mp hd] at hhead
        simpa using hhead
  · rintro ⟨before, tail, rfl, rfl, hne, hbefore, hword, htail⟩
    have hdrop : (before ++ (word ++ tail)).dropWhile (!isLowercase ·) = word ++ tail := by
      refine (takeWhile_append_of_head _ (fun c hc => by rw [hbefore c hc]; rfl) fun c hc => ?_).2
      cases word with
      | nil => exact absurd rfl hne
      | cons d word =>
        obtain rfl : d = c := by simpa using hc
        rw [hword d List.mem_cons_self]
        rfl
    have hparser := parser_append word tail hne hword htail
    rw [parser] at hparser ⊢
    rw [hdrop]
    cases word with
    | nil => exact absurd rfl hne
    | cons d word =>
      have hd := hword d List.mem_cons_self
      simpa [hd, line] using hparser

/-! ## What `parseType` takes -/

/-- A text in the parts that the expressions see. -/
structure Cut where
  before : List Char
  word : List Char
  gap : List Char
  args : List Char
  rest : List Char

/-- What follows the word. -/
def Cut.tail (c : Cut) : List Char := c.gap ++ (c.args ++ c.rest)

def Cut.text (c : Cut) : List Char := c.before ++ (c.word ++ c.tail)

/-- The parts of a text that is taken. Before the word there is no small letter; only the
first line after it is looked at, and in it the first match counts. -/
inductive Cut.Taken : Cut → Prop
  | plain {before word rest : List Char} : (∀ c ∈ before, isLowercase c = false) →
    word ∈ plainWords →
      (∀ c ∈ rest.head?, isLineTerminator c = true) → Taken ⟨before, word, [], [], rest⟩
  | range {before gap rest min max : List Char} : (∀ c ∈ before, isLowercase c = false) →
      (∀ c ∈ gap.head?, isLowercase c = false) →
      First (fun r : List Char × List Char => Numeral r.1 ∧ Numeral r.2) rangeArgs gap (min,
        max) rest → Bounds min max →
      Taken ⟨before, "range".toList, gap, rangeArgs (min, max), rest⟩
  | enum {before gap rest values : List Char} : (∀ c ∈ before, isLowercase c = false) →
      (∀ c ∈ gap.head?, isLowercase c = false) →
      First (fun values => isPrintable values = true) enumArgs gap values rest → ',' ∈ values →
      Taken ⟨before, "enum".toList, gap, enumArgs values, rest⟩

/-- Nothing but the word and its arguments, and the values of an enum are words. -/
structure Cut.Clean (c : Cut) : Prop where
  before : c.before = []
  gap : c.gap = []
  rest : c.rest = []
  values : c.word = "enum".toList → ∃ values, Values values ∧
    c.args = enumArgs ([','].intercalate values)

theorem newRange_isOk {min max : Int} :
    (∃ t, newRange min max = .ok t) ↔ min < max ∧ (computePrimitive min max).isSome = true := by
  rw [newRange]
  split
  · next h =>
    refine ⟨?_, fun hsuits => by omega⟩
    rintro ⟨t, ht⟩
    cases ht
  · next h =>
    cases computePrimitive min max with
    | none =>
      constructor
      · rintro ⟨t, ht⟩
        cases ht
      · rintro ⟨-, hsome⟩
        cases hsome
    | some p => exact ⟨fun _ => ⟨by omega, rfl⟩, fun _ => ⟨_, rfl⟩⟩

/-- Two values or more are cut at a comma. -/
theorem newEnum_split_isOk {values : List Char} :
    (∃ t, newEnum (Text.split (.ofList values) ',') = .ok t) ↔ ',' ∈ values := by
  constructor
  · rintro ⟨t, ht⟩
    by_contra hc
    have hsplit : Text.split (.ofList values) ',' = [.ofList values] :=
      Text.split_of_toList (by simpa using hc) (List.cons_ne_nil _ _) (by simp)
    have htwo := two_le_of_newEnum ht
    rw [hsplit] at htwo
    simp at htwo
  · intro hc
    refine ⟨_, if_neg ?_⟩
    intro hlt
    have hbody := body_split values
    cases hparts : Text.split (.ofList values) ',' with
    | nil =>
      rw [hparts] at hbody
      rw [← hbody] at hc
      cases hc
    | cons part parts =>
      rw [hparts] at hbody hlt
      obtain rfl : parts = [] :=
        List.length_eq_zero_iff.mp (by simp only [List.length_cons] at hlt; omega)
      refine absurd hc ?_
      rw [← hbody]
      simpa [MetaType.body] using Text.not_mem_of_mem_split
        (hparts ▸ List.mem_cons_self : part ∈ Text.split (.ofList values) ',')

/-- What the arguments of a word have to be. -/
inductive Suits : List Char → List Char → Prop
  | plain {word : List Char} : word ∈ plainWords → Suits word []
  | range {args min max : List Char} : search rangeAt args = some (min, max) → Bounds min max →
    Suits "range".toList args
  | enum {args values : List Char} : search enumAt args = some values → ',' ∈ values →
    Suits "enum".toList args

theorem checkNoArgs_isOk {args type : List Char} {t : MetaType} :
    (∃ t', checkNoArgs args type t = .ok t') ↔ args = [] := by
  rw [checkNoArgs]
  split
  · next h => exact ⟨fun _ => h, fun _ => ⟨t, rfl⟩⟩
  · next h =>
    refine ⟨?_, fun hnil => absurd hnil h⟩
    rintro ⟨t', ht⟩
    cases ht

theorem parseChars_isOk {value word args : List Char} (h : parser value = some (word, args)) :
    (∃ t, parseChars value = .ok t) ↔ Suits word args := by
  have hplain : ∀ {type : List Char} {t : MetaType}, type ∈ plainWords → word = type →
      ((∃ t', checkNoArgs args word t = .ok t') ↔ Suits word args) := by
    rintro type t hmem rfl
    rw [checkNoArgs_isOk]
    constructor
    · rintro rfl
      exact .plain hmem
    · intro hs
      cases hs with
      | plain => rfl
      | range | enum => exact absurd hmem (by decide)
  rw [parseChars, h]
  simp only
  split
  · next hw =>
    subst hw
    constructor
    · rintro ⟨t, ht⟩
      split at ht
      · cases ht
      · next min max hfound => exact .range hfound (newRange_isOk.mp ⟨t, ht⟩)
    · intro hs
      generalize hword : "range".toList = word at hs
      cases hs with
      | plain hmem =>
        subst hword
        exact absurd hmem (by decide)
      | range hfound hbounds =>
        rw [hfound]
        exact newRange_isOk.mpr hbounds
      | enum => exact absurd hword (by decide)
  split
  · next hw => exact hplain (by decide) hw
  split
  · next hw => exact hplain (by decide) hw
  split
  · next hw => exact hplain (by decide) hw
  split
  · next hw =>
    subst hw
    constructor
    · rintro ⟨t, ht⟩
      split at ht
      · cases ht
      · next values hfound =>
        split at ht
        · cases ht
        · exact .enum hfound (newEnum_split_isOk.mp ⟨t, ht⟩)
    · intro hs
      generalize hword : "enum".toList = word at hs
      cases hs with
      | plain hmem =>
        subst hword
        exact absurd hmem (by decide)
      | range => exact absurd hword (by decide)
      | enum hfound hcomma =>
        rw [hfound]
        have hne := List.ne_nil_of_mem hcomma
        simp only [if_neg hne]
        exact newEnum_split_isOk.mpr hcomma
  split
  · next hw => exact hplain (by decide) hw
  · next h1 h2 h3 h4 h5 h6 =>
    refine ⟨?_, fun hs => ?_⟩
    · rintro ⟨t, ht⟩
      cases ht
    cases hs with
    | plain hmem =>
      simp only [plainWords, List.mem_cons, h2, h3, h4, h6, List.not_mem_nil, or_false] at hmem
    | range => exact absurd rfl h1
    | enum => exact absurd rfl h5

theorem isLowercase_of_plain {word : List Char} (h : word ∈ plainWords) :
    word ≠ [] ∧ ∀ c ∈ word, isLowercase c = true := by
  simp only [plainWords, List.mem_cons, List.not_mem_nil, or_false] at h
  rcases h with rfl | rfl | rfl | rfl <;> exact ⟨by decide, List.all_eq_true.mp (by decide)⟩

section Taken

variable {c c' : Cut}

theorem Cut.Taken.before (h : c.Taken) : ∀ d ∈ c.before, isLowercase d = false := by
  cases h with
  | plain hbefore | range hbefore | enum hbefore => exact hbefore

theorem Cut.Taken.word (h : c.Taken) : c.word ≠ [] ∧ ∀ d ∈ c.word, isLowercase d = true := by
  cases h with
  | plain _ hmem => exact isLowercase_of_plain hmem
  | range =>
    show "range".toList ≠ [] ∧ _
    exact ⟨by decide, List.all_eq_true.mp (by decide : "range".toList.all isLowercase = true)⟩
  | enum =>
    show "enum".toList ≠ [] ∧ _
    exact ⟨by decide, List.all_eq_true.mp (by decide : "enum".toList.all isLowercase = true)⟩

theorem head_append_args {gap rest args : List Char} {d : Char} (hd : isLowercase d = false)
    (hgap : ∀ e ∈ gap.head?, isLowercase e = false) : ∀ e ∈ (gap ++ (d :: args ++ rest)).head?,
      isLowercase e = false := by
  cases gap with
  | nil => simpa using hd
  | cons e gap => exact hgap

theorem Cut.Taken.tail (h : c.Taken) : ∀ d ∈ c.tail.head?, isLowercase d = false := by
  cases h with
  | plain _ _ hrest =>
    intro d hd
    rcases isLineTerminator_cases (hrest d hd) with rfl | rfl | rfl | rfl <;> decide
  | range _ hgap => exact head_append_args (by decide) hgap
  | enum _ hgap => exact head_append_args (by decide) hgap

theorem Cut.Taken.suits (h : c.Taken) : Suits c.word (line c.tail) := by
  cases h with
  | @plain before word rest _ hmem hrest =>
    have hline : line rest = [] := by
      cases rest with
      | nil => rfl
      | cons d rest =>
        have hd : isLineTerminator d = true := hrest d rfl
        simp [line, hd]
    rw [Cut.tail, List.nil_append, List.nil_append, hline]
    exact .plain hmem
  | range _ _ hfirst hbounds =>
    exact .range ((search_line rangeAt_expression).mpr ⟨_, _, hfirst, rfl⟩) hbounds
  | enum _ _ hfirst hcomma =>
    exact .enum ((search_line enumAt_expression).mpr ⟨_, _, hfirst, rfl⟩) hcomma

theorem Cut.Taken.parser (h : c.Taken) : parser c.text = some (c.word, line c.tail) :=
  parser_eq_some.mpr ⟨c.before, c.tail, rfl, rfl, h.word.1, h.before, h.word.2, h.tail⟩

/-- A text is taken in one way. -/
theorem Cut.Taken.unique (h : c.Taken) (h' : c'.Taken) (htext : c.text = c'.text) : c = c' := by
  have htake : ∀ {e : Cut}, e.Taken → e.text.takeWhile (!isLowercase ·) = e.before := by
    intro e he
    refine (takeWhile_append_of_head _ (fun d hd => by rw [he.before d hd]; rfl) fun d hd => ?_).1
    obtain ⟨f, word, hword⟩ := List.exists_cons_of_ne_nil he.word.1
    rw [hword] at hd
    obtain rfl : f = d := by simpa using hd
    rw [he.word.2 f (hword ▸ List.mem_cons_self)]
    rfl
  have hbefore : c.before = c'.before := by rw [← htake h, ← htake h', htext]
  have hparser := h.parser
  rw [htext, h'.parser] at hparser
  have hword : c.word = c'.word := (Prod.mk.inj (Option.some.inj hparser)).1.symm
  have htail : c.tail = c'.tail := by
    rw [Cut.text, Cut.text, hbefore, hword] at htext
    exact List.append_cancel_left (List.append_cancel_left htext)
  have hrange : "range".toList ∉ plainWords := by decide
  have henum : "enum".toList ∉ plainWords := by decide
  have hne : "range".toList ≠ "enum".toList := by decide
  cases h with
  | @plain before word rest _ hmem _ =>
    cases h' with
    | plain =>
      cases hbefore
      cases hword
      cases htail
      rfl
    | range => exact absurd ((show word = "range".toList from hword) ▸ hmem) hrange
    | enum => exact absurd ((show word = "enum".toList from hword) ▸ hmem) henum
  | range _ _ hfirst _ =>
    cases h' with
    | @plain _ word _ _ hmem _ =>
      exact absurd ((show "range".toList = word from hword) ▸ hmem) hrange
    | range _ _ hfirst' _ =>
      obtain ⟨rfl, hbounds, rfl⟩ := First.unique rangeAt_expression hfirst hfirst' htail
      cases hbounds
      cases hbefore
      rfl
    | enum => exact absurd hword hne
  | enum _ _ hfirst _ =>
    cases h' with
    | @plain _ word _ _ hmem _ => exact absurd ((show "enum".toList = word from hword) ▸ hmem) henum
    | range => exact absurd hword.symm hne
    | enum _ _ hfirst' _ =>
      obtain ⟨rfl, rfl, rfl⟩ := First.unique enumAt_expression hfirst hfirst' htail
      cases hbefore
      rfl

end Taken

/-- The texts that `parseType` takes, by their parts. -/
theorem parseType_isOk (s : String) : (∃ t, parseType s = .ok t) ↔ ∃ c : Cut, c.Taken ∧
    c.text = s.toList := by
  rw [parseType]
  constructor
  · intro hok
    cases hparser : parser s.toList with
    | none =>
      obtain ⟨t, ht⟩ := hok
      rw [parseChars, hparser] at ht
      cases ht
    | some found =>
      obtain ⟨word, args⟩ := found
      have hsuits := (parseChars_isOk hparser).mp hok
      obtain ⟨before, tail, htext, rfl, -, hbefore, -, htail⟩ := parser_eq_some.mp hparser
      generalize hline : line tail = args at hsuits
      have hgap : ∀ {gap rest : List Char}, tail = gap ++ rest → ∀ c ∈ gap.head?, isLowercase c =
          false := by
        rintro gap rest rfl c hc
        refine htail c ?_
        cases gap with
        | nil => cases hc
        | cons d gap => exact hc
      cases hsuits with
      | plain hmem =>
        refine ⟨⟨before, word, [], [], tail⟩, .plain hbefore hmem fun c hc => ?_, htext.symm⟩
        obtain ⟨l, rfl⟩ := List.head?_eq_some_iff.mp hc
        by_contra hd
        simp [line, hd] at hline
      | range hfound hbounds =>
        obtain ⟨gap, rest, hfirst, hl⟩ := (search_line rangeAt_expression).mp (hline ▸ hfound)
        exact ⟨_, .range hbefore (hgap hl) hfirst hbounds, htext.symm ▸ hl ▸ rfl⟩
      | enum hfound hcomma =>
        obtain ⟨gap, rest, hfirst, hl⟩ := (search_line enumAt_expression).mp (hline ▸ hfound)
        exact ⟨_, .enum hbefore (hgap hl) hfirst hcomma, htext.symm ▸ hl ▸ rfl⟩
  · rintro ⟨c, htaken, htext⟩
    rw [← htext]
    exact (parseChars_isOk htaken.parser).mpr htaken.suits

/-! ## The grammar and what is taken -/

theorem isDot_of_isWordChar {c : Char} (h : isWordChar c = true) : isDot c = true := by
  have hline : isLineTerminator c = false := by
    refine not_isLineTerminator (fun d hd => ?_) h
    rcases isLineTerminator_cases hd with rfl | rfl | rfl | rfl <;> decide
  have hsmall : c.toNat < 0x10000 := by
    have hval : ∀ n : UInt32, c.val ≤ n → n.toNat < 0x10000 → c.toNat < 0x10000 :=
      fun n hn hsize => Nat.lt_of_le_of_lt (UInt32.le_iff_toNat_le.mp hn) hsize
    replace h : (decide ('A'.val ≤ c.val ∧ c.val ≤ 'Z'.val) ||
      (decide ('a'.val ≤ c.val) && decide (c.val ≤ 'z'.val)) ||
      (decide ('0'.val ≤ c.val) && decide (c.val ≤ '9'.val)) || decide (c = '_') ||
        decide (c = '-')) = true := h
    simp only [Bool.or_eq_true, Bool.and_eq_true, decide_eq_true_eq] at h
    rcases h with (((⟨-, h⟩ | ⟨-, h⟩) | ⟨-, h⟩) | rfl) | rfl
    · exact hval _ h (by decide)
    · exact hval _ h (by decide)
    · exact hval _ h (by decide)
    · decide
    · decide
  simp [isDot, hline, hsmall]

theorem isValueChar_of_mem_intercalate {values : List (List Char)}
    (h : ∀ v ∈ values, ∀ c ∈ v, isWordChar c = true) :
    ∀ c ∈ [','].intercalate values, isValueChar c = true := by
  induction values with
  | nil => simp
  | cons v values ih =>
    have hv : ∀ c ∈ v, isValueChar c = true := fun c hc => by
      rw [isValueChar, ← isWordChar, h v List.mem_cons_self c hc]
      rfl
    cases values with
    | nil => simpa using hv
    | cons w values =>
      intro c hc
      rw [List.intercalate_cons_cons, List.mem_append, List.mem_append] at hc
      rcases hc with (hc | hc) | hc
      · exact hv c hc
      · rw [List.mem_singleton.mp hc]
        decide
      · exact ih (fun v hv => h v (List.mem_cons_of_mem _ hv)) c hc

theorem isPrintable_cons {c : Char} {l : List Char} (hne : l ≠ []) (hc : isDot c = true)
    (hl : ∀ d ∈ l, isValueChar d = true) : isPrintable (c :: l) = true := by
  obtain ⟨d, l, rfl⟩ := List.exists_cons_of_ne_nil hne
  rw [isPrintable, hc, Bool.true_and]
  exact List.all_eq_true.mpr hl

theorem Values.printable {values : List (List Char)} (h : Values values) :
    isPrintable ([','].intercalate values) = true ∧ ',' ∈ [','].intercalate values := by
  have hchars := isValueChar_of_mem_intercalate fun v hv => (h.words v hv).2
  obtain ⟨htwo, hwords⟩ := h
  match values, htwo with
  | v :: w :: values, _ =>
    obtain ⟨hne, hv⟩ := hwords v List.mem_cons_self
    obtain ⟨c, v, rfl⟩ := List.exists_cons_of_ne_nil hne
    rw [List.intercalate_cons_cons] at hchars ⊢
    refine ⟨isPrintable_cons (by simp) (isDot_of_isWordChar (hv c List.mem_cons_self)) fun d hd =>
      ?_, by simp⟩
    exact hchars d (List.mem_cons_of_mem _ hd)

theorem first_nil {β : Type} {Good : β → Prop} {print : β → List Char} {r : β} (h : Good r)
    (rest : List Char) :
    First Good print [] r rest :=
  ⟨h, by simp, fun gap₁ gap₂ hgap hne => absurd (List.append_eq_nil_iff.mp hgap.symm).2 hne⟩

theorem InGrammar.cut {l : List Char} (h : InGrammar l) : ∃ c : Cut, c.Taken ∧ c.text = l ∧
    c.Clean := by
  cases h with
  | plain hmem =>
    refine ⟨⟨[], l, [], [], []⟩, .plain (by simp) hmem (by simp), by simp [Cut.text, Cut.tail], rfl,
      rfl, rfl, fun hw => ?_⟩
    exact absurd ((show l = "enum".toList from hw) ▸ hmem) (by decide)
  | range hmin hmax hbounds =>
    refine ⟨_, .range (by simp) (by simp) (first_nil ⟨hmin, hmax⟩ []) hbounds, ?_, rfl, rfl, rfl,
      fun hw => ?_⟩
    · simp only [Cut.text, Cut.tail, List.nil_append, List.append_nil]
    · exact absurd (show "range".toList = "enum".toList from hw) (by decide)
  | @enum values hvalues =>
    obtain ⟨hprintable, hcomma⟩ := hvalues.printable
    have hfirst := @first_nil _ (fun values => isPrintable values = true) enumArgs _ hprintable []
    refine ⟨_, .enum (by simp) (by simp) hfirst hcomma, ?_, rfl, rfl, rfl,
      fun _ => ⟨values, hvalues, rfl⟩⟩
    simp only [Cut.text, Cut.tail, List.nil_append, List.append_nil]

theorem Cut.Clean.inGrammar {c : Cut} (h : c.Clean) (htaken : c.Taken) : InGrammar c.text := by
  have htext : c.text = c.word ++ c.args := by
    rw [Cut.text, Cut.tail, h.before, h.gap, h.rest, List.nil_append, List.nil_append,
      List.append_nil]
  rw [htext]
  cases htaken with
  | plain _ hmem =>
    rw [List.append_nil]
    exact .plain hmem
  | range _ _ hfirst hbounds => exact .range hfirst.good.1 hfirst.good.2 hbounds
  | enum =>
    obtain ⟨values, hvalues, hargs⟩ := h.values rfl
    rw [hargs]
    exact .enum hvalues

theorem Cut.Taken.clean {c : Cut} (htaken : c.Taken) (h : InGrammar c.text) : c.Clean := by
  obtain ⟨c', htaken', htext, hclean⟩ := h.cut
  rwa [htaken.unique htaken' htext.symm]

/-- A text is taken exactly when it is in the grammar, unless it is taken with something
before its word, between the word and its arguments or after them, or with values of an
enum that are no words. -/
theorem type_grammar_iff (s : String) :
    ((∃ t, parseType s = .ok t) ↔ InGrammar s.toList) ↔ ∀ c : Cut, c.Taken → c.text = s.toList →
      c.Clean := by
  rw [parseType_isOk]
  constructor
  · intro h c htaken htext
    have hgrammar := h.mp ⟨c, htaken, htext⟩
    rw [← htext] at hgrammar
    exact htaken.clean hgrammar
  · intro h
    constructor
    · rintro ⟨c, htaken, htext⟩
      rw [← htext]
      exact (h c htaken htext).inGrammar htaken
    · intro hgrammar
      obtain ⟨c, htaken, htext, -⟩ := hgrammar.cut
      exact ⟨c, htaken, htext⟩

/-- A text before the word or after the arguments does not matter, nor does it what the
first value of an enum starts with. -/
theorem texts_with_more_are_taken :
    (parseType "?text" = .ok .text ∧ ¬ InGrammar "?text".toList) ∧
      (parseType "range[1;2] or more" = .ok (.range 1 2) ∧
        ¬ InGrammar "range[1;2] or more".toList) ∧
      parseType "enum\x7b?,b\x7d" = .ok (.enum ["?", "b"]) ∧
        ¬ InGrammar "enum\x7b?,b\x7d".toList := by
  refine ⟨⟨by decide +kernel, fun h => ?_⟩, ⟨by decide +kernel, fun h => ?_⟩, by decide +kernel,
    fun h => ?_⟩
  · have htaken : Cut.Taken ⟨['?'], "text".toList, [], [], []⟩ :=
      .plain (by simp [isLowercase]) (by decide) (by simp)
    exact absurd (htaken.clean h).before (by decide)
  · have hnumeral : ∀ {d : Char}, d.isDigit = true → Numeral [d] :=
      fun hd => ⟨[], [_], .inl rfl, by simp, by simpa using hd, rfl⟩
    have htaken : Cut.Taken ⟨[], "range".toList, [], rangeArgs (['1'], ['2']), " or more".toList⟩ :=
      .range (by simp) (by simp) (first_nil ⟨hnumeral (by decide), hnumeral (by decide)⟩ _)
        (by unfold Bounds; decide)
    exact absurd (htaken.clean h).rest (by decide)
  · have hfirst := @first_nil _ (fun values => isPrintable values = true) enumArgs "?,b".toList
      (by decide) []
    have htaken : Cut.Taken ⟨[], "enum".toList, [], enumArgs "?,b".toList, []⟩ :=
      .enum (by simp) (by simp) hfirst (by decide)
    obtain ⟨values, hvalues, hargs⟩ := (htaken.clean h).values rfl
    have hbody : "?,b".toList = [','].intercalate values :=
      List.append_cancel_right (List.cons.inj hargs).2
    have hchars := isValueChar_of_mem_intercalate fun v hv => (hvalues.words v hv).2
    rw [← hbody] at hchars
    exact absurd (hchars '?' (by decide)) (by decide)

end MylifeHome.Common.Metadata
