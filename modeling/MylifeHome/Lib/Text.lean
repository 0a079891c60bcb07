import Mathlib.Data.List.Basic

/-!
# JavaScript string functions

`includes`, `replace` with a string pattern, `split` with a one-character
separator. `replace` rewrites the first occurrence only and reads the dollar
patterns of its replacement text.
-/
namespace MylifeHome.Lib.Text

/-- The text before and after the first occurrence of a pattern. -/
def cut (pattern : List Char) : List Char → Option (List Char × List Char)
  | [] => if pattern = [] then some ([], []) else none
  | c :: l => if pattern.isPrefixOf (c :: l) then some ([], (c :: l).drop pattern.length)
    else (cut pattern l).map (fun p => (c :: p.1, p.2))

def includes (text pattern : String) : Bool := (cut pattern.toList text.toList).isSome

/-- `GetSubstitution` for a string pattern: `$$`, `$&`, and the two patterns for
the text before (a grave accent, 96) and after (an apostrophe, 39) the match. -/
def substitution (matched before after : List Char) : List Char → List Char
  | [] => []
  | [c] => [c]
  | c :: d :: l =>
    if c = '$' then
      if d = '$' then '$' :: substitution matched before after l
      else if d = '&' then matched ++ substitution matched before after l
      else if d = Char.ofNat 96 then before ++ substitution matched before after l
      else if d = Char.ofNat 39 then after ++ substitution matched before after l
      else c :: substitution matched before after (d :: l)
    else c :: substitution matched before after (d :: l)

def replace (text pattern replacement : String) : String :=
  match cut pattern.toList text.toList with
  | none => text
  | some (before, after) =>
    String.ofList (before ++ substitution pattern.toList before after replacement.toList ++ after)

def split (text : String) (separator : Char) : List String :=
  (text.toList.splitOn separator).map String.ofList

/-- The characters that the number functions skip before a number. -/
def isSpace (c : Char) : Bool :=
  (9 ≤ c.toNat && c.toNat ≤ 13) || (0x2000 ≤ c.toNat && c.toNat ≤ 0x200A) ||
    [0x20, 0xA0, 0x1680, 0x2028, 0x2029, 0x202F, 0x205F, 0x3000, 0xFEFF].contains c.toNat

def leadingNat (l : List Char) : Option Nat :=
  if l.takeWhile Char.isDigit = [] then none
  else some (Nat.ofDigitChars 10 (l.takeWhile Char.isDigit) 0)

/-- `parseInt(text, 10)`: the digits after blanks and a sign. -/
def parseInt (text : List Char) : Option Int :=
  match text.dropWhile isSpace with
  | '-' :: l => (leadingNat l).map fun n => -(n : Int)
  | '+' :: l => (leadingNat l).map Int.ofNat
  | l => (leadingNat l).map Int.ofNat

/-- The value of a hexadecimal digit. -/
def hexValue (c : Char) : Option Nat :=
  if c.isDigit then some (c.toNat - 48)
  else if 'a' ≤ c ∧ c ≤ 'f' then some (c.toNat - 87)
  else if 'A' ≤ c ∧ c ≤ 'F' then some (c.toNat - 55)
  else none

def leadingHex (l : List Char) : Option Nat :=
  match l.takeWhile fun c => (hexValue c).isSome with
  | [] => none
  | digits => some (digits.foldl (fun n c => 16 * n + (hexValue c).getD 0) 0)

/-- A number after blanks and a sign. -/
def signed (read : List Char → Option Nat) (text : List Char) : Option Int :=
  match text.dropWhile isSpace with
  | '-' :: l => (read l).map fun n => -(n : Int)
  | '+' :: l => (read l).map Int.ofNat
  | l => (read l).map Int.ofNat

/-- `parseInt(text, 16)` -/
def parseHex : List Char → Option Int :=
  signed fun
    | '0' :: 'x' :: l => leadingHex l
    | '0' :: 'X' :: l => leadingHex l
    | l => leadingHex l

/-- `parseInt(text)`, which takes the radix from the text. -/
def parseNumber : List Char → Option Int :=
  signed fun
    | '0' :: 'x' :: l => leadingHex l
    | '0' :: 'X' :: l => leadingHex l
    | l => leadingNat l

/-- Without a dollar, the replacement text stands for itself. -/
theorem substitution_eq_self {l : List Char} (h : '$' ∉ l) (matched before after : List Char) :
    substitution matched before after l = l := by
  induction l with
  | nil => rfl
  | cons c l ih =>
    rw [List.mem_cons, not_or] at h
    obtain ⟨hc, hl⟩ := h
    cases l with
    | nil => rfl
    | cons d l => rw [substitution, if_neg (Ne.symm hc), ih hl]

theorem append_of_cut {pattern l before after : List Char}
    (h : cut pattern l = some (before, after)) :
    l = before ++ pattern ++ after := by
  induction l generalizing before with
  | nil =>
    rw [cut] at h
    split at h
    · next hp =>
      cases h
      rw [hp]
      rfl
    · cases h
  | cons c l ih =>
    rw [cut] at h
    split at h
    · next hp =>
      cases h
      obtain ⟨rest, hrest⟩ := List.isPrefixOf_iff_prefix.mp hp
      rw [← hrest, List.drop_left, List.nil_append]
    · obtain ⟨⟨b, a⟩, hba, heq⟩ := Option.map_eq_some_iff.mp h
      cases heq
      rw [ih hba]
      rfl

/-- A replacement text without a dollar stands in the place of the pattern. -/
theorem toList_replace (text pattern : String) {replacement : String}
    (h : '$' ∉ replacement.toList) :
    (replace text pattern replacement).toList = text.toList ∨
      ∃ before after, text.toList = before ++ pattern.toList ++ after ∧
        (replace text pattern replacement).toList = before ++ replacement.toList ++ after := by
  unfold replace
  split
  · exact .inl rfl
  · next before after hcut =>
    refine .inr ⟨before, after, append_of_cut hcut, ?_⟩
    rw [String.toList_ofList, substitution_eq_self h]

theorem replace_of_not_includes {text pattern : String} (h : includes text pattern = false)
    (replacement : String) : replace text pattern replacement = text := by
  unfold includes at h
  rw [Option.isSome_eq_false_iff, Option.isNone_iff_eq_none] at h
  rw [replace, h]

/-- In a text with the pattern, texts without a dollar are told apart by what replaces it. -/
theorem replace_inj {text pattern a b : String} (hin : includes text pattern = true)
    (ha : '$' ∉ a.toList) (hb : '$' ∉ b.toList)
    (h : replace text pattern a = replace text pattern b) : a = b := by
  obtain ⟨⟨before, after⟩, hcut⟩ := Option.isSome_iff_exists.mp hin
  simp only [replace, hcut, substitution_eq_self ha, substitution_eq_self hb] at h
  have hlist := congrArg String.toList h
  simp only [String.toList_ofList] at hlist
  exact String.toList_inj.mp (List.append_cancel_left (List.append_cancel_right hlist))

theorem not_mem_of_mem_splitOn {α : Type*} [BEq α] [LawfulBEq α] {x : α} {xs l : List α}
    (h : l ∈ xs.splitOn x) : x ∉ l := by
  induction xs generalizing l with
  | nil => simp_all [List.splitOn]
  | cons a xs ih =>
    rw [List.splitOn, List.splitOnP_cons_eq_if_modifyHead] at h
    by_cases ha : (a == x) = true
    · rw [if_pos ha, List.mem_cons] at h
      rcases h with rfl | h
      · simp
      · exact ih h
    · rw [if_neg ha] at h
      cases hs : xs.splitOnP (· == x) with
      | nil => exact absurd hs (List.splitOnP_ne_nil _ _)
      | cons p ps =>
        rw [hs] at h
        rcases List.mem_cons.mp h with rfl | h
        · rw [List.mem_cons, not_or]
          exact ⟨fun hx => ha (by simp [hx]),
            ih (by rw [List.splitOn, hs]; exact List.mem_cons_self)⟩
        · exact ih (by rw [List.splitOn, hs]; exact List.mem_cons_of_mem _ h)

/-- Joined parts without the separator in them are found again. -/
theorem split_of_toList {text : String} {c : Char} {parts : List String}
    (hp : ∀ p ∈ parts, c ∉ p.toList) (hne : parts ≠ [])
    (h : text.toList = [c].intercalate (parts.map String.toList)) :
    split text c = parts := by
  rw [split, h, List.splitOn_intercalate c (by simpa using hp) (by simpa using hne), List.map_map]
  simp

theorem split_inj {text text' : String} {c : Char} (h : split text c = split text' c) :
    text = text' := by
  have hl : text.toList.splitOn c = text'.toList.splitOn c :=
    List.map_injective_iff.mpr (fun _ _ => String.ofList_inj.mp) h
  have hj := congrArg [c].intercalate hl
  rw [List.intercalate_splitOn, List.intercalate_splitOn] at hj
  exact String.toList_inj.mp hj

theorem not_mem_of_mem_split {text part : String} {c : Char} (h : part ∈ split text c) :
    c ∉ part.toList := by
  obtain ⟨l, hl, rfl⟩ := List.mem_map.mp h
  rw [String.toList_ofList]
  exact not_mem_of_mem_splitOn hl

/-- The first separator is the same in both lists. -/
theorem append_separator_inj {α : Type*} {x : α} {p p' l l' : List α} (hp : x ∉ p) (hp' : x ∉ p')
    (h : p ++ x :: l = p' ++ x :: l') : p = p' ∧ l = l' := by
  induction p generalizing p' with
  | nil =>
    cases p' with
    | nil => exact ⟨rfl, (List.cons.inj h).2⟩
    | cons a p' => exact absurd (List.cons.inj h).1 (List.ne_of_not_mem_cons hp')
  | cons a p ih =>
    cases p' with
    | nil => exact absurd (List.cons.inj h).1.symm (List.ne_of_not_mem_cons hp)
    | cons a' p' =>
      obtain ⟨rfl, hrest⟩ := List.cons.inj h
      obtain ⟨rfl, rfl⟩ :=
        ih (List.not_mem_of_not_mem_cons hp) (List.not_mem_of_not_mem_cons hp') hrest
      exact ⟨rfl, rfl⟩

/-- Joined parts are found again when only the last of them may have the separator in it. -/
theorem intercalate_inj {α : Type*} {x : α} {l l' : List (List α)} (hlen : l.length = l'.length)
    (hl : ∀ p ∈ l.dropLast, x ∉ p) (hl' : ∀ p ∈ l'.dropLast, x ∉ p)
    (h : [x].intercalate l = [x].intercalate l') :
    l = l' := by
  induction l generalizing l' with
  | nil => exact (List.length_eq_zero_iff.mp hlen.symm).symm
  | cons p l ih =>
    obtain ⟨p', l', rfl⟩ := List.exists_cons_of_length_eq_add_one (hlen.symm.trans List.length_cons)
    cases l with
    | nil =>
      obtain rfl := List.length_eq_zero_iff.mp (Nat.succ.inj hlen).symm
      simpa using h
    | cons q l =>
      obtain ⟨q', l', rfl⟩ :=
        List.exists_cons_of_length_eq_add_one ((Nat.succ.inj hlen).symm.trans List.length_cons)
      rw [List.intercalate_cons_cons, List.intercalate_cons_cons, List.append_assoc,
        List.append_assoc] at h
      rw [List.dropLast_cons_cons, List.forall_mem_cons] at hl hl'
      obtain ⟨rfl, hrest⟩ := append_separator_inj hl.1 hl'.1 h
      rw [ih (Nat.succ.inj hlen) hl.2 hl'.2 hrest]

example : replace "a-$-b" "$" "$&$$" = "a-$$-b" := by decide

example : split "a::b" ':' = ["a", "", "b"] := by decide

/-- A number is known by its decimal text. -/
theorem repr_inj {a b : Nat} (h : Nat.repr a = Nat.repr b) : a = b := by
  have hl : (Nat.toDigits 10 a) = Nat.toDigits 10 b := by
    have := congrArg String.toList h
    simpa [Nat.repr] using this
  have := congrArg (fun d => Nat.ofDigitChars 10 d 0) hl
  simpa [Nat.ofDigitChars_ten_toDigits] using this

/-! ## Hexadecimal digits -/

theorem hexValue_range {c : Char} {n : Nat} (h : hexValue c = some n) :
    (48 ≤ c.toNat ∧ c.toNat ≤ 57 ∧ n = c.toNat - 48) ∨
      (97 ≤ c.toNat ∧ c.toNat ≤ 102 ∧ n = c.toNat - 87) ∨
      (65 ≤ c.toNat ∧ c.toNat ≤ 70 ∧ n = c.toNat - 55) := by
  have hle : ∀ a b : Char, a ≤ b ↔ a.toNat ≤ b.toNat := fun a b => UInt32.le_iff_toNat_le
  unfold hexValue at h
  split at h
  · rename_i hdigit
    rw [Char.isDigit_iff_toNat] at hdigit
    cases h
    exact .inl ⟨hdigit.1, hdigit.2, rfl⟩
  · split at h
    · rename_i hlower
      rw [hle, hle] at hlower
      cases h
      exact .inr (.inl ⟨hlower.1, hlower.2, rfl⟩)
    · split at h
      · rename_i hupper
        rw [hle, hle] at hupper
        cases h
        exact .inr (.inr ⟨hupper.1, hupper.2, rfl⟩)
      · cases h

theorem hexValue_lt {c : Char} {n : Nat} (h : hexValue c = some n) : n < 16 := by
  have hrange := hexValue_range h
  omega

/-- A number that starts with a digit is read from its first character on. -/
theorem signed_of_hex {read : List Char → Option Nat} {c : Char} {n : Nat} (h : hexValue c = some n)
    (l : List Char) :
    signed read (c :: l) = (read (c :: l)).map Int.ofNat := by
  have hrange := hexValue_range h
  have hspace : isSpace c = false := by
    simp only [isSpace, List.contains_eq_mem, List.mem_cons, List.not_mem_nil, or_false,
      Bool.or_eq_false_iff, Bool.and_eq_false_iff, decide_eq_false_iff_not]
    omega
  have hsign : c ≠ '-' ∧ c ≠ '+' := by
    constructor
    · rintro rfl
      simp [hexValue] at h
    · rintro rfl
      simp [hexValue] at h
  rw [signed, List.dropWhile_cons_of_neg (by simp [hspace])]
  split
  · rename_i heq
    exact absurd (List.cons.inj heq).1 hsign.1
  · rename_i heq
    exact absurd (List.cons.inj heq).1 hsign.2
  · rfl

/-- Two hexadecimal digits. -/
theorem parseHex_pair {a b : Char} {m n : Nat} (ha : hexValue a = some m)
    (hb : hexValue b = some n) :
    parseHex [a, b] = some ((16 * m + n : Nat) : Int) := by
  have hread : leadingHex [a, b] = some (16 * m + n) := by
    simp [leadingHex, ha, hb]
  rw [parseHex, signed_of_hex ha]
  split
  · rename_i heq
    cases heq
    simp [hexValue] at hb
  · rename_i heq
    cases heq
    simp [hexValue] at hb
  · rw [hread]
    rfl
end MylifeHome.Lib.Text
