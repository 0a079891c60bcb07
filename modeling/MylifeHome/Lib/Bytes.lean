import Mathlib.Algebra.Order.Ring.Int
import Mathlib.Data.List.Basic

/-!
# Bytes of numbers and of texts

Little-endian numbers of a fixed width, and texts as UTF-16 code units. A text goes
to bytes by its code points in UTF-8; a code unit that is half of a surrogate pair
without the other half has no code point and becomes the replacement character.
-/
namespace MylifeHome.Lib.Bytes

/-! ## Numbers -/

def leBytes : Nat → Nat → List UInt8
  | 0, _ => []
  | w + 1, n => UInt8.ofNat (n % 256) :: leBytes w (n / 256)

def leNat : List UInt8 → Nat
  | [] => 0
  | b :: bs => b.toNat + 256 * leNat bs

@[simp] theorem length_leBytes (w n : Nat) : (leBytes w n).length = w := by
  induction w generalizing n with
  | zero => rfl
  | succ w ih => simp [leBytes, ih]

theorem leNat_leBytes {w n : Nat} (h : n < 256 ^ w) : leNat (leBytes w n) = n := by
  induction w generalizing n with
  | zero =>
    rw [Nat.pow_zero] at h
    simp only [leBytes, leNat]
    omega
  | succ w ih =>
    have hn : n / 256 < 256 ^ w := by
      rw [Nat.pow_succ] at h
      omega
    have hm : n % 256 < 256 := Nat.mod_lt _ (by decide)
    rw [leBytes, leNat, ih hn, UInt8.toNat_ofNat_of_lt' hm]
    omega

/-! ## Texts -/

abbrev Units := List UInt16

def isHigh (u : UInt16) : Bool := decide (0xD800 ≤ u.toNat) && decide (u.toNat < 0xDC00)

def isLow (u : UInt16) : Bool := decide (0xDC00 ≤ u.toNat) && decide (u.toNat < 0xE000)

/-- The code point of a surrogate pair. -/
def pair (u v : UInt16) : Char :=
  Char.ofNat (0x10000 + (u.toNat - 0xD800) * 0x400 + (v.toNat - 0xDC00))

def single (u : UInt16) : Char := if isHigh u || isLow u then Char.ofNat 0xFFFD
    else Char.ofNat u.toNat

def toChars : Units → List Char
  | [] => []
  | [u] => [single u]
  | u :: v :: rest => if isHigh u && isLow v then pair u v :: toChars rest
    else single u :: toChars (v :: rest)

def charUnits (c : Char) : Units :=
  if c.toNat < 0x10000 then [UInt16.ofNat c.toNat]
  else [UInt16.ofNat (0xD800 + (c.toNat - 0x10000) / 0x400),
    UInt16.ofNat (0xDC00 + (c.toNat - 0x10000) % 0x400)]

def toUnits (cs : List Char) : Units := cs.flatMap charUnits

/-- Every surrogate is in a pair. -/
def wellFormed : Units → Bool
  | [] => true
  | [u] => !(isHigh u || isLow u)
  | u :: v :: rest => if isHigh u && isLow v then wellFormed rest
    else !(isHigh u || isLow u) && wellFormed (v :: rest)

theorem toNat_ofNat_of_valid {n : Nat} (h : n.isValidChar) : (Char.ofNat n).toNat = n := by
  rw [Char.ofNat, dif_pos h]
  rfl

theorem charUnits_single {u : UInt16} (h : (isHigh u || isLow u) = false) :
    charUnits (single u) = [u] := by
  have hlt := u.toNat_lt
  simp only [isHigh, isLow, Bool.or_eq_false_iff, Bool.and_eq_false_iff,
    decide_eq_false_iff_not] at h
  have hv : u.toNat.isValidChar := by
    unfold Nat.isValidChar
    omega
  have hs : single u = Char.ofNat u.toNat := by
    unfold single
    rw [if_neg]
    simp only [isHigh, isLow, Bool.or_eq_true, Bool.and_eq_true, decide_eq_true_eq]
    omega
  have hn : (Char.ofNat u.toNat).toNat = u.toNat := toNat_ofNat_of_valid hv
  rw [hs, charUnits, hn, if_pos (by omega), UInt16.ofNat_toNat]

theorem charUnits_pair {u v : UInt16} (hu : isHigh u = true) (hv : isLow v = true) :
    charUnits (pair u v) = [u, v] := by
  simp only [isHigh, isLow, Bool.and_eq_true, decide_eq_true_eq] at hu hv
  have hvalid : (0x10000 + (u.toNat - 0xD800) * 0x400 + (v.toNat - 0xDC00)).isValidChar := by
    unfold Nat.isValidChar
    omega
  have hn : (pair u v).toNat = 0x10000 + (u.toNat - 0xD800) * 0x400 + (v.toNat - 0xDC00) :=
    toNat_ofNat_of_valid hvalid
  rw [charUnits, hn, if_neg (by omega)]
  have h₁ : 0xD800 + (0x10000 + (u.toNat - 0xD800) * 0x400 + (v.toNat - 0xDC00) - 0x10000) / 0x400 =
    u.toNat := by omega
  have h₂ : 0xDC00 + (0x10000 + (u.toNat - 0xD800) * 0x400 + (v.toNat - 0xDC00) - 0x10000) % 0x400 =
    v.toNat := by omega
  rw [h₁, h₂, UInt16.ofNat_toNat, UInt16.ofNat_toNat]

theorem toUnits_toChars {l : Units} (h : wellFormed l = true) : toUnits (toChars l) = l := by
  induction l using toChars.induct with
  | case1 => rfl
  | case2 u =>
    have hu : (isHigh u || isLow u) = false := by simpa [wellFormed] using h
    simp [toChars, toUnits, charUnits_single hu]
  | case3 u v rest hp ih =>
    rw [wellFormed, if_pos hp] at h
    rw [Bool.and_eq_true] at hp
    rw [toChars, if_pos (by rw [hp.1, hp.2]; rfl), toUnits, List.flatMap_cons,
      charUnits_pair hp.1 hp.2]
    show u :: v :: toUnits (toChars rest) = _
    rw [ih h]
  | case4 u v rest hp ih =>
    rw [wellFormed, if_neg hp, Bool.and_eq_true] at h
    have hu : (isHigh u || isLow u) = false := by simpa using h.1
    rw [toChars, if_neg hp, toUnits, List.flatMap_cons, charUnits_single hu]
    show u :: toUnits (toChars (v :: rest)) = _
    rw [ih h.2]

theorem wellFormed_cons {u : UInt16} {l : Units} (hu : (isHigh u || isLow u) = false)
    (hl : wellFormed l = true) :
    wellFormed (u :: l) = true := by
  cases l with
  | nil => simp [wellFormed, hu]
  | cons v l =>
    rw [Bool.or_eq_false_iff] at hu
    simp [wellFormed, hu.1, hu.2, hl]

theorem wellFormed_charUnits (c : Char) {l : Units} (hl : wellFormed l = true) :
    wellFormed (charUnits c ++ l) = true := by
  have hc : c.toNat.isValidChar := c.valid
  unfold Nat.isValidChar at hc
  unfold charUnits
  split
  · next hlt =>
    have hn : (UInt16.ofNat c.toNat).toNat = c.toNat :=
      UInt16.toNat_ofNat_of_lt' (by show _ < 65536; omega)
    refine wellFormed_cons ?_ hl
    simp only [isHigh, isLow, hn, Bool.or_eq_false_iff, Bool.and_eq_false_iff,
      decide_eq_false_iff_not]
    omega
  · next hge =>
    have h₁ : (UInt16.ofNat (0xD800 + (c.toNat - 0x10000) / 0x400)).toNat =
        0xD800 + (c.toNat - 0x10000) / 0x400 :=
      UInt16.toNat_ofNat_of_lt' (by show _ < 65536; omega)
    have h₂ : (UInt16.ofNat (0xDC00 + (c.toNat - 0x10000) % 0x400)).toNat =
        0xDC00 + (c.toNat - 0x10000) % 0x400 :=
      UInt16.toNat_ofNat_of_lt' (by show _ < 65536; omega)
    show wellFormed (_ :: _ :: l) = true
    rw [wellFormed, if_pos, hl]
    simp only [isHigh, isLow, h₁, h₂, Bool.and_eq_true, decide_eq_true_eq]
    omega

theorem wellFormed_toUnits (cs : List Char) : wellFormed (toUnits cs) = true := by
  induction cs with
  | nil => rfl
  | cons c cs ih => exact wellFormed_charUnits c ih

theorem toChars_cons {u : UInt16} (hu : isHigh u = false) (l : Units) :
    toChars (u :: l) = single u :: toChars l := by
  cases l with
  | nil => rfl
  | cons v l => simp [toChars, hu]

theorem toChars_charUnits_append (c : Char) (l : Units) :
    toChars (charUnits c ++ l) = c :: toChars l := by
  have hc : c.toNat.isValidChar := c.valid
  unfold Nat.isValidChar at hc
  unfold charUnits
  split
  · next hlt =>
    have hn : (UInt16.ofNat c.toNat).toNat = c.toNat :=
      UInt16.toNat_ofNat_of_lt' (by show _ < 65536; omega)
    have hhigh : isHigh (UInt16.ofNat c.toNat) = false := by
      simp only [isHigh, hn, Bool.and_eq_false_iff, decide_eq_false_iff_not]
      omega
    have hlow : isLow (UInt16.ofNat c.toNat) = false := by
      simp only [isLow, hn, Bool.and_eq_false_iff, decide_eq_false_iff_not]
      omega
    rw [List.singleton_append, toChars_cons hhigh, single, hhigh, hlow, hn]
    exact congrArg (· :: toChars l) (Char.ofNat_toNat c)
  · next hge =>
    have h₁ : (UInt16.ofNat (0xD800 + (c.toNat - 0x10000) / 0x400)).toNat =
        0xD800 + (c.toNat - 0x10000) / 0x400 :=
      UInt16.toNat_ofNat_of_lt' (by show _ < 65536; omega)
    have h₂ : (UInt16.ofNat (0xDC00 + (c.toNat - 0x10000) % 0x400)).toNat =
        0xDC00 + (c.toNat - 0x10000) % 0x400 :=
      UInt16.toNat_ofNat_of_lt' (by show _ < 65536; omega)
    have hpoint : 0x10000 + (0xD800 + (c.toNat - 0x10000) / 0x400 - 0xD800) * 0x400 +
        (0xDC00 + (c.toNat - 0x10000) % 0x400 - 0xDC00) = c.toNat := by omega
    show toChars (_ :: _ :: l) = _
    rw [toChars, if_pos, pair, h₁, h₂, hpoint, Char.ofNat_toNat]
    simp only [isHigh, isLow, h₁, h₂, Bool.and_eq_true, decide_eq_true_eq]
    omega

/-- The UTF-8 bytes of a text. -/
def utf8 (l : Units) : List UInt8 := (toChars l).flatMap String.utf8EncodeChar

/-- The text of UTF-8 bytes; bytes that are no text give the replacement character. -/
def ofUtf8 (bytes : List UInt8) : Units :=
  match bytes.toByteArray.utf8Decode? with
  | some cs => toUnits cs.toList
  | none => [0xFFFD]

theorem ofUtf8_utf8 (l : Units) : ofUtf8 (utf8 l) = toUnits (toChars l) := by
  have h : (utf8 l).toByteArray.utf8Decode? = some (toChars l).toArray :=
    List.utf8Decode?_utf8Encode
  rw [ofUtf8, h]

/-- A text comes back from its bytes exactly if it is well formed. -/
theorem ofUtf8_utf8_eq_iff {l : Units} : ofUtf8 (utf8 l) = l ↔ wellFormed l = true := by
  rw [ofUtf8_utf8]
  exact ⟨fun h => h ▸ wellFormed_toUnits _, toUnits_toChars⟩

theorem toChars_toUnits_append (cs : List Char) (l : Units) :
    toChars (toUnits cs ++ l) = cs ++ toChars l := by
  induction cs with
  | nil => rfl
  | cons c cs ih =>
    show toChars ((charUnits c ++ toUnits cs) ++ l) = c :: (cs ++ toChars l)
    rw [List.append_assoc, toChars_charUnits_append, ih]

/-- The bytes of a well-formed text do not depend on what follows. -/
theorem utf8_append {l : Units} (h : wellFormed l = true) (l' : Units) :
    utf8 (l ++ l') = utf8 l ++ utf8 l' := by
  have hchars : toChars (l ++ l') = toChars l ++ toChars l' := by
    have happend := toChars_toUnits_append (toChars l) l'
    rwa [toUnits_toChars h] at happend
  rw [utf8, hchars, List.flatMap_append]
  rfl

/-- A code unit that is not the second half of a pair starts anew. -/
theorem toChars_concat (l : Units) {u : UInt16} (hlow : isLow u = false) :
    toChars (l ++ [u]) = toChars l ++ [single u] := by
  induction l using toChars.induct with
  | case1 => rfl
  | case2 v => simp [toChars, hlow]
  | case3 v w rest hp ih => simp [toChars, hp, ih]
  | case4 v w rest hp ih =>
    have hcons : toChars (v :: w :: rest ++ [u]) = single v :: toChars (w :: rest ++ [u]) := by
      show toChars (v :: w :: (rest ++ [u])) = _
      rw [toChars, if_neg hp]
      rfl
    rw [hcons, ih, toChars, if_neg hp]
    rfl

/-! ## Plain texts -/

/-- The low bytes of the code units. -/
def ascii (l : Units) : List UInt8 := l.map UInt16.toUInt8

theorem utf8Size_eq_one {c : Char} : c.utf8Size = 1 ↔ c.toNat < 128 := by
  rw [Char.utf8Size_eq_one_iff, UInt32.le_iff_toNat_le]
  exact Nat.lt_succ_iff.symm

theorem two_le_utf8Size {c : Char} (h : 128 ≤ c.toNat) : 2 ≤ c.utf8Size := by
  have hpos := c.utf8Size_pos
  have hne : c.utf8Size ≠ 1 := fun h1 => absurd (utf8Size_eq_one.mp h1) (by omega)
  omega

theorem two_le_utf8Size_single {u : UInt16} (h : 128 ≤ u.toNat) : 2 ≤ (single u).utf8Size := by
  have hlt := u.toNat_lt
  apply two_le_utf8Size
  unfold single
  split
  · decide
  · next hs =>
    simp only [isHigh, isLow, Bool.or_eq_true, Bool.and_eq_true, decide_eq_true_eq] at hs
    rw [toNat_ofNat_of_valid (by unfold Nat.isValidChar; omega)]
    exact h

theorem three_le_utf8Size_pair {u v : UInt16} (hu : isHigh u = true) (hv : isLow v = true) :
    3 ≤ (pair u v).utf8Size := by
  simp only [isHigh, isLow, Bool.and_eq_true, decide_eq_true_eq] at hu hv
  have hn : (pair u v).toNat = 0x10000 + (u.toNat - 0xD800) * 0x400 + (v.toNat - 0xDC00) :=
    toNat_ofNat_of_valid (by unfold Nat.isValidChar; omega)
  have hfour : (pair u v).utf8Size = 4 := by
    rw [Char.utf8Size_eq_four_iff, UInt32.lt_iff_toNat_lt]
    show 65535 < (pair u v).toNat
    omega
  omega

theorem length_utf8 (l : Units) : l.length ≤ (utf8 l).length ∧
    (l.length = (utf8 l).length → ∀ u ∈ l, u.toNat < 128) := by
  have hcons : ∀ (c : Char) (cs : List Char), ((c :: cs).flatMap String.utf8EncodeChar).length =
      c.utf8Size + (cs.flatMap String.utf8EncodeChar).length := by
    intro c cs
    rw [List.flatMap_cons, List.length_append, String.length_utf8EncodeChar]
  unfold utf8
  induction l using toChars.induct with
  | case1 => simp
  | case2 u =>
    rw [toChars, hcons]
    have hpos := (single u).utf8Size_pos
    refine ⟨by simpa using Nat.succ_le_of_lt hpos, fun heq v hv => ?_⟩
    rw [List.mem_singleton.mp hv]
    by_contra hge
    have htwo := two_le_utf8Size_single (show 128 ≤ u.toNat by omega)
    simp only [List.length_singleton, List.flatMap_nil, List.length_nil] at heq
    omega
  | case3 u v rest hp ih =>
    rw [toChars, if_pos hp, hcons]
    rw [Bool.and_eq_true] at hp
    have hthree := three_le_utf8Size_pair hp.1 hp.2
    simp only [List.length_cons]
    exact ⟨by omega, fun heq => by omega⟩
  | case4 u v rest hp ih =>
    rw [toChars, if_neg hp, hcons]
    have hpos := (single u).utf8Size_pos
    simp only [List.length_cons] at ih ⊢
    refine ⟨by omega, fun heq w hw => ?_⟩
    rcases List.mem_cons.mp hw with rfl | hw
    · by_contra hge
      have htwo := two_le_utf8Size_single (show 128 ≤ w.toNat by omega)
      omega
    · exact ih.2 (by omega) w hw

theorem utf8EncodeChar_ascii {u : UInt16} (h : u.toNat < 128) : String.utf8EncodeChar (single u) =
    [u.toUInt8] := by
  have hs : single u = Char.ofNat u.toNat := by
    unfold single
    rw [if_neg]
    simp only [isHigh, isLow, Bool.or_eq_true, Bool.and_eq_true, decide_eq_true_eq]
    omega
  have hn : (single u).toNat = u.toNat := by
    rw [hs]
    exact toNat_ofNat_of_valid (by unfold Nat.isValidChar; omega)
  rw [String.utf8EncodeChar_eq_singleton (utf8Size_eq_one.mpr (by omega))]
  congr 1
  apply UInt8.toNat.inj
  rw [UInt32.toNat_toUInt8, UInt16.toNat_toUInt8]
  exact congrArg (· % 2 ^ 8) hn

/-- The low bytes of a text are its UTF-8 bytes exactly if it has no code unit above 127. -/
theorem ascii_eq_utf8_iff {l : Units} : ascii l = utf8 l ↔ ∀ u ∈ l, u.toNat < 128 := by
  constructor
  · intro h
    refine (length_utf8 l).2 ?_
    rw [← h, ascii, List.length_map]
  · intro h
    induction l with
    | nil => rfl
    | cons u l ih =>
      have hu := h u List.mem_cons_self
      have hhigh : isHigh u = false := by
        simp only [isHigh, Bool.and_eq_false_iff, decide_eq_false_iff_not]
        omega
      rw [utf8, toChars_cons hhigh, List.flatMap_cons, utf8EncodeChar_ascii hu]
      exact congrArg (u.toUInt8 :: ·) (ih fun v hv => h v (List.mem_cons_of_mem _ hv))

end MylifeHome.Lib.Bytes
