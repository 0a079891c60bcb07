import MylifeHome.Lib.Bytes

/-!
# Buffers

Numbers are written to and read from fixed offsets of a buffer, which keeps its length. A
number that does not fit its width and an offset outside the buffer are errors.
-/
namespace MylifeHome.Lib.Buffer

open MylifeHome.Lib.Bytes

inductive RangeError where
  | value
  | offset
  deriving DecidableEq

def slice (l : List UInt8) (offset width : Nat) : List UInt8 := (l.drop offset).take width

/-- The bytes from the offset on are replaced. -/
def splice (l : List UInt8) (offset : Nat) (bytes : List UInt8) : List UInt8 :=
  l.take offset ++ bytes ++ l.drop (offset + bytes.length)

def writeUInt (width : Nat) (value : Int) (offset : Nat) (l : List UInt8) :
    Except RangeError (List UInt8) :=
  if value < 0 ∨ (256 ^ width : Nat) ≤ value then .error .value
  else if l.length < offset + width then .error .offset
  else .ok (splice l offset (leBytes width value.toNat))

def readUInt (width offset : Nat) (l : List UInt8) : Except RangeError Nat :=
  if l.length < offset + width then .error .offset else .ok (leNat (slice l offset width))

/-- A number in two's complement. -/
def toSigned (width n : Nat) : Int := if 2 * n < 256 ^ width then n
    else (n : Int) - (256 ^ width : Nat)

def readInt (width offset : Nat) (l : List UInt8) : Except RangeError Int :=
  (readUInt width offset l).map (toSigned width)

variable {l bytes : List UInt8} {offset width i : Nat}

theorem length_splice (h : offset + bytes.length ≤ l.length) :
    (splice l offset bytes).length = l.length := by
  simp only [splice, List.length_append, List.length_take, List.length_drop]
  omega

theorem getElem?_splice (h : offset + bytes.length ≤ l.length) (i : Nat) :
    (splice l offset bytes)[i]? =
    if i < offset then l[i]? else if i < offset + bytes.length then bytes[i - offset]?
    else l[i]? := by
  have htake : (l.take offset).length = offset := List.length_take_of_le (by omega)
  rw [splice, List.append_assoc, List.getElem?_append, htake]
  split
  · rw [List.getElem?_take_of_lt (by assumption)]
  · rw [List.getElem?_append]
    by_cases hlt : i < offset + bytes.length
    · rw [if_pos (by omega), if_pos hlt]
    · rw [if_neg (by omega), if_neg hlt, List.getElem?_drop]
      congr 1
      omega

theorem getElem?_slice (l : List UInt8) (offset width i : Nat) : (slice l offset width)[i]? =
    if i < width then l[offset + i]? else none := by
  rw [slice, List.getElem?_take, List.getElem?_drop]

/-- What was written is read back. -/
theorem slice_splice (h : offset + bytes.length ≤ l.length) :
    slice (splice l offset bytes) offset bytes.length = bytes := by
  refine List.ext_getElem? fun i => ?_
  rw [getElem?_slice, getElem?_splice h]
  split
  · rw [if_neg (by omega), if_pos (by omega), Nat.add_sub_cancel_left]
  · rw [List.getElem?_eq_none (by omega)]

/-- A second write at the same place replaces the first one. -/
theorem splice_splice {bytes' : List UInt8} (hlen : bytes'.length = bytes.length)
    (h : offset + bytes.length ≤ l.length) :
    splice (splice l offset bytes) offset bytes' = splice l offset bytes' := by
  refine List.ext_getElem? fun i => ?_
  have hlength := length_splice h
  rw [getElem?_splice (by omega), getElem?_splice h, getElem?_splice (by omega), hlen]
  split_ifs <;> rfl

theorem splice_slice (h : offset + width ≤ l.length) (hbytes : slice l offset width = bytes) :
    splice l offset bytes = l := by
  have hlen : bytes.length = width := by
    rw [← hbytes, slice, List.length_take, List.length_drop]
    omega
  refine List.ext_getElem? fun i => ?_
  rw [getElem?_splice (by omega), ← hbytes, getElem?_slice, hbytes, hlen]
  split_ifs with h₁ h₂ h₃
  · rfl
  · congr 1
    omega
  · omega
  · rfl

theorem splice_set {b : UInt8} (h : offset + bytes.length ≤ l.length)
    (hi : i < offset ∨ offset + bytes.length ≤ i) :
    splice (l.set i b) offset bytes = (splice l offset bytes).set i b := by
  have hset : offset + bytes.length ≤ (l.set i b).length := by
    rw [List.length_set]
    exact h
  refine List.ext_getElem? fun j => ?_
  rw [getElem?_splice hset, List.getElem?_set, List.getElem?_set, getElem?_splice h,
    length_splice h]
  split_ifs <;> first | rfl | omega

theorem slice_set {b : UInt8} (hi : i < offset ∨ offset + width ≤ i) :
    slice (l.set i b) offset width = slice l offset width := by
  refine List.ext_getElem? fun j => ?_
  rw [getElem?_slice, getElem?_slice, List.getElem?_set]
  split_ifs <;> first | rfl | omega

theorem slice_append (l' : List UInt8) (h : offset + width ≤ l.length) :
    slice (l ++ l') offset width = slice l offset width := by
  rw [slice, slice, List.drop_append_of_le_length (by omega),
    List.take_append_of_le_length (by rw [List.length_drop]; omega)]

theorem writeUInt_ok {value : Nat} (hv : value < 256 ^ width) (h : offset + width ≤ l.length) :
    writeUInt width value offset l = .ok (splice l offset (leBytes width value)) := by
  rw [writeUInt, if_neg, if_neg (by omega)]
  · rfl
  · have hlt : (value : Int) < (256 ^ width : Nat) := Int.ofNat_lt.mpr hv
    omega

theorem readUInt_ok (h : offset + width ≤ l.length) :
    readUInt width offset l = .ok (leNat (slice l offset width)) :=
  if_neg (by omega)

/-- A number is less than the next power of its width. -/
theorem leNat_lt (l : List UInt8) : leNat l < 256 ^ l.length := by
  induction l with
  | nil => decide
  | cons b l ih =>
    have hb := b.toNat_lt
    rw [leNat, List.length_cons, Nat.pow_succ]
    omega

/-- The sum of the bytes after one of them is changed. -/
theorem sum_set {b : UInt8} (h : i < l.length) :
    ((l.set i b).map UInt8.toNat).sum + l[i].toNat = (l.map UInt8.toNat).sum + b.toNat := by
  induction l generalizing i with
  | nil => cases h
  | cons a l ih =>
    cases i with
    | zero =>
      simp only [List.set_cons_zero, List.map_cons, List.sum_cons, List.getElem_cons_zero]
      omega
    | succ i =>
      have hrest := ih (Nat.lt_of_succ_lt_succ h)
      simp only [List.set_cons_succ, List.map_cons, List.sum_cons, List.getElem_cons_succ]
      omega

end MylifeHome.Lib.Buffer
