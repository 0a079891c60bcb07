import MylifeHome.Lib.Bytes
import MylifeHome.Lib.Mqtt

/-!
# Values on the bus

The types of component members and the encodings of their values in payloads:
`components/metadata/types` and `bus/encoding` of `mylife-home-common`. Texts are
UTF-16 code units. What `JSON.stringify` and `JSON.parse` do is a parameter. Floats
are left out.
-/
namespace MylifeHome.Bus

open MylifeHome.Lib MylifeHome.Lib.Bytes MylifeHome.Lib.Mqtt

/-- The JSON functions of the language on the JSON values. -/
structure JsonCodec (J : Type) where
  null : J
  stringify : J → Units
  parse : Units → Option J
  parse_stringify : ∀ v, parse (stringify v) = some v
  stringify_wellFormed : ∀ v, wellFormed (stringify v) = true
  parse_empty : parse [] = none

/-- A value of a member; a number is an integer. -/
inductive Value (J : Type) where
  | number (n : Int)
  | bool (b : Bool)
  | text (s : Units)
  | json (j : J)
  deriving DecidableEq

/-! ## `bus/encoding` -/

def writeString (value : Units) : Payload := utf8 value

def readString (buffer : Payload) : Units := ofUtf8 buffer

/-- `writeUInt8` and `writeUInt32LE`; a number out of range is refused. -/
def writeUInt (width : Nat) (value : Int) : Option Payload :=
  if 0 ≤ value ∧ value < 256 ^ width then some (leBytes width value.toNat) else none

/-- `readUInt8` and `readUInt32LE`; a buffer that is too short is refused. -/
def readUInt (width : Nat) (buffer : Payload) : Option Int :=
  if width ≤ buffer.length then some (leNat (buffer.take width)) else none

/-- `writeInt8` and `writeInt32LE`, in two's complement. -/
def writeInt (width : Nat) (value : Int) : Option Payload :=
  if -(256 ^ width / 2) ≤ value ∧
    value < 256 ^ width / 2 then some (leBytes width (value % 256 ^ width).toNat) else none

def readInt (width : Nat) (buffer : Payload) : Option Int :=
  (readUInt width buffer).map fun n => if n < 256 ^ width / 2 then n else n - 256 ^ width

def writeUInt8 (value : Int) : Option Payload := writeUInt 1 value
def readUInt8 (buffer : Payload) : Option Int := readUInt 1 buffer
def writeInt8 (value : Int) : Option Payload := writeInt 1 value
def readInt8 (buffer : Payload) : Option Int := readInt 1 buffer
def writeUInt32 (value : Int) : Option Payload := writeUInt 4 value
def readUInt32 (buffer : Payload) : Option Int := readUInt 4 buffer
def writeInt32 (value : Int) : Option Payload := writeInt 4 value
def readInt32 (buffer : Payload) : Option Int := readInt 4 buffer

def writeBool (value : Bool) : Option Payload := writeUInt8 (if value then 1 else 0)

def readBool (buffer : Payload) : Option Bool := (readUInt8 buffer).map fun n => decide (n ≠ 0)

section Json

variable {J : Type} (codec : JsonCodec J)

def writeJson (value : J) : Payload := writeString (codec.stringify value)

def readJson (buffer : Payload) : Option J := codec.parse (readString buffer)

end Json

theorem readUInt_writeUInt {width : Nat} {value : Int} {buffer : Payload}
    (h : writeUInt width value = some buffer) :
    readUInt width buffer = some value := by
  unfold writeUInt at h
  split at h
  · next hv =>
    cases h
    have hlt : value.toNat < 256 ^ width :=
      (Int.toNat_lt hv.1).mpr (by rw [Int.natCast_pow]; exact hv.2)
    rw [readUInt, if_pos (by simp), List.take_of_length_le (by simp), leNat_leBytes hlt,
      Int.toNat_of_nonneg hv.1]
  · cases h

theorem readInt_writeInt {width : Nat} {value : Int} {buffer : Payload}
    (h : writeInt width value = some buffer) :
    readInt width buffer = some value := by
  unfold writeInt at h
  split at h
  · next hv =>
    cases h
    have hpos : (0 : Int) < 256 ^ width := Int.pow_pos (by decide)
    have hnn := Int.emod_nonneg value (Int.ne_of_gt hpos)
    have hlt : (value % 256 ^ width).toNat < 256 ^ width :=
      (Int.toNat_lt hnn).mpr (by rw [Int.natCast_pow]; exact Int.emod_lt_of_pos value hpos)
    rw [readInt, readUInt, if_pos (by simp), List.take_of_length_le (by simp), leNat_leBytes hlt,
      Int.toNat_of_nonneg hnn, Option.map_some]
    congr 1
    generalize hM : (256 : Int) ^ width = M at *
    rcases Int.lt_or_le value 0 with hneg | hge
    · have hmod : value % M = value + M := by
        rw [← Int.add_emod_right, Int.emod_eq_of_lt] <;> omega
      rw [hmod, if_neg (by omega)]
      omega
    · have hmod : value % M = value := Int.emod_eq_of_lt hge (by omega)
      rw [hmod, if_pos hv.2]
  · cases h

theorem readBool_writeBool {value : Bool} {buffer : Payload} (h : writeBool value = some buffer) :
    readBool buffer = some value := by
  rw [readBool, readUInt8, readUInt_writeUInt h]
  cases value <;> rfl

theorem readJson_writeJson {J : Type} (codec : JsonCodec J) (value : J) :
    readJson codec (writeJson codec value) = some value := by
  rw [readJson, writeJson, readString, writeString,
    ofUtf8_utf8_eq_iff.mpr (codec.stringify_wellFormed value), codec.parse_stringify]

/-! ## `components/metadata/types` -/

inductive Primitive where
  | string
  | bool
  | uint8
  | int8
  | uint32
  | int32
  | json
  deriving DecidableEq

def computePrimitive (min max : Int) : Option Primitive :=
  if 0 ≤ min ∧ max ≤ 255 then some .uint8
  else if -128 ≤ min ∧ max ≤ 127 then some .int8
  else if 0 ≤ min ∧ max ≤ 4294967295 then some .uint32
  else if -2147483648 ≤ min ∧ max ≤ 2147483647 then some .int32
  else none

/-- A `Range` that its constructor has accepted. -/
structure Range where
  min : Int
  max : Int
  primitive : Primitive
  min_lt_max : min < max
  fits : computePrimitive min max = some primitive

/-- An `Enum` that its constructor has accepted. -/
structure Enum where
  values : List Units
  two_values : 2 ≤ values.length

inductive ValueType where
  | range (range : Range)
  | text
  | bool
  | enum (enum : Enum)
  | complex

def ValueType.primitive : ValueType → Primitive
  | .range r => r.primitive
  | .text => .string
  | .bool => .bool
  | .enum _ => .string
  | .complex => .json

/-- `validate` of a type; a `Complex` takes every JSON value. -/
def ValueType.validate {J : Type} : ValueType → Value J → Bool
  | .range r, .number n => decide (r.min ≤ n) && decide (n ≤ r.max)
  | .text, .text _ => true
  | .bool, .bool _ => true
  | .enum e, .text s => decide (s ∈ e.values)
  | .complex, .json _ => true
  | _, _ => false

section Codec

variable {J : Type} (codec : JsonCodec J)

def encode : Primitive → Value J → Option Payload
  | .string, .text s => some (writeString s)
  | .bool, .bool b => writeBool b
  | .uint8, .number n => writeUInt8 n
  | .int8, .number n => writeInt8 n
  | .uint32, .number n => writeUInt32 n
  | .int32, .number n => writeInt32 n
  | .json, .json j => some (writeJson codec j)
  | _, _ => none

def decode (p : Primitive) (data : Payload) : Option (Value J) :=
  match p with
  | .string => some (.text (readString data))
  | .bool => (readBool data).map .bool
  | .uint8 => (readUInt8 data).map .number
  | .int8 => (readInt8 data).map .number
  | .uint32 => (readUInt32 data).map .number
  | .int32 => (readInt32 data).map .number
  | .json => (readJson codec data).map .json

end Codec

/-- The value is not a text with half of a surrogate pair in it. -/
def Value.isWellFormed {J : Type} : Value J → Bool
  | .text s => wellFormed s
  | _ => true

section RoundTrip

variable {J : Type} {codec : JsonCodec J} {t : ValueType} {v : Value J} {data : Payload}

variable (codec) in
/-- The primitive of a range has room for its values. -/
theorem encode_range {r : Range} {n : Int} (hmin : r.min ≤ n) (hmax : n ≤ r.max) :
    ∃ data, encode codec r.primitive (.number n) = some data := by
  obtain ⟨min, max, primitive, hlt, hfits⟩ := r
  unfold computePrimitive at hfits
  simp only at hmin hmax
  split at hfits
  · cases hfits
    exact ⟨_, if_pos ⟨by omega, by omega⟩⟩
  · split at hfits
    · cases hfits
      exact ⟨_, if_pos ⟨by omega, by omega⟩⟩
    · split at hfits
      · cases hfits
        exact ⟨_, if_pos ⟨by omega, by omega⟩⟩
      · split at hfits
        · cases hfits
          exact ⟨_, if_pos ⟨by omega, by omega⟩⟩
        · cases hfits

variable (codec) in
theorem encode_of_validate (h : t.validate v = true) :
    ∃ data, encode codec t.primitive v = some data := by
  cases t with
  | range r =>
    cases v with
    | number n =>
      simp only [ValueType.validate, Bool.and_eq_true, decide_eq_true_eq] at h
      exact encode_range codec h.1 h.2
    | bool b | text s | json j => cases h
  | bool =>
    cases v with
    | bool b => cases b <;> exact ⟨_, rfl⟩
    | number n | text s | json j => cases h
  | complex =>
    cases v with
    | json j => exact ⟨_, rfl⟩
    | number n | bool b | text s => cases h
  | text | enum e =>
    cases v with
    | text s => exact ⟨_, rfl⟩
    | number n | bool b | json j => cases h

/-- A value that was encoded comes back exactly if it is well formed. -/
theorem decode_encode_iff {p : Primitive} (h : encode codec p v = some data) :
    decode codec p data = some v ↔ v.isWellFormed = true := by
  cases v with
  | text s =>
    cases p with
    | string =>
      cases h
      simp [decode, Value.isWellFormed, readString, writeString, ofUtf8_utf8_eq_iff]
    | bool | uint8 | int8 | uint32 | int32 | json => cases h
  | bool b =>
    cases p with
    | bool => simp [decode, Value.isWellFormed, readBool_writeBool h]
    | string | uint8 | int8 | uint32 | int32 | json => cases h
  | json j =>
    cases p with
    | json =>
      cases h
      simp [decode, Value.isWellFormed, readJson_writeJson]
    | bool | uint8 | int8 | uint32 | int32 | string => cases h
  | number n =>
    cases p with
    | uint8 => simp [decode, Value.isWellFormed, readUInt8, readUInt_writeUInt h]
    | int8 => simp [decode, Value.isWellFormed, readInt8, readInt_writeInt h]
    | uint32 => simp [decode, Value.isWellFormed, readUInt32, readUInt_writeUInt h]
    | int32 => simp [decode, Value.isWellFormed, readInt32, readInt_writeInt h]
    | string | bool | json => cases h

end RoundTrip

/-! ## Values on the wire -/

/-- `new Range(min, max)`; `none` when it throws. -/
def newRange (min max : Int) : Option Range :=
  if h : min < max then
    match hp : computePrimitive min max with
    | some primitive => some { min, max, primitive, min_lt_max := h, fits := hp }
    | none => none
  else none

section Wire

variable {J : Type} (codec : JsonCodec J)

/-- The integer is encoded and comes back. -/
def Represents (p : Primitive) (n : Int) : Prop :=
  ∃ data, encode codec p (.number n) = some data ∧ decode codec p data = some (.number n)

variable {codec}

theorem Range.represents (r : Range) {n : Int} (hmin : r.min ≤ n) (hmax : n ≤ r.max) :
    Represents codec r.primitive n := by
  obtain ⟨data, hdata⟩ := encode_range codec hmin hmax
  exact ⟨data, hdata, (decode_encode_iff hdata).mpr rfl⟩

/-- Every value that a type accepts crosses the wire, if a text is well formed. The
primitive of a range has room for each of its integers, and bounds that no
primitive has room for are rejected. -/
theorem values_cross_the_wire (codec : JsonCodec J) :
    (∀ (t : ValueType) (v : Value J), t.validate v = true → v.isWellFormed = true →
      ∃ data, encode codec t.primitive v = some data ∧ decode codec t.primitive data = some v) ∧
    ∀ min max : Int, min < max →
      (∀ p, computePrimitive min max = some p → ∀ n, min ≤ n → n ≤ max → Represents codec p n) ∧
      ((∀ p, ∃ n, min ≤ n ∧ n ≤ max ∧ ¬ Represents codec p n) → newRange min max = none) := by
  refine ⟨fun t v hv hw => ?_, fun min max hlt => ?_⟩
  · obtain ⟨data, hdata⟩ := encode_of_validate codec hv
    exact ⟨data, hdata, (decode_encode_iff hdata).mpr hw⟩
  · have hroom : ∀ p, computePrimitive min max = some p → ∀ n, min ≤ n → n ≤ max →
        Represents codec p n :=
      fun p hp n => Range.represents ⟨min, max, p, hlt, hp⟩
    refine ⟨hroom, fun hnone => ?_⟩
    rw [newRange, dif_pos hlt]
    split
    · next p hp =>
      obtain ⟨n, hmin, hmax, hn⟩ := hnone p
      exact absurd (hroom p hp n hmin hmax) hn
    · rfl

end Wire

/-- The JSON values `null`, `true` and `false`. -/
def switchCodec : JsonCodec (Option Bool) where
  null := none
  stringify
    | none => [110, 117, 108, 108]
    | some true => [116, 114, 117, 101]
    | some false => [102, 97, 108, 115, 101]
  parse s :=
    if s = [110, 117, 108, 108] then some none
    else if s = [116, 114, 117, 101] then some (some true)
    else if s = [102, 97, 108, 115, 101] then some (some false)
    else none
  parse_stringify v := by rcases v with _ | _ | _ <;> rfl
  stringify_wellFormed v := by rcases v with _ | _ | _ <;> decide
  parse_empty := by decide

/-- The percents of a dimmer, and a switch. -/
theorem values_cross_the_wire_percent :
    (∃ data, encode switchCodec .uint8 (.number 42) = some data ∧ decode switchCodec .uint8 data =
      some (.number 42)) ∧
      ∃ data, encode switchCodec .string (.text [111, 110]) = some data ∧
        decode switchCodec .string data = some (.text [111, 110]) :=
  ⟨(values_cross_the_wire switchCodec).1 (.range ⟨0, 100, .uint8, by decide, rfl⟩) (.number 42)
    (by decide) (by decide),
    (values_cross_the_wire switchCodec).1 (.enum ⟨[[111, 110], [111, 102, 102]], by decide⟩)
      (.text [111, 110]) (by decide)
      (by decide)⟩

/-- A value of an enum that is half of a surrogate pair comes back as the replacement character. -/
theorem lone_surrogate_is_replaced :
    let t : ValueType := .enum ⟨[[0xD800], [111, 110]], by decide⟩
    let v : Value (Option Bool) := .text [0xD800]
    t.validate v = true ∧ encode switchCodec t.primitive v = some [0xEF, 0xBF, 0xBD] ∧
      decode switchCodec t.primitive [0xEF, 0xBF, 0xBD] = some (.text [0xFFFD]) := by
  decide +kernel

end MylifeHome.Bus
