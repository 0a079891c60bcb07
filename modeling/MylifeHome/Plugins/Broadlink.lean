import MylifeHome.Lib.Buffer
import MylifeHome.Lib.Effect
import MylifeHome.Lib.Text

/-!
# Packets of the broadlink driver

`createPacket` and `parsePacket` of a device, and what it takes from the answer to its
authentication. The identifier of the device is read as a signed number and written as an
unsigned one.
-/
namespace MylifeHome.Plugins.Broadlink

open MylifeHome.Lib
open MylifeHome.Lib.Bytes
open MylifeHome.Lib.Buffer

/-! ## The device -/

inductive PacketError where
  | notSetUp
  | range (error : RangeError)
  | keyLength
  | blockLength
  | badChecksum (id : Nat)
  | status (errCode : Int) (id : Nat)
  deriving DecidableEq

def iv : List UInt8 := [0x56, 0x2e, 0x17, 0x99, 0x6d, 0x09, 0x3d, 0x28, 0xdd, 0xb3, 0xba, 0x69,
    0x5a, 0x2e, 0x6f, 0x58]

def cid : List UInt8 := [0xa5, 0xaa, 0x55, 0x5a, 0xa5, 0xaa, 0x55, 0x0]

/-- AES in CBC mode without padding, with a key, an initial vector and whole blocks. -/
structure Cipher where
  encrypt : List UInt8 → List UInt8 → List UInt8 → List UInt8
  decrypt : List UInt8 → List UInt8 → List UInt8 → List UInt8
  length_encrypt : ∀ key iv data, (encrypt key iv data).length = data.length
  decrypt_encrypt : ∀ key iv data, key.length = 16 → data.length % 16 = 0 →
    decrypt key iv (encrypt key iv data) = data

/-- `update` and `final` of a cipher or a decipher. -/
def transform (f : List UInt8 → List UInt8 → List UInt8 → List UInt8) (key data : List UInt8) :
    Except PacketError (List UInt8) :=
  if key.length ≠ 16 then .error .keyLength
  else if data.length % 16 ≠ 0 then .error .blockLength
  else .ok (f key iv data)

structure Device where
  type : Nat
  mac : List Char
  key : List UInt8
  deviceId : Option Int
  sendCounter : Nat

/-- The checksum of a buffer that is not empty. -/
def checksum (buffer : List UInt8) : Nat := (0xbeaf + (buffer.map UInt8.toNat).sum) % 65536

def writeNumber (width : Nat) (value : Int) (offset : Nat) (packet : List UInt8) :
    Except PacketError (List UInt8) :=
  (writeUInt width value offset packet).mapError .range

/-- The parts of the address, from the last to the first; a part that is not a number is written as
zero. -/
def writeMac (packet : List UInt8) (offset : Nat) : List (List Char) →
    Except PacketError (List UInt8)
  | [] => .ok packet
  | part :: parts => do
    let packet ← writeNumber 1 ((Text.parseHex part).getD 0) offset packet
    writeMac packet (offset + 1) parts

/-- `if (deviceId)`: there is none before the authentication, and zero is none either. -/
def writeDeviceId (deviceId : Option Int) (packet : List UInt8) : Except PacketError (List UInt8) :=
  match deviceId with
  | none => .ok packet
  | some id => if id = 0 then .ok packet else writeNumber 4 id 0x30 packet

def writePayloadChecksum (payload packet : List UInt8) : Except PacketError (List UInt8) :=
  if payload.length > 0 then writeNumber 2 (checksum payload) 52 packet else .ok packet

/-- The header before its fields are written. -/
def blankHeader : List UInt8 := splice (splice (List.replicate 0x38 0) 0 [0x5a]) 1 cid

/-- `createPacket` from the identifier on. -/
def finishPacket (cipher : Cipher) (d : Device) (payload packet : List UInt8) :
    Except PacketError (List UInt8) := do
  let packet ← writeDeviceId d.deviceId packet
  let packet ← writePayloadChecksum payload packet
  let encrypted ← transform cipher.encrypt d.key payload
  let packet := packet ++ encrypted
  writeNumber 2 (checksum packet) 0x20 packet

def createPacket (cipher : Cipher) (command : Nat) (payload : List UInt8) :
    EStateM PacketError Device (List UInt8) := do
  let d ← get
  throwIf (d.mac = []) PacketError.notSetUp
  let packet ← orThrow (writeNumber 2 d.type 0x24 blankHeader)
  let packet ← orThrow (writeNumber 1 command 0x26 packet)
  modify fun d => { d with sendCounter := d.sendCounter + 1 }
  let packet ← orThrow (writeNumber 2 (d.sendCounter % 65536 : Nat) 0x28 packet)
  let packet ← orThrow (writeMac packet 0x2a (d.mac.splitOn ':').reverse)
  orThrow (finishPacket cipher d payload packet)

def parsePacket (cipher : Cipher) (key packet : List UInt8) : Except PacketError (List UInt8) := do
  let id ← (readUInt 2 0x28 packet).mapError PacketError.range
  let cs ← (readUInt 2 0x20 packet).mapError PacketError.range
  let packet ← writeNumber 2 0 0x20 packet
  if cs ≠ checksum packet then throw (.badChecksum id)
  let errCode ← (readInt 2 0x22 packet).mapError PacketError.range
  if errCode ≠ 0 then throw (.status errCode id)
  if packet.length < 0x38 then throw (.range .value)
  transform cipher.decrypt key (packet.drop 0x38)

/-- What `auth` takes from the answer. -/
def Device.authenticate (d : Device) (payload : List UInt8) : Except PacketError Device := do
  let deviceId ← (readInt 4 0 payload).mapError PacketError.range
  let key := splice (List.replicate 16 0) 0 (slice payload 4 16)
  return { d with key, deviceId := some deviceId }

/-! ## What packets have to do -/

/-- Six parts of two hexadecimal digits. -/
def WellFormedMac (mac : List Char) : Prop :=
  (mac.splitOn ':').length = 6 ∧ ∀ part ∈ mac.splitOn ':', part.length = 2 ∧
    ∀ c ∈ part, (Text.hexValue c).isSome = true

instance (mac : List Char) : Decidable (WellFormedMac mac) :=
  decidable_of_iff ((mac.splitOn ':').length = 6 ∧
    (mac.splitOn ':').all (fun part => part.length == 2 && part.all fun c =>
      (Text.hexValue c).isSome) = true)
    (by simp only [WellFormedMac, List.all_eq_true, Bool.and_eq_true, beq_iff_eq])

/-- The packet is made, its payload is read back, and no byte outside the checksum can be changed
unnoticed. -/
def PacketWorks (cipher : Cipher) (d : Device) (command : Nat) (payload : List UInt8) : Prop :=
  ∃ packet d', (createPacket cipher command payload).run d = .ok packet d' ∧
    parsePacket cipher d'.key packet = .ok payload ∧
    ∀ i b, (hi : i < packet.length) → i ≠ 0x20 → i ≠ 0x21 → b ≠ packet[i] →
      ∃ error, parsePacket cipher d'.key (packet.set i b) = .error error

/-! ## The header -/

/-- A header whose checksum and error fields are still zero. -/
structure Header (packet : List UInt8) : Prop where
  length : packet.length = 0x38
  zero : slice packet 0x20 4 = [0, 0, 0, 0]

theorem header_blank : Header blankHeader := ⟨by decide +kernel, by decide +kernel⟩

theorem Header.write {packet : List UInt8} (h : Header packet) {width value offset : Nat}
    (hv : value < 256 ^ width) (hoffset : 0x24 ≤ offset) (hle : offset + width ≤ 0x38) :
    ∃ packet', writeNumber width value offset packet = .ok packet' ∧ Header packet' := by
  have hfits : offset + width ≤ packet.length := by rw [h.length]; exact hle
  have hbytes : offset + (leBytes width value).length ≤ packet.length := by
    rw [length_leBytes]; exact hfits
  refine ⟨splice packet offset (leBytes width value), ?_, (length_splice hbytes).trans h.length, ?_⟩
  · rw [writeNumber, writeUInt_ok hv hfits]
    rfl
  · rw [← h.zero]
    refine List.ext_getElem? fun i => ?_
    rw [getElem?_slice, getElem?_slice, getElem?_splice hbytes]
    split_ifs <;> first | rfl | omega

theorem Header.writeMac {packet : List UInt8} (h : Header packet) {parts : List (List Char)}
    {offset : Nat}
    (hparts : ∀ part ∈ parts, part.length = 2 ∧ ∀ c ∈ part, (Text.hexValue c).isSome = true)
    (hoffset : 0x24 ≤ offset)
    (hle : offset + parts.length ≤ 0x38) : ∃ packet', Broadlink.writeMac packet offset parts =
      .ok packet' ∧ Header packet' := by
  induction parts generalizing packet offset with
  | nil => exact ⟨packet, rfl, h⟩
  | cons part parts ih =>
    obtain ⟨hlen, hdigits⟩ := hparts part List.mem_cons_self
    obtain ⟨a, b, rfl⟩ := List.length_eq_two.mp hlen
    obtain ⟨m, hm⟩ := Option.isSome_iff_exists.mp (hdigits a (by simp))
    obtain ⟨n, hn⟩ := Option.isSome_iff_exists.mp (hdigits b (by simp))
    have hm' := Text.hexValue_lt hm
    have hn' := Text.hexValue_lt hn
    rw [List.length_cons] at hle
    have hbyte : 16 * m + n < 256 ^ 1 := by omega
    obtain ⟨packet₁, hwrite, hpacket₁⟩ := h.write hbyte hoffset (by omega)
    have hnext : 0x24 ≤ offset + 1 := by omega
    obtain ⟨packet₂, hrest, hpacket₂⟩ :=
      ih hpacket₁ (fun part hp => hparts part (List.mem_cons_of_mem _ hp)) hnext (by omega)
    refine ⟨packet₂, except_bind_ok.mpr ⟨packet₁, ?_, hrest⟩, hpacket₂⟩
    rw [Text.parseHex_pair hm hn]
    exact hwrite

theorem checksum_lt (buffer : List UInt8) : checksum buffer < 256 ^ 2 := Nat.mod_lt _ (by decide)

theorem Header.writePayloadChecksum {packet : List UInt8} (h : Header packet)
    (payload : List UInt8) :
    ∃ packet', Broadlink.writePayloadChecksum payload packet = .ok packet' ∧ Header packet' := by
  unfold Broadlink.writePayloadChecksum
  split
  · exact h.write (checksum_lt payload) (by decide) (by decide)
  · exact ⟨packet, rfl, h⟩

/-- An identifier that is not negative is written, or left out. -/
theorem Header.writeDeviceId {packet : List UInt8} (h : Header packet) {id : Nat}
    (hid : id < 256 ^ 4) :
    ∃ packet', Broadlink.writeDeviceId (some id) packet = .ok packet' ∧ Header packet' := by
  unfold Broadlink.writeDeviceId
  by_cases hzero : (id : Int) = 0
  · exact ⟨packet, if_pos hzero, h⟩
  · obtain ⟨packet', hwrite, hpacket'⟩ := h.write hid (by decide : 0x24 ≤ 0x30) (by decide)
    exact ⟨packet', (if_neg hzero).trans hwrite, hpacket'⟩

theorem writeDeviceId_negative {id : Int} (hid : id < 0) (packet : List UInt8) :
    writeDeviceId (some id) packet = .error (.range .value) := by
  unfold writeDeviceId
  simp only
  rw [if_neg (by omega), writeNumber, writeUInt, if_pos (.inl hid)]
  rfl

/-! ## A packet and its payload -/

section Packet

variable {cipher : Cipher} {d : Device} {command : Nat} {payload : List UInt8}

/-- The fields of a device that is set up. -/
structure SetUp (d : Device) : Prop where
  mac : WellFormedMac d.mac
  type : d.type < 256 ^ 2
  key : d.key.length = 16

theorem WellFormedMac.ne_nil {mac : List Char} (h : WellFormedMac mac) : mac ≠ [] := by
  rintro rfl
  exact absurd h.1 (by decide)

/-- The header up to the identifier is written without an error. -/
theorem createPacket_run (cipher : Cipher) (payload : List UInt8) (h : SetUp d)
    (hcommand : command < 256) : ∃ header, Header header ∧
    (createPacket cipher command payload).run d =
      (orThrow (finishPacket cipher d payload header) : EStateM _ _ _).run { d with
        sendCounter := d.sendCounter + 1 } := by
  have hmac : decide (d.mac = []) = false := decide_eq_false h.mac.ne_nil
  obtain ⟨p₁, hp₁, hh₁⟩ := header_blank.write h.type (by decide : 0x24 ≤ 0x24) (by decide)
  have hbyte : command < 256 ^ 1 := hcommand
  obtain ⟨p₂, hp₂, hh₂⟩ := hh₁.write hbyte (by decide : 0x24 ≤ 0x26) (by decide)
  have hcounter : d.sendCounter % 65536 < 256 ^ 2 := Nat.mod_lt _ (by decide)
  obtain ⟨p₃, hp₃, hh₃⟩ := hh₂.write hcounter (by decide : 0x24 ≤ 0x28) (by decide)
  have hparts : ∀ part ∈ (d.mac.splitOn ':').reverse, part.length = 2 ∧
      ∀ c ∈ part, (Text.hexValue c).isSome = true :=
    fun part hp => h.mac.2 part (List.mem_reverse.mp hp)
  have hlength : 0x2a + (d.mac.splitOn ':').reverse.length ≤ 0x38 := by
    rw [List.length_reverse, h.mac.1]
    decide
  obtain ⟨p₄, hp₄, hh₄⟩ := hh₃.writeMac hparts (by decide) hlength
  refine ⟨p₄, hh₄, ?_⟩
  simp only [createPacket, EStateM.run_bind, EStateM.run_get, EStateM.run_modify, hmac,
    run_throwIf_false, hp₁, hp₂, hp₃, hp₄, run_orThrow]

/-- The packet of a header: the checksum of the header and of the encrypted payload is put into the
header. -/
theorem finishPacket_ok (cipher : Cipher) (hkey : d.key.length = 16)
    (hpayload : payload.length % 16 = 0) {id : Nat} (hid : d.deviceId = some (id : Int))
    (hlt : id < 256 ^ 4) {packet : List UInt8} (hpacket : Header packet) : ∃ header, Header header ∧
    finishPacket cipher d payload packet =
      .ok (splice (header ++ cipher.encrypt d.key iv payload) 0x20
      (leBytes 2 (checksum (header ++ cipher.encrypt d.key iv payload)))) := by
  obtain ⟨p₁, hp₁, hh₁⟩ := hpacket.writeDeviceId hlt
  obtain ⟨header, hp₂, hh₂⟩ := hh₁.writePayloadChecksum payload
  have htransform : transform cipher.encrypt d.key payload =
      .ok (cipher.encrypt d.key iv payload) := by
    rw [transform, if_neg (by omega), if_neg (by omega)]
  have hfits : 0x20 + 2 ≤ (header ++ cipher.encrypt d.key iv payload).length := by
    rw [List.length_append, hh₂.length]
    omega
  refine ⟨header, hh₂, ?_⟩
  rw [← hid] at hp₁
  refine except_bind_ok.mpr ⟨p₁, hp₁,
    except_bind_ok.mpr ⟨header, hp₂, except_bind_ok.mpr ⟨_, htransform, ?_⟩⟩⟩
  rw [writeNumber, writeUInt_ok (checksum_lt _) hfits]
  rfl

theorem finishPacket_negative {id : Int} (hid : d.deviceId = some id) (hneg : id < 0)
    (packet : List UInt8) :
    finishPacket cipher d payload packet = .error (.range .value) := by
  rw [finishPacket, hid, writeDeviceId_negative hneg]
  rfl

end Packet

/-- How a packet is read: its checksum is compared with the one of the rest. -/
theorem parsePacket_eq (cipher : Cipher) (key : List UInt8) {packet : List UInt8}
    (h : 0x38 ≤ packet.length) :
    parsePacket cipher key packet =
      if leNat (slice packet 0x20 2) ≠ checksum (splice packet 0x20 [0, 0]) then
        .error (.badChecksum (leNat (slice packet 0x28 2)))
      else if toSigned 2 (leNat (slice (splice packet 0x20 [0, 0]) 0x22 2)) ≠ 0 then
        .error (.status (toSigned 2 (leNat (slice (splice packet 0x20 [0, 0]) 0x22 2)))
          (leNat (slice packet 0x28 2)))
      else transform cipher.decrypt key ((splice packet 0x20 [0, 0]).drop 0x38) := by
  have hwrite : writeNumber 2 0 0x20 packet = .ok (splice packet 0x20 [0, 0]) := by
    have hzero : 0 < 256 ^ 2 := by decide
    have hfits : 0x20 + 2 ≤ packet.length := by omega
    rw [writeNumber, show (0 : Int) = ((0 : Nat) : Int) from rfl, writeUInt_ok hzero hfits]
    rfl
  have hlength : (splice packet 0x20 [0, 0]).length = packet.length :=
    length_splice (by simp only [List.length_cons, List.length_nil]; omega)
  have hread : readInt 2 0x22 (splice packet 0x20 [0, 0]) =
      .ok (toSigned 2 (leNat (slice (splice packet 0x20 [0, 0]) 0x22 2))) := by
    rw [readInt, readUInt_ok (by omega)]
    rfl
  have hlong : ¬ (splice packet 0x20 [0, 0]).length < 0x38 := by omega
  rw [parsePacket, readUInt_ok (by omega), readUInt_ok (by omega)]
  simp only [Except.mapError, hwrite, bind, Except.bind, hread, if_neg hlong]
  split_ifs <;> rfl

/-- One changed byte changes the checksum. -/
theorem checksum_set {content : List UInt8} {i : Nat} {b : UInt8} (hi : i < content.length)
    (hb : b ≠ content[i]) :
    checksum (content.set i b) ≠ checksum content := by
  have hsum := sum_set (b := b) hi
  have hne : b.toNat ≠ content[i].toNat := fun h => hb (UInt8.toNat_inj.mp h)
  have hlt := b.toNat_lt
  have hlt' := content[i].toNat_lt
  unfold checksum
  omega

section Sealed

variable {content : List UInt8} (hlength : 0x38 ≤ content.length)
    (hzero : slice content 0x20 4 = [0, 0, 0, 0])

include hlength hzero

/-- Without its checksum, a packet is the content that the checksum is of. -/
theorem splice_checksum (n : Nat) : splice (splice content 0x20 (leBytes 2 n)) 0x20 [0, 0] =
    content := by
  have hbytes : 0x20 + (leBytes 2 n).length ≤ content.length := by
    rw [length_leBytes]
    omega
  have hfirst : slice content 0x20 2 = [0, 0] := by
    have h := congrArg (List.take 2) hzero
    rwa [slice, List.take_take] at h
  rw [splice_splice (by simp) hbytes]
  exact splice_slice (by omega) hfirst

theorem parsePacket_content (cipher : Cipher) (key : List UInt8) :
    parsePacket cipher key (splice content 0x20 (leBytes 2 (checksum content))) =
      transform cipher.decrypt key (content.drop 0x38) := by
  have hbytes : 0x20 + (leBytes 2 (checksum content)).length ≤ content.length := by
    rw [length_leBytes]
    omega
  have hread := slice_splice hbytes
  rw [length_leBytes] at hread
  have hstatus : slice content 0x22 2 = [0, 0] := by
    have h := congrArg (List.drop 2) hzero
    rwa [slice, List.drop_take, List.drop_drop] at h
  have hlong : 0x38 ≤ (splice content 0x20 (leBytes 2 (checksum content))).length := by
    rw [length_splice hbytes]
    exact hlength
  rw [parsePacket_eq cipher key hlong, splice_checksum hlength hzero, hread,
    leNat_leBytes (checksum_lt content), hstatus, if_neg (by simp), if_neg (by decide)]

/-- A byte that is changed outside the checksum is noticed. -/
theorem parsePacket_changed (cipher : Cipher) (key : List UInt8) {i : Nat} {b : UInt8}
    (hi : i < (splice content 0x20 (leBytes 2 (checksum content))).length) (h0 : i ≠ 0x20)
    (h1 : i ≠ 0x21) (hb : b ≠ (splice content 0x20 (leBytes 2 (checksum content)))[i]) :
    ∃ error, parsePacket cipher key ((splice content 0x20 (leBytes 2 (checksum content))).set i b) =
      .error error := by
  have hbytes : 0x20 + (leBytes 2 (checksum content)).length ≤ content.length := by
    rw [length_leBytes]
    omega
  have hlen := length_splice hbytes
  have hi' : i < content.length := by omega
  have hsame : (splice content 0x20 (leBytes 2 (checksum content)))[i] = content[i] := by
    have hget := getElem?_splice hbytes i
    rw [length_leBytes, List.getElem?_eq_getElem hi, List.getElem?_eq_getElem hi'] at hget
    split_ifs at hget with h₁ h₂
    · exact Option.some.inj hget
    · omega
    · exact Option.some.inj hget
  have hread := slice_splice hbytes
  rw [length_leBytes] at hread
  have hzeroed : splice ((splice content 0x20 (leBytes 2 (checksum content))).set i b) 0x20 [0, 0] =
      content.set i b := by
    rw [splice_set (by simp only [List.length_cons, List.length_nil]; omega)
      (by simp only [List.length_cons, List.length_nil]; omega), splice_checksum hlength hzero]
  have hlong : 0x38 ≤ ((splice content 0x20 (leBytes 2 (checksum content))).set i b).length := by
    rw [List.length_set]
    omega
  rw [hsame] at hb
  rw [parsePacket_eq cipher key hlong, slice_set (by omega), hread,
    leNat_leBytes (checksum_lt content), hzeroed, if_pos (checksum_set hi' hb).symm]
  exact ⟨_, rfl⟩

end Sealed

/-! ## Every identifier -/

theorem authenticate_ok (d : Device) {id key rest : List UInt8} (hid : id.length = 4)
    (hkey : key.length = 16) :
    d.authenticate (id ++ key ++ rest) =
      .ok { d with key, deviceId := some (toSigned 4 (leNat id)) } := by
  have hread : slice (id ++ key ++ rest) 0 4 = id := by
    rw [slice, List.drop_zero, List.append_assoc, ← hid, List.take_left]
  have hslice : slice (id ++ key ++ rest) 4 16 = key := by
    rw [slice, List.append_assoc, ← hid, List.drop_left, ← hkey, List.take_left]
  have hcopy : splice (List.replicate 16 0) 0 key = key := by
    simp [splice, hkey]
  rw [Device.authenticate, readInt, readUInt_ok (by simp [hid, hkey]), hread, hslice, hcopy]
  rfl

/-- A device works with an identifier exactly if the identifier is not negative as a signed
number. -/
theorem packet_works_iff (cipher : Cipher) (d d' : Device) (command : Nat)
    (payload id key rest : List UInt8) (hmac : WellFormedMac d.mac) (htype : d.type < 65536)
    (hcommand : command < 256) (hpayload : payload.length % 16 = 0) (hid : id.length = 4)
    (hkey : key.length = 16) (hauth : d.authenticate (id ++ key ++ rest) = .ok d') :
    PacketWorks cipher d' command payload ↔ leNat id < 2 ^ 31 := by
  rw [authenticate_ok d hid hkey] at hauth
  cases hauth
  have hsetUp : SetUp { d with key, deviceId := some (toSigned 4 (leNat id)) } :=
    ⟨hmac, htype, hkey⟩
  obtain ⟨packet, hpacket, hrun⟩ := createPacket_run cipher payload hsetUp hcommand
  have hlt : leNat id < 256 ^ 4 := hid ▸ leNat_lt id
  constructor
  · rintro ⟨sealed, d', hok, -⟩
    by_contra hge
    have hneg : toSigned 4 (leNat id) < 0 := by
      rw [toSigned, if_neg (by omega)]
      omega
    rw [hrun, finishPacket_negative rfl hneg, run_orThrow] at hok
    cases hok
  · intro hsmall
    have hsigned : toSigned 4 (leNat id) = (leNat id : Int) := if_pos (by omega)
    have hdevice : ({ d with key, deviceId := some (toSigned 4 (leNat id)) } : Device).deviceId =
        some (leNat id : Int) :=
      congrArg some hsigned
    obtain ⟨header, hheader, hfinish⟩ := finishPacket_ok cipher hkey hpayload hdevice hlt hpacket
    rw [hfinish, run_orThrow] at hrun
    have hlength : 0x38 ≤ (header ++ cipher.encrypt key iv payload).length := by
      rw [List.length_append, hheader.length]
      omega
    have hzero : slice (header ++ cipher.encrypt key iv payload) 0x20 4 = [0, 0, 0, 0] := by
      rw [slice_append _ (by rw [hheader.length]; decide), hheader.zero]
    have hdrop : (header ++ cipher.encrypt key iv payload).drop 0x38 =
        cipher.encrypt key iv payload := by
      rw [← hheader.length, List.drop_left]
    refine ⟨_, _, hrun, ?_,
      fun i b hi h0 h1 hb => parsePacket_changed hlength hzero cipher key hi h0 h1 hb⟩
    refine (parsePacket_content hlength hzero cipher key).trans ?_
    rw [hdrop, transform, if_neg (by omega), if_neg (by rw [cipher.length_encrypt]; omega),
      cipher.decrypt_encrypt _ _ _ hkey hpayload]

/-- AES of sixteen bytes 5 under a key of bytes 3. -/
def sealedBlock : List UInt8 :=
  [0x6c, 0x27, 0xbf, 0x10, 0x7e, 0x38, 0x4b, 0x2c,
    0x3a, 0x85, 0x9c, 0xdc, 0xdd, 0xe6, 0x2d, 0x44]

/-- A cipher that agrees with AES on that block, and leaves the other ones as they are. -/
def blockCipher : Cipher where
  encrypt _ _ data :=
    if data = List.replicate 16 5 then sealedBlock
    else if data = sealedBlock then List.replicate 16 5 else data
  decrypt _ _ data :=
    if data = List.replicate 16 5 then sealedBlock
    else if data = sealedBlock then List.replicate 16 5 else data
  length_encrypt _ _ data := by
    split_ifs with h₁ h₂
    · rw [h₁]; rfl
    · rw [h₂]; rfl
    · rfl
  decrypt_encrypt _ _ data _ _ := by
    have hne : sealedBlock ≠ List.replicate 16 5 := by decide
    by_cases h₁ : data = List.replicate 16 5
    · rw [if_pos h₁, if_neg hne, if_pos rfl, h₁]
    · by_cases h₂ : data = sealedBlock
      · rw [if_neg h₁, if_pos h₂, if_pos rfl, h₂]
      · simp only [if_neg h₁, if_neg h₂]

def sampleDevice : Device :=
  { type := 0x2712, mac := "78:0f:77:0a:B1:C2".toList, key := List.replicate 16 7, deviceId := none,
    sendCounter := 65535 }

theorem packet_works_one : PacketWorks blockCipher
    { sampleDevice with key := List.replicate 16 3, deviceId := some 1 } 0x6a
      (List.replicate 16 5) := by
  have hauth : sampleDevice.authenticate ([1, 0, 0, 0] ++ List.replicate 16 3 ++ []) =
      .ok { sampleDevice with key := List.replicate 16 3, deviceId := some 1 } := by rfl
  exact (packet_works_iff blockCipher sampleDevice _ 0x6a (List.replicate 16 5) [1, 0, 0, 0]
    (List.replicate 16 3) []
    (by decide +kernel) (by decide) (by decide) (by decide) (by decide) (by decide) hauth).mpr
      (by decide)

/-- An identifier whose last byte is 128: the device authenticates, and no packet can be made any
more. -/
theorem negative_identifier_throws :
    ∃ d, sampleDevice.authenticate ([1, 0, 0, 128] ++ List.replicate 16 3) = .ok d ∧
    d.deviceId = some (-2147483647) ∧
    (createPacket blockCipher 0x6a (List.replicate 16 5)).run d =
      .error (.range .value) { d with sendCounter := 65536 } :=
  ⟨_, rfl, by decide, by rfl⟩

end MylifeHome.Plugins.Broadlink
