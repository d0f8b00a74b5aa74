/-
# SparqControl.Link.SocketRecords — two readers of one SocketCAN record.

A classic CAN record is sixteen bytes: an id word whose top three bits are flags, a length byte, three
bytes of padding, eight data bytes. The HAL's bus and the dashboard unpack it with the same format and
then part: the dashboard keeps the flags and refuses a length above eight, the bus MASKS the id to
eleven bits and cuts the data, whatever the record is. An extended, remote or error frame thus becomes
a device frame under the low bits of its id.

`bus_faithful_iff` says for which records the bus is right, and that every frame it sends is one.
-/
import SparqControl.Dashboard.CanDecode
import SparqControl.Link.MitCodec
import Mathlib.Data.List.GetD
import Mathlib.Data.Nat.Bitwise

namespace SparqControl.Link

open SparqControl.Hal
open SparqControl.Dashboard (ParsedFrame canEffFlag canErrFlag canRtrFlag maskedId parseCanFrame)
open SparqControl.Lib.Packed (Layout)

/-! ## The record -/

/-- `struct.unpack("=IB3x8s", raw)` on a little-endian host. -/
def unpackRecord (raw : Vector UInt8 16) : LinuxCanFrame where
  canId := Layout.uint32.ofBytes raw.toList
  canDlc := raw.toList.getD 4 0
  data := Vector.ofFn fun i : Fin 8 => raw.toList.getD (8 + i) 0

/-- `struct.pack("=IB3x8s", …)` on a little-endian host. -/
def packRecord (r : LinuxCanFrame) : Vector UInt8 16 :=
  let bytes := Layout.uint32.toBytes r.canId ++ [r.canDlc, 0, 0, 0] ++ r.data.toList
  Vector.ofFn fun i : Fin 16 => bytes.getD i 0

/-- `SocketCANBus.recv_frame` on the sixteen bytes that arrived. -/
def recvFrame (raw : Vector UInt8 16) : CANFrame := socketRecvFrame (unpackRecord raw)

/-- `SocketCANBus.send_frame`: the sixteen bytes written to the socket. -/
def sendFrameRecord (f : CANFrame) : Except PyError (Vector UInt8 16) :=
  (socketSendFrame f).map packRecord

/-- The dashboard's `parse_can_frame` on the sixteen bytes that arrived. -/
def parseRecord (raw : Vector UInt8 16) : Except PyError ParsedFrame := parseCanFrame (unpackRecord raw)

/-- The sixteen bytes of a packed record, in order. -/
theorem toList_packRecord (r : LinuxCanFrame) :
    (packRecord r).toList = Layout.uint32.toBytes r.canId ++ [r.canDlc, 0, 0, 0] ++ r.data.toList := by
  have hlen : (Layout.uint32.toBytes r.canId ++ [r.canDlc, 0, 0, 0] ++ r.data.toList).length = 16 := by
    simp only [List.length_append, Layout.length_toBytes, Vector.length_toList]
    rfl
  unfold packRecord
  generalize Layout.uint32.toBytes r.canId ++ [r.canDlc, 0, 0, 0] ++ r.data.toList = bytes at hlen
  apply List.ext_getElem
  · rw [Vector.length_toList, hlen]
  · intro i h₁ h₂
    simp [h₂]

/-- What was packed is unpacked. -/
theorem unpackRecord_packRecord (r : LinuxCanFrame) : unpackRecord (packRecord r) = r := by
  have hwidth : (Layout.uint32.toBytes r.canId).length = 4 := Layout.uint32.length_toBytes r.canId
  have hid : Layout.uint32.ofBytes (packRecord r).toList = r.canId := by
    rw [toList_packRecord, List.append_assoc, Layout.ofBytes_toBytes_append]
  have hdlc : (packRecord r).toList.getD 4 0 = r.canDlc := by
    rw [toList_packRecord, List.append_assoc, List.getD_append_right _ _ _ _ hwidth.le, hwidth]
    rfl
  have hbyte : ∀ i, (packRecord r).toList.getD (8 + i) 0 = r.data.toList.getD i 0 := by
    intro i
    have hfront : (Layout.uint32.toBytes r.canId ++ [r.canDlc, 0, 0, 0]).length = 8 := by
      rw [List.length_append, hwidth]
      rfl
    rw [toList_packRecord, List.getD_append_right _ _ _ _ (by omega), hfront, Nat.add_sub_cancel_left]
  have hdata : (Vector.ofFn fun i : Fin 8 => (packRecord r).toList.getD (8 + i) 0) = r.data := by
    apply Vector.ext
    intro i hi
    rw [Vector.getElem_ofFn, hbyte, List.getD_eq_getElem _ _ (by simpa using hi),
      Vector.getElem_toList]
  rw [unpackRecord, hid, hdlc, hdata]

/-! ## Standard data frames -/

/-- A record with none of the three flags: a standard data frame. -/
def IsStandardData (r : LinuxCanFrame) : Prop :=
  r.canId &&& canEffFlag = 0 ∧ r.canId &&& canRtrFlag = 0 ∧ r.canId &&& canErrFlag = 0

/-- The bus is right about a record: what it yields is a standard data frame of at most eight bytes with
that identifier and these data, and the dashboard reads the same. -/
def RecvFaithful (raw : Vector UInt8 16) : Prop :=
  ∀ i d, recvFrame raw = ⟨i, d⟩ →
    IsStandardData (unpackRecord raw) ∧ i = ((unpackRecord raw).canId.toNat % 2048 : ℕ) ∧
    (unpackRecord raw).canDlc.toNat ≤ 8 ∧
    d = (unpackRecord raw).data.toList.take (unpackRecord raw).canDlc.toNat ∧
    ∃ f, parseRecord raw = .ok f ∧ f.canId = i ∧ f.dlc = d.length ∧ f.data = d ∧
      f.isEff = false ∧ f.isRtr = false ∧ f.isErr = false

/-- On a standard data frame of at most eight bytes the dashboard reads what the bus does. -/
theorem parseCanFrame_of_standard {r : LinuxCanFrame} (hstd : IsStandardData r)
    (hdlc : r.canDlc.toNat ≤ 8) :
    ∃ f, parseCanFrame r = .ok f ∧ f.canId = (socketRecvFrame r).canId ∧
      f.data = (socketRecvFrame r).data ∧ f.isEff = false ∧ f.isRtr = false ∧ f.isErr = false := by
  obtain ⟨heff, hrtr, herr⟩ := hstd
  have hmask : maskedId r.canId = r.canId &&& 0x7FF := by
    unfold maskedId
    rw [if_neg (not_not.mpr heff)]
  unfold parseCanFrame
  rw [dif_neg (not_lt.mpr hdlc)]
  refine ⟨_, rfl, ?_, rfl, ?_, ?_, ?_⟩
  · simp only [socketRecvFrame, hmask]
  · simp [heff]
  · simp [hrtr]
  · simp [herr]

/-- **Which records the bus is right about**: exactly the standard data frames of at most eight bytes. -/
theorem recvFaithful_iff (raw : Vector UInt8 16) :
    RecvFaithful raw ↔
      IsStandardData (unpackRecord raw) ∧ (unpackRecord raw).canDlc.toNat ≤ 8 := by
  constructor
  · intro h
    obtain ⟨hstd, -, hdlc, -⟩ := h _ _ rfl
    exact ⟨hstd, hdlc⟩
  · rintro ⟨hstd, hdlc⟩ i d hrecv
    have hid : i = ((unpackRecord raw).canId &&& 0x7FF).toNat := congrArg CANFrame.canId hrecv.symm
    have hdata : d = (unpackRecord raw).data.toList.take (unpackRecord raw).canDlc.toNat :=
      congrArg CANFrame.data hrecv.symm
    obtain ⟨f, hf, hcanId, hfdata, heff, hrtr, herr⟩ := parseCanFrame_of_standard hstd hdlc
    refine ⟨hstd, ?_, hdlc, hdata, f, hf, hcanId.trans hid.symm, ?_, hfdata.trans hdata.symm, heff, hrtr,
      herr⟩
    · rw [hid, toNat_and_sff]
    · rw [← f.length_data, hfdata, hdata]
      rfl

/-! ## Sending and receiving -/

/-- The padding of a payload is cut off again. -/
theorem take_toList_ljust8 {data : List UInt8} (h : data.length ≤ 8) :
    (ljust8 data).toList.take data.length = data := by
  apply List.ext_getElem
  · rw [List.length_take, Vector.length_toList, Nat.min_eq_left h]
  · intro i h₁ h₂
    rw [List.getElem_take, Vector.getElem_toList, getElem_ljust8, List.getD_eq_getElem _ _ h₂]

/-- A frame the bus may send is read back as it was sent. -/
theorem socketRecvFrame_socketSendFrame {f : CANFrame} (h0 : 0 ≤ f.canId) (hid : f.canId ≤ 0x7FF)
    (hlen : f.data.length ≤ 8) :
    ∃ r, socketSendFrame f = .ok r ∧ socketRecvFrame r = f ∧ IsStandardData r ∧
      r.canDlc.toNat ≤ 8 := by
  obtain ⟨id, data⟩ := f
  obtain ⟨n, rfl⟩ := Int.eq_ofNat_of_zero_le h0
  have hn : n ≤ 2047 := by
    have hid' : (n : ℤ) ≤ 2047 := hid
    exact_mod_cast hid'
  have hlen' : data.length ≤ 8 := hlen
  have hword : (UInt32.ofInt (n : ℤ)).toNat = n := toNat_ofInt_natCast (by omega)
  have hdlc : (UInt8.ofNat data.length).toNat = data.length := by
    rw [UInt8.toNat_ofNat', Nat.mod_eq_of_lt (by omega)]
  have hflag : ∀ k, 2047 < 2 ^ k → ∀ flag : UInt32, flag.toNat = 2 ^ k →
      UInt32.ofInt (n : ℤ) &&& flag = 0 := by
    intro k hk flag hflag
    apply UInt32.toNat_inj.mp
    rw [UInt32.toNat_and, hword, hflag, Nat.and_comm, Nat.two_pow_and,
      Nat.testBit_eq_false_of_lt (by omega)]
    rfl
  refine ⟨⟨UInt32.ofInt n, UInt8.ofNat data.length, ljust8 data⟩, ?_, ?_, ?_, ?_⟩
  · unfold socketSendFrame
    rw [if_neg (not_lt.mpr hlen), if_neg]
    · rfl
    · show ¬ ((n : ℤ) < 0 ∨ 2 ^ 32 ≤ (n : ℤ))
      omega
  · simp only [socketRecvFrame, toNat_and_sff, hword, hdlc]
    congr 1
    · omega
    · exact take_toList_ljust8 hlen'
  · exact ⟨hflag 31 (by norm_num) _ rfl, hflag 30 (by norm_num) _ rfl, hflag 29 (by norm_num) _ rfl⟩
  · show (UInt8.ofNat data.length).toNat ≤ 8
    rw [hdlc]
    exact hlen'

/-- **The bus is right about standard data frames, and every frame it sends is one.** A record is read
faithfully exactly when it has none of the three flags and a length of at most eight; what the bus wrote
for an eleven-bit id and at most eight bytes comes back as it went. -/
theorem bus_faithful_iff (raw : Vector UInt8 16) (f : CANFrame) :
    (RecvFaithful raw ↔ IsStandardData (unpackRecord raw) ∧ (unpackRecord raw).canDlc.toNat ≤ 8) ∧
    (0 ≤ f.canId → f.canId ≤ 0x7FF → f.data.length ≤ 8 →
      ∃ written, sendFrameRecord f = .ok written ∧ recvFrame written = f ∧ RecvFaithful written) := by
  refine ⟨recvFaithful_iff raw, ?_⟩
  intro h0 hid hlen
  obtain ⟨r, hsend, hrecv, hstd, hdlc⟩ := socketRecvFrame_socketSendFrame h0 hid hlen
  refine ⟨packRecord r, ?_, ?_, ?_⟩
  · unfold sendFrameRecord
    rw [hsend]
    rfl
  · unfold recvFrame
    rw [unpackRecord_packRecord, hrecv]
  · rw [recvFaithful_iff, unpackRecord_packRecord]
    exact ⟨hstd, hdlc⟩

/-- A three-byte answer of a motor is read as it is, and a control frame comes back as it went. -/
theorem bus_faithful_motor_frames :
    RecvFaithful (packRecord ⟨0x102, 3, ljust8 [0xD6, 0x10, 0xFF]⟩) ∧
      ∃ written, sendFrameRecord ⟨0x102, [0xC2, 1, 2, 3, 4, 5, 6, 255]⟩ = .ok written ∧
        recvFrame written = ⟨0x102, [0xC2, 1, 2, 3, 4, 5, 6, 255]⟩ ∧ RecvFaithful written := by
  obtain ⟨hrecv, hsend⟩ := bus_faithful_iff (packRecord ⟨0x102, 3, ljust8 [0xD6, 0x10, 0xFF]⟩)
    ⟨0x102, [0xC2, 1, 2, 3, 4, 5, 6, 255]⟩
  refine ⟨hrecv.mpr ?_, hsend (by decide) (by decide) (by decide)⟩
  rw [unpackRecord_packRecord]
  exact ⟨⟨rfl, rfl, rfl⟩, by decide⟩

/-- An extended frame `0x18DAF2A1` of eight zero bytes. -/
def extendedRecord : LinuxCanFrame := ⟨0x98DAF2A1, 8, ljust8 []⟩

/-- The bus hands an extended frame on as a frame `0x2A1`, the IMU's quaternion id. -/
theorem extended_record_misread :
    recvFrame (packRecord extendedRecord) = ⟨0x2A1, [0, 0, 0, 0, 0, 0, 0, 0]⟩ ∧
      ¬ RecvFaithful (packRecord extendedRecord) := by
  constructor
  · unfold recvFrame
    rw [unpackRecord_packRecord]
    decide
  · rw [recvFaithful_iff, unpackRecord_packRecord]
    rintro ⟨⟨heff, -, -⟩, -⟩
    exact absurd heff (by decide)

end SparqControl.Link
