/-
# SparqControl.Hal.CanFrame — the frame on each side of the SocketCAN interface.

`CANFrame` is the host's frame: an unbounded integer id and a byte string. `CanFrame` is the
simulator's: a 32-bit id, a length byte and exactly eight data bytes. Between them stands the kernel
record `LinuxCanFrame`. BOTH receivers keep the low eleven bits of the id and nothing else of it, so
the id a receiver sees is `sffId` of the id that was sent.
-/
import Mathlib.Data.Int.ModEq
import SparqControl.Hal.PyValue

namespace SparqControl.Hal

/-- The host's `CANFrame`. -/
structure CANFrame where
  canId : ℤ
  data : List UInt8
  deriving DecidableEq, Repr

/-- `CANFrame.dlc`. -/
def CANFrame.dlc (f : CANFrame) : ℕ := f.data.length

/-- The kernel's classic CAN record. -/
structure LinuxCanFrame where
  canId : UInt32
  canDlc : UInt8
  data : Vector UInt8 8
  deriving DecidableEq

/-- The simulator's `CanFrame`. -/
structure CanFrame where
  canId : UInt32
  dlc : UInt8
  data : Vector UInt8 8
  deriving DecidableEq

/-- `CAN_SFF_MASK`. -/
def canSffMask : ℕ := 0x7FF

/-- `can_id & CAN_SFF_MASK` on an unbounded integer. -/
def sffId (canId : ℤ) : ℤ := canId % (canSffMask + 1)

/-- `data.ljust(8, b"\x00")` for at most eight bytes. -/
def ljust8 (data : List UInt8) : Vector UInt8 8 := Vector.ofFn fun i : Fin 8 => data.getD i 0

/-- `SocketCANBus.send_frame`: the record written to the socket. `struct.pack` refuses an id that is
not an unsigned 32-bit integer. -/
def socketSendFrame (f : CANFrame) : Except PyError LinuxCanFrame :=
  if f.data.length > 8 then .error (.valueError "Classical CAN payload must be <= 8 bytes")
  else if f.canId < 0 ∨ 2 ^ 32 ≤ f.canId then .error (.structError "argument out of range")
  else .ok ⟨UInt32.ofInt f.canId, UInt8.ofNat f.dlc, ljust8 f.data⟩

/-- `SocketCANBus.recv_frame` on a record that arrived. -/
def socketRecvFrame (r : LinuxCanFrame) : CANFrame where
  canId := (r.canId &&& 0x7FF).toNat
  data := r.data.toList.take r.canDlc.toNat

/-- `from_linux_can_frame` of the simulator's adapter. Bytes past the length stay zero. -/
def fromLinuxCanFrame (r : LinuxCanFrame) : CanFrame where
  canId := r.canId &&& 0x7FF
  dlc := r.canDlc
  data := Vector.ofFn fun i : Fin 8 => if i.val < min r.canDlc.toNat 8 then r.data[i] else 0

/-- `to_linux_can_frame` of the simulator's adapter. -/
def toLinuxCanFrame (f : CanFrame) : LinuxCanFrame where
  canId := f.canId &&& 0x7FF
  canDlc := min f.dlc 8
  data := Vector.ofFn fun i : Fin 8 => if i.val < min f.dlc.toNat 8 then f.data[i] else 0

/-- What the simulator receives when the host sends `f` over the bus. -/
def hostToSim (f : CANFrame) : Except PyError CanFrame := (socketSendFrame f).map fromLinuxCanFrame

/-- What the host receives when the simulator sends `f` over the bus. -/
def simToHost (f : CanFrame) : CANFrame := socketRecvFrame (toLinuxCanFrame f)

theorem toNat_and_sff (x : UInt32) : (x &&& 0x7FF).toNat = x.toNat % 2048 := by
  rw [UInt32.toNat_and]
  exact Nat.and_two_pow_sub_one_eq_mod _ 11

theorem toNat_ofInt_natCast {n : ℕ} (hn : n < 2 ^ 32) : (UInt32.ofInt n).toNat = n := by
  rw [UInt32.ofInt, UInt32.toNat_ofNat', Int.emod_eq_of_lt (by omega) (by exact_mod_cast hn),
    Int.toNat_natCast, Nat.mod_eq_of_lt hn]

/-- What a socket takes has at most eight bytes, padded with zeros. -/
theorem socketSendFrame_fields {f : CANFrame} {r : LinuxCanFrame} (h : socketSendFrame f = .ok r) :
    r.canDlc.toNat = f.data.length ∧ f.data.length ≤ 8 ∧ r.data = ljust8 f.data := by
  unfold socketSendFrame at h
  split_ifs at h with hlen hid
  cases h
  refine ⟨?_, by omega, rfl⟩
  show (UInt8.ofNat f.data.length).toNat = f.data.length
  rw [UInt8.toNat_ofNat']
  omega

/-- The id either receiver sees is the low eleven bits of the id that was sent. -/
theorem hostToSim_canId {f : CANFrame} {g : CanFrame} (h : hostToSim f = .ok g) :
    (g.canId.toNat : ℤ) = sffId f.canId := by
  obtain ⟨id, data⟩ := f
  unfold hostToSim socketSendFrame at h
  split at h
  · cases h
  split at h
  · cases h
  rename_i hid
  obtain ⟨h0, h1⟩ := not_or.mp hid
  obtain ⟨n, rfl⟩ := Int.eq_ofNat_of_zero_le (not_lt.mp h0)
  have hlt : n < 2 ^ 32 := by
    have h1' : ((n : ℤ) < 2 ^ 32) := not_le.mp h1
    exact_mod_cast h1'
  cases h
  simp only [fromLinuxCanFrame, toNat_and_sff, toNat_ofInt_natCast hlt, sffId, canSffMask]
  norm_cast

@[simp] theorem getElem_ljust8 (data : List UInt8) (i : ℕ) (hi : i < 8) :
    (ljust8 data)[i] = data.getD i 0 := by
  simp [ljust8]

/-- Eight bytes need no padding. -/
theorem ljust8_eight (b0 b1 b2 b3 b4 b5 b6 b7 : UInt8) :
    ljust8 [b0, b1, b2, b3, b4, b5, b6, b7] = #v[b0, b1, b2, b3, b4, b5, b6, b7] := rfl

/-- An eight-byte payload with a standard id reaches the simulator unchanged. -/
theorem hostToSim_eight {id : ℤ} {data : List UInt8} (hid0 : 0 ≤ id) (hid : id ≤ canSffMask)
    (hlen : data.length = 8) :
    hostToSim ⟨id, data⟩ = .ok ⟨UInt32.ofInt id, 8, ljust8 data⟩ := by
  have hmask : (canSffMask : ℤ) = 2047 := rfl
  rw [hmask] at hid
  unfold hostToSim socketSendFrame
  rw [if_neg (by simp [hlen]), if_neg (not_or.mpr ⟨not_lt.mpr hid0, ?_⟩)]
  · have hand : UInt32.ofInt id &&& 0x7FF = UInt32.ofInt id := by
      obtain ⟨n, rfl⟩ := Int.eq_ofNat_of_zero_le hid0
      apply UInt32.toNat_inj.mp
      rw [toNat_and_sff, toNat_ofInt_natCast (by omega)]
      omega
    simp only [Except.map, fromLinuxCanFrame, CANFrame.dlc, hlen, hand]
    congr 2
  · show ¬ (2 ^ 32 ≤ id)
    omega

end SparqControl.Hal
