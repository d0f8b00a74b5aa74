/-
# SparqControl.Controller.ZeroSet — from a target list to set-zero frames.

The pipeline has four stations: `publish_zero_set` checks and stores the targets, the packed record
carries them, `_zero_set_offsets_by_can_id` rebuilds a dictionary from it, and `_send_zero_set_all`
sends one frame per dictionary key, or one to EVERY actuator when the dictionary is empty. The id 0 is
a valid target for the first station and a filler for the third. So a target with id 0 is dropped, and
a list of nothing else falls back to every actuator; away from id 0 the pipeline delivers exactly what
was asked for.
-/
import Mathlib.Tactic.NormNum.OfScientific
import SparqControl.Controller.Tick

namespace SparqControl.Controller

open SparqControl.Hal SparqControl.Hw SparqControl.Shm
open SparqControl.Lib (Dict)
open SparqControl.Lib.Packed (Layout)
open SparqControl.Lib.Quantize
open SparqControl.Lib.Trace
open ControllerStateMachine (nextMode)

/-! ## The target list of a command -/

/-- The targets a command lists, as the reader sees them. -/
def zeroTargetList (c : OperatorCommandC) : List (ℤ × ℤ) :=
  (c.zeroTargets.toList.take c.zeroTargetCount.toNat).map
    fun t => ((t.canId.toNat : ℤ), t.offsetCount.toInt)

/-- The targets that are not fillers. -/
def namedTargets (c : OperatorCommandC) : List (ℤ × ℤ) :=
  (zeroTargetList c).filter fun t => t.1 ≠ 0

/-- The zero-target block of a command is well formed: empty, or marked and within the capacity. -/
def WellFormedTargets (c : OperatorCommandC) : Prop :=
  c.zeroTargetCount.toNat = 0 ∨
    (c.zeroTargetMagic = operatorZeroTargetMagic ∧
      c.zeroTargetCount.toNat ≤ operatorZeroTargetCapacity)

/-- The offset listed last for an id. -/
def lastOffset (targets : List (ℤ × ℤ)) (canId : ℤ) : Option ℤ :=
  (targets.reverse.find? fun t => t.1 = canId).map Prod.snd

theorem namedTargets_eq (c : OperatorCommandC) :
    namedTargets c = (((c.zeroTargets.toList.take c.zeroTargetCount.toNat).filter
      fun t => t.canId ≠ 0).map fun t => ((t.canId.toNat : ℤ), t.offsetCount.toInt)) := by
  rw [namedTargets, zeroTargetList, List.filter_map]
  congr 1
  apply List.filter_congr
  intro t _
  have h0 : t.canId = 0 ↔ t.canId.toNat = 0 := by
    rw [← UInt32.toNat_inj]
    rfl
  simp [h0]

/-- The reader's dictionary of a well-formed block. -/
theorem zeroSetOffsetsByCanId_wellFormed {c : OperatorCommandC} (h : WellFormedTargets c) :
    zeroSetOffsetsByCanId (some c) = .ok (Dict.ofList (namedTargets c)) := by
  unfold zeroSetOffsetsByCanId
  rw [namedTargets_eq]
  rcases h with h | ⟨hmagic, hcount⟩
  · simp [h]
    rfl
  · by_cases h0 : c.zeroTargetCount.toNat = 0
    · simp [h0]
      rfl
    · simp [h0, hmagic, not_lt.mpr hcount]

/-- Every stored offset is a 16-bit count. -/
theorem offset_range_of_mem {c : OperatorCommandC} {t : ℤ × ℤ} (h : t ∈ namedTargets c) :
    -32768 ≤ t.2 ∧ t.2 ≤ 32767 := by
  obtain ⟨h, -⟩ := List.mem_filter.mp h
  obtain ⟨z, -, rfl⟩ := List.mem_map.mp h
  have hlt := z.offsetCount.toInt_lt
  have hge := z.offsetCount.le_toInt
  exact ⟨by simpa using hge, by omega⟩

theorem mem_of_lastOffset {targets : List (ℤ × ℤ)} {canId offset : ℤ}
    (h : lastOffset targets canId = some offset) : (canId, offset) ∈ targets := by
  obtain ⟨t, ht, rfl⟩ := Option.map_eq_some_iff.mp h
  have hid : t.1 = canId := by simpa using List.find?_some ht
  have hmem := List.mem_reverse.mp (List.mem_of_find?_eq_some ht)
  rw [← hid]
  exact hmem

/-! ## The frames -/

/-- The payload of a set-zero frame: opcode, five zero bytes, the count in little endian. -/
def setZeroPayload (count : ℤ) : List UInt8 :=
  [0xC3, 0, 0, 0, 0, 0] ++ Layout.int16.toBytes (Int16.ofInt count)

section Frames

variable {K : Type} [Field K] [LinearOrder K] [IsStrictOrderedRing K] [FloorRing K]

/-- The scaling to degrees and the rounding back cancel on a 16-bit count. -/
theorem packMitSetZeroPayload_count {count : ℤ} (h : -32768 ≤ count ∧ count ≤ 32767) :
    SPGActuatorProtocol.packMitSetZeroPayload ((count : K) * 0.01) =
      .ok (setZeroPayload count) := by
  have hscale : (count : K) * 0.01 * 100.0 = count := by
    rw [mul_assoc, show (0.01 : K) * 100.0 = 1 by norm_num, mul_one]
  unfold SPGActuatorProtocol.packMitSetZeroPayload
  rw [hscale, PyFloat.roundHalfAwayFromZero_fin, roundHalfAway_intCast]
  simp only [bind, Except.bind]
  rw [if_pos h]
  rfl

/-- The frame `_send_zero_set_all` makes for one actuator. -/
theorem encodeZeroPositionFrame_count (cfg : RobotControllerConfig K) {offset : ℤ → ℤ}
    (h : ∀ id, -32768 ≤ offset id ∧ offset id ≤ 32767) (id : ℤ) :
    (cfg.spgProtocol id).encodeZeroPositionFrame ((offset id : K) * 0.01) =
      .ok ⟨id, setZeroPayload (offset id)⟩ := by
  rw [SPGActuatorProtocol.encodeZeroPositionFrame, packMitSetZeroPayload_count (h id)]
  rfl

/-- The command addresses an id: it names it, or it names none. -/
def Addressed (c : OperatorCommandC) (canId : ℤ) : Prop :=
  namedTargets c = [] ∨ canId ∈ (namedTargets c).map Prod.fst

instance (c : OperatorCommandC) (canId : ℤ) : Decidable (Addressed c canId) :=
  inferInstanceAs (Decidable (_ ∨ _))

/-- The count a command carries for an id. -/
def offsetFor (c : OperatorCommandC) (canId : ℤ) : ℤ := (lastOffset (namedTargets c) canId).getD 0

theorem offsetFor_range (c : OperatorCommandC) (canId : ℤ) :
    -32768 ≤ offsetFor c canId ∧ offsetFor c canId ≤ 32767 := by
  unfold offsetFor
  cases h : lastOffset (namedTargets c) canId with
  | none => decide
  | some o => exact offset_range_of_mem (mem_of_lastOffset h)

/-- The ids `_send_zero_set_all` goes through. -/
def zeroTargetIds (cfg : RobotControllerConfig K) (c : OperatorCommandC) : List ℤ :=
  if (Dict.ofList (namedTargets c)).keys.isEmpty then cfg.actuators.sortedKeys
  else (Dict.ofList (namedTargets c)).sortedKeys

omit [FloorRing K] in
theorem zeroTargetIds_nodup (cfg : RobotControllerConfig K) (c : OperatorCommandC) :
    (zeroTargetIds cfg c).Nodup := by
  unfold zeroTargetIds
  split
  · exact Dict.sortedKeys_nodup _
  · exact Dict.sortedKeys_nodup _

omit [FloorRing K] in
/-- Among the configured ids, those it goes through are the addressed ones. -/
theorem mem_zeroTargetIds {cfg : RobotControllerConfig K} {c : OperatorCommandC} {canId : ℤ}
    (hid : canId ∈ cfg.canIds) : canId ∈ zeroTargetIds cfg c ↔ Addressed c canId := by
  have hempty : (Dict.ofList (namedTargets c)).keys.isEmpty = true ↔ namedTargets c = [] := by
    rw [List.isEmpty_iff, List.eq_nil_iff_forall_not_mem, List.eq_nil_iff_forall_not_mem]
    constructor
    · intro h t ht
      exact h t.1 ((Dict.mem_keys_ofList _ _).mpr (List.mem_map_of_mem ht))
    · intro h k hk
      obtain ⟨t, ht, -⟩ := List.mem_map.mp ((Dict.mem_keys_ofList _ _).mp hk)
      exact h t ht
  unfold zeroTargetIds Addressed
  split
  · rename_i h
    rw [Dict.mem_sortedKeys, mem_keys_actuators]
    simp [hid, hempty.mp h]
  · rename_i h
    rw [Dict.mem_sortedKeys, Dict.mem_keys_ofList]
    simp [mt hempty.mpr h]

/-- `_send_zero_set_all` on a well-formed command, as one loop over its ids. -/
theorem sendZeroSetAll_eq {cfg : RobotControllerConfig K} {env : TickEnv K}
    {earlier : List CANFrame} {s : ControllerState K} {c : OperatorCommandC}
    (h : WellFormedTargets c) :
    (sendZeroSetAll cfg env earlier s (some c)).2 =
      sendEach env.daemonAccepts earlier
        ((((zeroTargetIds cfg c).filter fun id => id ∈ cfg.canIds).map fun id =>
          (⟨id, setZeroPayload (offsetFor c id)⟩ : CANFrame)).map .ok) := by
  have hget : ∀ id, (Dict.ofList (namedTargets c)).get? id = lastOffset (namedTargets c) id :=
    Dict.get?_ofList (namedTargets c)
  have hrequests := @requests_eq K _ _ _ cfg (zeroTargetIds cfg c)
    (fun id actuator => actuator.encodeZeroPositionFrame ((offsetFor c id : K) * 0.01)) _
    (encodeZeroPositionFrame_count cfg (offsetFor_range c))
  unfold sendZeroSetAll
  rw [zeroSetOffsetsByCanId_wellFormed h, ← hrequests]
  simp only [hget]
  rfl

/-- **What a zero-set command delivers** when it is well formed and the sends are accepted: one
set-zero frame with its count to every configured actuator it addresses, and nothing else. -/
theorem sendZeroSetAll_framesTo {cfg : RobotControllerConfig K} {env : TickEnv K}
    {earlier : List CANFrame} {s : ControllerState K} {c : OperatorCommandC}
    (h : WellFormedTargets c)
    (hacc : ∀ f : CANFrame, f.canId ∈ cfg.canIds → ∀ before,
      sendFrame env.daemonAccepts before f = .ok ()) :
    (sendZeroSetAll cfg env earlier s (some c)).2.2 = none ∧
    ∀ canId, framesTo canId (sendZeroSetAll cfg env earlier s (some c)).2.1 =
      if canId ∈ cfg.canIds ∧ Addressed c canId then
        [⟨canId, setZeroPayload (offsetFor c canId)⟩] else [] := by
  have hsent := @sendEach_framesTo K _ cfg env earlier _ (zeroTargetIds_nodup cfg c)
    (fun id => setZeroPayload (offsetFor c id)) hacc
  rw [sendZeroSetAll_eq h]
  refine ⟨(hsent 0).1, fun canId => ?_⟩
  rw [(hsent canId).2]
  congr 1
  rw [eq_iff_iff]
  constructor
  · rintro ⟨hmem, hid⟩
    exact ⟨hid, (mem_zeroTargetIds hid).mp hmem⟩
  · rintro ⟨hid, haddr⟩
    exact ⟨(mem_zeroTargetIds hid).mpr haddr, hid⟩

/-- Whatever becomes of its sends, a zero-set command sends only to configured actuators it
addresses. -/
theorem addressed_of_mem_sendZeroSetAll {cfg : RobotControllerConfig K} {env : TickEnv K}
    {earlier : List CANFrame} {s : ControllerState K} {c : OperatorCommandC} {f : CANFrame}
    (hf : f ∈ (sendZeroSetAll cfg env earlier s (some c)).2.1) :
    f.canId ∈ cfg.canIds ∧ Addressed c f.canId := by
  by_cases h : WellFormedTargets c
  · rw [sendZeroSetAll_eq h] at hf
    obtain ⟨g, hg, hgf⟩ := List.mem_map.mp (mem_of_mem_sendEach hf)
    obtain ⟨id, hid, rfl⟩ := List.mem_map.mp hg
    cases hgf
    obtain ⟨hmem, hcfg⟩ := List.mem_filter.mp hid
    exact ⟨of_decide_eq_true hcfg, (mem_zeroTargetIds (of_decide_eq_true hcfg)).mp hmem⟩
  · -- a malformed block raises before the first frame
    obtain ⟨h0, hbad⟩ := not_or.mp h
    have herr : ∃ e, zeroSetOffsetsByCanId (some c) = .error e := by
      unfold zeroSetOffsetsByCanId
      by_cases hmagic : c.zeroTargetMagic = operatorZeroTargetMagic
      · have hcount : c.zeroTargetCount.toNat > operatorZeroTargetCapacity := by
          by_contra hle
          exact hbad ⟨hmagic, not_lt.mp hle⟩
        simp [h0, hmagic, hcount]
      · simp [h0, hmagic]
    obtain ⟨e, he⟩ := herr
    unfold sendZeroSetAll at hf
    rw [he] at hf
    cases hf

end Frames

/-! ## The whole pipeline -/

open OperatorCommandShm (AcceptedTargets builtCommand storedTargets)

/-- The reader sees exactly the targets that were accepted. -/
theorem zeroTargetList_builtCommand {targets : List (ℤ × ℤ)} (h : AcceptedTargets targets)
    (timeNs code targetMask : ℤ) :
    zeroTargetList (builtCommand timeNs code targetMask targets) = targets := by
  obtain ⟨hlen, hrange⟩ := h
  have hlen' : targets.length ≤ 12 := hlen
  have hcount : (UInt32.ofNat targets.length).toNat = targets.length := by
    rw [UInt32.toNat_ofNat', Nat.mod_eq_of_lt (by omega)]
  simp only [zeroTargetList, builtCommand, hcount]
  apply List.ext_getElem?
  intro i
  rw [List.getElem?_map, List.getElem?_take]
  -- below the count the stored record is the target, above it nothing is read
  split
  · rename_i hi
    have hi12 : i < operatorZeroTargetCapacity := lt_of_lt_of_le hi hlen
    rw [List.getElem?_eq_getElem hi, List.getElem?_eq_getElem (by simpa using hi12)]
    obtain ⟨⟨hid0, hid1⟩, hoff0, hoff1⟩ := hrange _ (List.getElem_mem hi)
    obtain ⟨n, hn⟩ := Int.eq_ofNat_of_zero_le hid0
    have hstored : (storedTargets targets)[i] =
        { canId := UInt32.ofInt targets[i].1, offsetCount := Int16.ofInt targets[i].2 } := by
      simp [storedTargets, List.getElem?_eq_getElem hi]
    simp only [Vector.getElem_toList, hstored, Option.map_some]
    rw [Int16.toInt_ofInt_of_le (by omega) (by omega), hn, toNat_ofInt_natCast (by omega), ← hn]
  · rename_i hi
    rw [List.getElem?_eq_none (by omega)]
    rfl

theorem wellFormed_builtCommand {targets : List (ℤ × ℤ)} (h : AcceptedTargets targets)
    (timeNs code targetMask : ℤ) :
    WellFormedTargets (builtCommand timeNs code targetMask targets) := by
  have hlen : targets.length ≤ 12 := h.1
  have hcount : (UInt32.ofNat targets.length).toNat = targets.length := by
    rw [UInt32.toNat_ofNat', Nat.mod_eq_of_lt (by omega)]
  cases targets with
  | nil => exact Or.inl rfl
  | cons t rest => exact Or.inr ⟨rfl, hcount.trans_le hlen⟩

/-- Dropping the fillers does not change the last offset of any other id. -/
theorem lastOffset_filter {targets : List (ℤ × ℤ)} {canId : ℤ} (h : canId ≠ 0) :
    lastOffset (targets.filter fun t => t.1 ≠ 0) canId = lastOffset targets canId := by
  unfold lastOffset
  rw [← List.filter_reverse, List.find?_filter]
  congr 2
  funext t
  by_cases ht : t.1 = canId
  · simp [ht, h]
  · simp [ht]

theorem setZeroPayload_inj {a b : ℤ} (ha : -32768 ≤ a ∧ a ≤ 32767) (hb : -32768 ≤ b ∧ b ≤ 32767)
    (h : setZeroPayload a = setZeroPayload b) : a = b := by
  have hbytes : Layout.int16.toBytes (Int16.ofInt a) = Layout.int16.toBytes (Int16.ofInt b) :=
    List.append_cancel_left h
  have hread := congrArg (fun bs => Layout.int16.ofBytes (bs ++ [])) hbytes
  simp only [Layout.ofBytes_toBytes_append] at hread
  have hint := congrArg Int16.toInt hread
  rwa [Int16.toInt_ofInt_of_le (by omega) (by omega),
    Int16.toInt_ofInt_of_le (by omega) (by omega)] at hint

/-- The requested offsets are delivered: one set-zero frame with the last listed offset to every
configured actuator in the list, and no frame to any other id. -/
def DeliversExactly (canIds : List ℤ) (targets : List (ℤ × ℤ))
    (sent : List CANFrame × Option PyError) : Prop :=
  sent.2 = none ∧ ∀ canId, framesTo canId sent.1 =
    if canId ∈ canIds ∧ canId ∈ targets.map Prod.fst then
      [⟨canId, setZeroPayload ((lastOffset targets canId).getD 0)⟩] else []

/-- Where the pipeline delivers: some listed id is not 0, and 0 is not both listed and configured;
or, with only 0 listed, every configured actuator is 0 and the offset is the default 0. -/
def ZeroIdHarmless (canIds : List ℤ) (targets : List (ℤ × ℤ)) : Prop :=
  ((∃ t ∈ targets, t.1 ≠ 0) ∧ ¬ (0 ∈ canIds ∧ 0 ∈ targets.map Prod.fst)) ∨
    ((∀ t ∈ targets, t.1 = 0) ∧ ∀ id ∈ canIds, id = 0 ∧ lastOffset targets 0 = some 0)

/-- What a loop that serves the named ids, or all of them when none is named, delivers of a target
list in which some id is not 0. -/
theorem delivers_iff_of_named {canIds : List ℤ} {targets : List (ℤ × ℤ)} {c : OperatorCommandC}
    {sent : List CANFrame × Option PyError} (hlist : zeroTargetList c = targets)
    (hnone : sent.2 = none)
    (hsent : ∀ canId, framesTo canId sent.1 =
      if canId ∈ canIds ∧ Addressed c canId then
        [⟨canId, setZeroPayload (offsetFor c canId)⟩] else [])
    (hnamed : ∃ t ∈ targets, t.1 ≠ 0) :
    DeliversExactly canIds targets sent ↔ ¬ (0 ∈ canIds ∧ 0 ∈ targets.map Prod.fst) := by
  have hfilter : namedTargets c = targets.filter fun t => t.1 ≠ 0 := by rw [namedTargets, hlist]
  have haddr : ∀ canId, Addressed c canId ↔ canId ≠ 0 ∧ canId ∈ targets.map Prod.fst := by
    intro canId
    have hne : namedTargets c ≠ [] := by
      obtain ⟨t, ht, h0⟩ := hnamed
      rw [hfilter]
      exact List.ne_nil_of_mem (List.mem_filter.mpr ⟨ht, by simpa using h0⟩)
    unfold Addressed
    rw [or_iff_right hne, hfilter]
    simp only [List.mem_map, List.mem_filter, decide_eq_true_eq]
    constructor
    · rintro ⟨t, ⟨ht, h0⟩, rfl⟩
      exact ⟨h0, t, ht, rfl⟩
    · rintro ⟨h0, t, ht, rfl⟩
      exact ⟨t, ⟨ht, h0⟩, rfl⟩
  constructor
  · -- a configured actuator 0 that is listed is passed over by the reader
    rintro ⟨-, hexact⟩ ⟨hcfg, hmem⟩
    have h0 := hexact 0
    rw [hsent, if_neg fun h => ((haddr 0).mp h.2).1 rfl, if_pos ⟨hcfg, hmem⟩] at h0
    cases h0
  · intro hzero
    refine ⟨hnone, fun canId => ?_⟩
    rw [hsent]
    by_cases hid : canId = 0
    · subst hid
      rw [if_neg fun h => ((haddr 0).mp h.2).1 rfl, if_neg hzero]
    · have hiff : (canId ∈ canIds ∧ Addressed c canId) ↔
          (canId ∈ canIds ∧ canId ∈ targets.map Prod.fst) := by
        rw [haddr]
        simp [hid]
      simp only [hiff, offsetFor, hfilter, lastOffset_filter hid]

/-- The same for a list in which every id is 0: the loop serves every actuator with offset 0. -/
theorem delivers_iff_of_zero_only {canIds : List ℤ} {targets : List (ℤ × ℤ)}
    {c : OperatorCommandC} {sent : List CANFrame × Option PyError}
    (hlist : zeroTargetList c = targets) (hrange : ∀ t ∈ targets, -32768 ≤ t.2 ∧ t.2 ≤ 32767)
    (hne : targets ≠ []) (hnone : sent.2 = none)
    (hsent : ∀ canId, framesTo canId sent.1 =
      if canId ∈ canIds ∧ Addressed c canId then
        [⟨canId, setZeroPayload (offsetFor c canId)⟩] else [])
    (hzero : ∀ t ∈ targets, t.1 = 0) :
    DeliversExactly canIds targets sent ↔
      ∀ id ∈ canIds, id = 0 ∧ lastOffset targets 0 = some 0 := by
  -- no target is left, so the loop falls back to every actuator
  have hnil : namedTargets c = [] := by
    rw [namedTargets, hlist, List.filter_eq_nil_iff]
    intro t ht
    simpa using hzero t ht
  have hframes : ∀ canId, framesTo canId sent.1 =
      if canId ∈ canIds then [⟨canId, setZeroPayload 0⟩] else [] := by
    intro canId
    rw [hsent]
    simp [Addressed, offsetFor, hnil, lastOffset]
  have hmem : ∀ canId, canId ∈ targets.map Prod.fst ↔ canId = 0 := by
    intro canId
    constructor
    · intro h
      obtain ⟨t, ht, rfl⟩ := List.mem_map.mp h
      exact hzero t ht
    · rintro rfl
      obtain ⟨t, ht⟩ := List.exists_mem_of_ne_nil _ hne
      exact List.mem_map.mpr ⟨t, ht, hzero t ht⟩
  constructor
  · rintro ⟨-, hexact⟩ id hid
    have hget := hexact id
    rw [hframes, if_pos hid] at hget
    by_cases h0 : id = 0
    · subst h0
      rw [if_pos ⟨hid, (hmem 0).mpr rfl⟩] at hget
      refine ⟨rfl, ?_⟩
      cases hlast : lastOffset targets 0 with
      | none =>
          obtain ⟨t, ht⟩ := List.exists_mem_of_ne_nil _ hne
          rw [lastOffset, Option.map_eq_none_iff, List.find?_eq_none] at hlast
          exact absurd (hzero t ht) (by simpa using hlast t (List.mem_reverse.mpr ht))
      | some o =>
          rw [hlast, Option.getD_some] at hget
          have hpay : setZeroPayload 0 = setZeroPayload o := by simpa using hget
          have ho : 0 = o :=
            setZeroPayload_inj (by decide) (hrange _ (mem_of_lastOffset hlast)) hpay
          rw [← ho]
    · rw [if_neg fun h => h0 ((hmem id).mp h.2)] at hget
      cases hget
  · intro hall
    refine ⟨hnone, fun canId => ?_⟩
    rw [hframes]
    by_cases hid : canId ∈ canIds
    · obtain ⟨rfl, hlast⟩ := hall canId hid
      rw [if_pos hid, if_pos ⟨hid, (hmem 0).mpr rfl⟩, hlast]
      rfl
    · rw [if_neg hid, if_neg fun h => hid h.1]

section Pipeline

variable {K : Type} [Field K] [LinearOrder K] [IsStrictOrderedRing K] [FloorRing K]

/-- **The pipeline, end to end.** A rejected list leaves the segment as it was. For an accepted,
non-empty one, the command read back from the segment makes `_send_zero_set_all` deliver exactly the
requested offsets if and only if the id 0 is harmless in it. -/
theorem zero_set_delivers_iff (cfg : RobotControllerConfig K) (shm : OperatorCommandShm)
    (timeNs : ℤ) (targets : List (ℤ × ℤ)) (env : TickEnv K) (earlier : List CANFrame)
    (s : ControllerState K)
    (hacc : ∀ f : CANFrame, f.canId ∈ cfg.canIds → ∀ before,
      sendFrame env.daemonAccepts before f = .ok ()) :
    (¬ AcceptedTargets targets →
      ∃ e, shm.publishZeroSet timeNs targets = (shm, .error e)) ∧
    (AcceptedTargets targets → targets ≠ [] →
      (DeliversExactly cfg.canIds targets
        (sendZeroSetAll cfg env earlier s
          (some (shm.publishZeroSet timeNs targets).1.readRelaxed)).2 ↔
        ZeroIdHarmless cfg.canIds targets)) := by
  refine ⟨shm.publishZeroSet_rejected timeNs, fun h hne => ?_⟩
  rw [shm.publishZeroSet_accepted timeNs h, OperatorCommandShm.readRelaxed_write]
  have hlist := zeroTargetList_builtCommand h timeNs OperatorCommandCode.zeroSet.value 0
  obtain ⟨hnone, hsent⟩ := @sendZeroSetAll_framesTo K _ _ _ _ cfg env earlier s _
    (wellFormed_builtCommand h timeNs OperatorCommandCode.zeroSet.value 0) hacc
  unfold ZeroIdHarmless
  by_cases hnamed : ∃ t ∈ targets, t.1 ≠ 0
  · rw [delivers_iff_of_named hlist hnone hsent hnamed]
    obtain ⟨t, ht, h0⟩ := hnamed
    exact ⟨fun hz => Or.inl ⟨⟨t, ht, h0⟩, hz⟩,
      fun hor => hor.elim (fun hl => hl.2) fun hr => absurd (hr.1 t ht) h0⟩
  · have hzero : ∀ t ∈ targets, t.1 = 0 := by
      intro t ht
      by_contra h0
      exact hnamed ⟨t, ht, h0⟩
    rw [delivers_iff_of_zero_only hlist (fun t ht => (h.2 t ht).2) hne hnone hsent hzero]
    exact ⟨fun hr => Or.inr ⟨hzero, hr⟩, fun hor => hor.elim (fun hl => absurd hl.1 hnamed)
      fun hr => hr.2⟩

end Pipeline

theorem quietEnv_accepts (f : CANFrame) (hf : f.canId ∈ twoActuatorConfig.canIds)
    (before : List CANFrame) : sendFrame (quietEnv 0).daemonAccepts before f = .ok () :=
  (sendsAccepted_tickOn 0 0 .none).2 f hf before

/-- A list whose only target has id 0 is accepted, and zeroes both actuators of a robot that has no
actuator 0. -/
theorem zero_id_zeroes_all :
    let sent := (sendZeroSetAll twoActuatorConfig (quietEnv 0) [] freshController
      (some (OperatorCommandShm.zeroed.publishZeroSet 1 [(0, 500)]).1.readRelaxed)).2
    AcceptedTargets [(0, 500)] ∧
    sent.1 = [⟨0x101, [0xC3, 0, 0, 0, 0, 0, 0, 0]⟩, ⟨0x102, [0xC3, 0, 0, 0, 0, 0, 0, 0]⟩] ∧
    ¬ DeliversExactly twoActuatorConfig.canIds [(0, 500)] sent := by
  intro sent
  have hsent : sent.1 = [⟨0x101, [0xC3, 0, 0, 0, 0, 0, 0, 0]⟩,
      ⟨0x102, [0xC3, 0, 0, 0, 0, 0, 0, 0]⟩] := by decide +kernel
  refine ⟨by decide, hsent, ?_⟩
  rintro ⟨-, hexact⟩
  have h := hexact 0x101
  rw [hsent] at h
  revert h
  decide

/-- Two listings of one actuator and one of an unknown id: the actuator gets its last offset. -/
theorem zero_set_delivers_last_offset :
    DeliversExactly twoActuatorConfig.canIds [(0x102, -5), (0x300, 7), (0x102, 9)]
      (sendZeroSetAll twoActuatorConfig (quietEnv 0) [] freshController
        (some (OperatorCommandShm.zeroed.publishZeroSet 1
          [(0x102, -5), (0x300, 7), (0x102, 9)]).1.readRelaxed)).2 :=
  ((zero_set_delivers_iff twoActuatorConfig OperatorCommandShm.zeroed 1
    [(0x102, -5), (0x300, 7), (0x102, 9)] (quietEnv 0) [] freshController quietEnv_accepts).2
    (by decide) (by decide)).mpr (Or.inl ⟨by decide, by decide⟩)

end SparqControl.Controller
