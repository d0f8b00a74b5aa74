/-
# SparqControl.Dashboard.RecentFrames — the 24 ids heard last.

`raw_frames` keeps one entry for every id ever heard, and the page shows the 24 that were heard last.
`recent_frames_exact`: each row is the last frame of its id with the count and the age of it, no id has two
rows, and an id that was heard is left out only behind 24 ids that were heard no earlier.
-/
import SparqControl.Dashboard.NodeRows

namespace SparqControl.Dashboard

open SparqControl.Lib (Dict)
open SparqControl.Lib.Trace
open SparqControl.Lib.Window (newest length_newest_le mem_of_mem_newest nodup_map_newest mem_newest_or)

section Raw

variable {K : Type} [Field K] [LinearOrder K]

/-- The entry of an id that was heard: how often, and the last frame. -/
structure RawFollows (heard : List (K × List UInt8)) (raw : RawFrameState K) : Prop where
  count : raw.count = heard.length
  last : heard.getLast? = some (raw.lastT, raw.lastData)
  lastDlc : raw.lastDlc = raw.lastData.length

/-- What holds of the entries: each knows its id, and the ids are those that were heard. -/
structure RawsFollow (past : List (MonitorEvent K)) (raws : Dict ℤ (RawFrameState K)) : Prop where
  keyed : raws.Keyed RawFrameState.canId
  heard : ∀ canId raw, raws.get? canId = some raw → RawFollows (arrivals canId past) raw
  unheard : ∀ canId, raws.get? canId = none → arrivals canId past = []

omit [LinearOrder K] in
/-- An event that is no arrival. -/
theorem RawsFollow.skip {past : List (MonitorEvent K)} {raws : Dict ℤ (RawFrameState K)}
    (h : RawsFollow past raws) {event : MonitorEvent K} (hnone : ∀ canId, arrival canId event = none) :
    RawsFollow (past ++ [event]) raws := by
  have hsame : ∀ canId, arrivals canId (past ++ [event]) = arrivals canId past :=
    fun canId => arrivals_concat_none (hnone canId)
  refine ⟨h.keyed, fun canId raw hget => ?_, fun canId hget => ?_⟩
  · rw [hsame]
    exact h.heard canId raw hget
  · rw [hsame]
    exact h.unheard canId hget

omit [LinearOrder K] in
/-- An id that was heard has its entry. -/
theorem RawsFollow.exists_raw {past : List (MonitorEvent K)} {raws : Dict ℤ (RawFrameState K)}
    (h : RawsFollow past raws) {canId : ℤ} {last : K × List UInt8}
    (hlast : (arrivals canId past).getLast? = some last) :
    ∃ raw ∈ raws.values, raw.canId = canId ∧ (raw.lastT, raw.lastData) = last := by
  cases hget : raws.get? canId with
  | none =>
      rw [h.unheard canId hget] at hlast
      cases hlast
  | some raw =>
      have hentry := Dict.mem_of_get? hget
      have hraw := (h.heard canId raw hget).last
      refine ⟨raw, List.mem_map.mpr ⟨_, hentry, rfl⟩, h.keyed _ hentry, ?_⟩
      exact Option.some.inj (hraw.symm.trans hlast)

omit [LinearOrder K] in
/-- `_update_raw_frame`. -/
theorem RawsFollow.file {past : List (MonitorEvent K)} {s : MonitorState K}
    (h : RawsFollow past s.rawFrames) (channel : Option ℕ) (frame : ParsedFrame) (now : K) :
    RawsFollow (past ++ [.rx channel frame now]) (updateRawFrame s frame now).rawFrames := by
  have hown : arrivals frame.canId (past ++ [.rx channel frame now]) =
      arrivals frame.canId past ++ [(now, frame.data)] := arrivals_concat_some (if_pos rfl)
  have hother : ∀ canId, canId ≠ frame.canId →
      arrivals canId (past ++ [.rx channel frame now]) = arrivals canId past :=
    fun canId hne => arrivals_concat_none (if_neg hne.symm)
  unfold updateRawFrame
  refine ⟨h.keyed.insert ?_, fun canId raw hget => ?_, fun canId hget => ?_⟩
  · cases hget : s.rawFrames.get? frame.canId with
    | none => rfl
    | some raw => exact h.keyed _ (Dict.mem_of_get? hget)
  · rw [Dict.get?_insert] at hget
    split at hget
    · rename_i heq
      subst heq
      cases hget
      rw [hown]
      refine ⟨?_, List.getLast?_concat, frame.length_data.symm⟩
      rw [List.length_append]
      cases hold : s.rawFrames.get? frame.canId with
      | none => rw [h.unheard _ hold]; rfl
      | some raw => rw [← (h.heard _ raw hold).count]; rfl
    · rename_i hne
      rw [hother canId hne]
      exact h.heard canId raw hget
  · rw [Dict.get?_insert] at hget
    split at hget
    · cases hget
    · rename_i hne
      rw [hother canId hne]
      exact h.unheard canId hget

variable [FloorRing K]

/-- The entries over a run. -/
theorem rawsFollow_final (sqrt : K → K) (config : MonitorConfig K) (past : List (MonitorEvent K)) :
    RawsFollow past (final (monitorStep sqrt config) (.start config) past).state.rawFrames := by
  induction past using List.reverseRecOn with
  | nil =>
      obtain ⟨nodes, motors, hstart⟩ := monitorInit_eq config
      show RawsFollow [] (monitorInit config).rawFrames
      rw [hstart]
      refine ⟨fun e he => (List.not_mem_nil he).elim, fun canId raw hget => ?_, fun canId _ => rfl⟩
      cases hget
  | append_singleton past event ih =>
      rw [final_concat]
      generalize final (monitorStep sqrt config) (.start config) past = m at ih ⊢
      cases event with
      | rx channel frame now =>
          obtain ⟨imu, motors, hleaves⟩ := markRxLeaves_eq sqrt config channel m.state frame now
          show RawsFollow _ (markRxLeaves sqrt config channel m.state frame now).rawFrames
          rw [hleaves]
          have hmark : ∀ s : MonitorState K, s.rawFrames = m.state.rawFrames →
              RawsFollow (past ++ [.rx channel frame now])
                (markNode config (updateRawFrame s frame now) frame now).rawFrames := by
            intro s hs
            obtain ⟨nodes, hnodes⟩ := markNode_eq config (updateRawFrame s frame now) frame now
            have hsame : RawsFollow past s.rawFrames := hs ▸ ih
            rw [hnodes]
            exact hsame.file channel frame now
          cases channel with
          | none => exact hmark _ rfl
          | some i => exact hmark _ rfl
      | tx canId data now =>
          obtain ⟨imu, motors, hstate⟩ := markTx_eq config m canId data now
          show RawsFollow _ (m.markTx config canId data now).state.rawFrames
          rw [hstate]
          exact ih.skip fun canId => rfl
      | page now => exact ih.skip fun canId => rfl

/-! ## The rows -/

/-- The row of an id whose frames are these. -/
def recentRow (canId : ℤ) (heard : List (K × List UInt8)) (last : K × List UInt8) (now : K) :
    RecentFrame K where
  canId := hexId canId
  dlc := last.2.length
  data := hexData last.2
  count := heard.length
  ageS := some (now - last.1)

variable [IsStrictOrderedRing K]

omit [FloorRing K] in
/-- The row of an entry. -/
theorem RawsFollow.row_eq {past : List (MonitorEvent K)} {raws : Dict ℤ (RawFrameState K)}
    (h : RawsFollow past raws) (hpositive : ∀ event ∈ past, 0 < event.time) {raw : RawFrameState K}
    (hraw : raw ∈ raws.values) (now : K) :
    (arrivals raw.canId past).getLast? = some (raw.lastT, raw.lastData) ∧
      raw.row now = recentRow raw.canId (arrivals raw.canId past) (raw.lastT, raw.lastData) now := by
  obtain ⟨hcount, hlast, hdlc⟩ := h.heard raw.canId raw (h.keyed.get?_key hraw)
  refine ⟨hlast, ?_⟩
  have hpos : 0 < raw.lastT := by
    obtain ⟨event, hevent, harrival⟩ := List.mem_filterMap.mp (List.mem_of_getLast? hlast)
    have htime : raw.lastT = event.time := time_of_arrival harrival
    rw [htime]
    exact hpositive event hevent
  have hage : ageOf now raw.lastT = some (now - raw.lastT) := by
    have hzero : (0.0 : K) = 0 := by norm_num
    rw [ageOf, hzero, if_neg (not_le.mpr hpos)]
  simp only [RawFrameState.row, recentRow, hage, hcount, hdlc]

/-- **The recent frames on the page.** At most 24 rows are shown, with no id twice. A row shows the last
frame heard under its id, the number of frames heard under it and the age of the last. An id that was heard
and has no row came before all of the 24. -/
theorem recent_frames_exact (sqrt : K → K) (config : MonitorConfig K) (past : List (MonitorEvent K))
    (now : K) (hpositive : ∀ event ∈ past, 0 < event.time) :
    let rows := ((final (monitorStep sqrt config) (.start config) past).snapshot config now).2.recentFrames
    rows.length ≤ 24 ∧ (rows.map RecentFrame.canId).Nodup ∧
      (∀ row ∈ rows, ∃ canId last, (arrivals canId past).getLast? = some last ∧
        row = recentRow canId (arrivals canId past) last now) ∧
      ∀ canId last, (arrivals canId past).getLast? = some last →
        recentRow canId (arrivals canId past) last now ∈ rows ∨
          rows.length = 24 ∧ ∀ row ∈ rows, ∃ age, row.ageS = some age ∧ age ≤ now - last.1 := by
  intro rows
  have hraws := rawsFollow_final sqrt config past
  have hrows : rows = (newest RawFrameState.lastT 24
      (final (monitorStep sqrt config) (.start config) past).state.rawFrames.values).map
        fun raw => raw.row now := rfl
  generalize (final (monitorStep sqrt config) (.start config) past).state.rawFrames = raws at hraws hrows
  rw [hrows]
  refine ⟨?_, ?_, fun row hrow => ?_, fun canId last hlast => ?_⟩
  · rw [List.length_map]
    exact length_newest_le
  · -- distinct ids, printed differently
    have hids : (raws.values.map RawFrameState.canId).Nodup := hraws.keyed.map_values ▸ raws.keys_nodup
    have htaken : ((newest RawFrameState.lastT 24 raws.values).map RawFrameState.canId).Nodup :=
      nodup_map_newest hids
    have hprinted := htaken.map hexId_injective
    rw [List.map_map] at hprinted ⊢
    exact hprinted
  · obtain ⟨raw, hraw, rfl⟩ := List.mem_map.mp hrow
    obtain ⟨hlast, hrow⟩ := hraws.row_eq hpositive (mem_of_mem_newest hraw) now
    exact ⟨raw.canId, _, hlast, hrow⟩
  · obtain ⟨raw, hvalue, rfl, rfl⟩ := hraws.exists_raw hlast
    rcases mem_newest_or RawFrameState.lastT 24 hvalue with hin | ⟨hfull, hlater⟩
    · exact .inl (List.mem_map.mpr ⟨raw, hin, (hraws.row_eq hpositive hvalue now).2⟩)
    · right
      refine ⟨by rw [List.length_map, hfull], fun row hrow => ?_⟩
      obtain ⟨raw', hraw', rfl⟩ := List.mem_map.mp hrow
      rw [(hraws.row_eq hpositive (mem_of_mem_newest hraw') now).2]
      exact ⟨_, rfl, sub_le_sub_left (hlater raw' hraw') now⟩

end Raw

/-- The one id that was heard, three times and last at 2.25 s. -/
theorem recent_frames_exact_two :
    recentRow 0x101 (arrivals 0x101 twoChannelPast) (9 / 4, enterAck.data) (12 / 5) ∈
        ((final (monitorStep id twoChannelMonitor) (.start twoChannelMonitor) twoChannelPast).snapshot
          twoChannelMonitor (12 / 5)).2.recentFrames ∧
      (arrivals 0x101 twoChannelPast).length = 3 := by
  obtain ⟨-, -, -, hheard⟩ := recent_frames_exact id twoChannelMonitor twoChannelPast (12 / 5)
    (by decide +kernel)
  refine ⟨?_, by decide⟩
  rcases hheard 0x101 (9 / 4, enterAck.data) rfl with hshown | ⟨hfull, -⟩
  · exact hshown
  · exact absurd hfull (by decide +kernel)

end SparqControl.Dashboard
