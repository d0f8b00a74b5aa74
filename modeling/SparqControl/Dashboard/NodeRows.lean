/-
# SparqControl.Dashboard.NodeRows — who the dashboard says is there.

`mark_rx` looks for the first node with the id of the frame and makes a raw node where there is none. Two
configured nodes may share an id, so the first one hears everything and the others nothing
(`node_rows_exact`). That a new raw node does not run into an older one rests on its name: the ids are
printed in hexadecimal, and different ids are printed differently (`formatHex_injective`).
-/
import SparqControl.Dashboard.Traffic

namespace SparqControl.Dashboard

open SparqControl.Lib (Dict)
open SparqControl.Lib.Trace
open SparqControl.Lib.Window (LiveUpTo liveUpTo_nil)

/-! ## Names of nodes -/

/-- The number a list of upper-case hexadecimal digits stands for. -/
def hexValue (digits : List Char) : ℕ :=
  digits.foldl (fun n c => 16 * n + ("0123456789ABCDEF".toList.idxOf c)) 0

theorem hexValue_toDigits (n : ℕ) : hexValue ((Nat.toDigits 16 n).map Char.toUpper) = n := by
  have hdigit : ∀ d < 16, "0123456789ABCDEF".toList.idxOf d.digitChar.toUpper = d := by decide
  induction n using Nat.strongRecOn with
  | ind n ih =>
      rcases Nat.lt_or_ge n 16 with hlt | hge
      · rw [Nat.toDigits_of_lt_base hlt]
        show 16 * 0 + _ = n
        rw [hdigit n hlt, Nat.mul_zero, Nat.zero_add]
      · have hfront := ih (n / 16) (Nat.div_lt_self (by omega) (by decide))
        rw [Nat.toDigits_of_base_le (by decide) hge, List.map_append, hexValue, List.foldl_append]
        rw [hexValue] at hfront
        rw [hfront]
        show 16 * (n / 16) + _ = n
        rw [hdigit _ (Nat.mod_lt n (by decide))]
        exact Nat.div_add_mod n 16

theorem hexValue_padded (k n : ℕ) :
    hexValue (List.replicate k '0' ++ (Nat.toDigits 16 n).map Char.toUpper) = n := by
  have hzeros : (List.replicate k '0').foldl
      (fun n c => 16 * n + ("0123456789ABCDEF".toList.idxOf c)) 0 = 0 := by
    induction k with
    | zero => rfl
    | succ k ih => exact ih
  rw [hexValue, List.foldl_append, hzeros]
  exact hexValue_toDigits n

/-- No digit is a sign. -/
theorem ne_minus_of_mem_toDigits (n : ℕ) : ∀ c ∈ (Nat.toDigits 16 n).map Char.toUpper, c ≠ '-' := by
  have hdigit : ∀ d < 16, d.digitChar.toUpper ≠ '-' := by decide
  induction n using Nat.strongRecOn with
  | ind n ih =>
      rcases Nat.lt_or_ge n 16 with hlt | hge
      · rw [Nat.toDigits_of_lt_base hlt, List.map_singleton]
        intro c hc
        rw [List.mem_singleton.mp hc]
        exact hdigit n hlt
      · rw [Nat.toDigits_of_base_le (by decide) hge, List.map_append, List.map_singleton]
        intro c hc
        rcases List.mem_append.mp hc with hc | hc
        · exact ih (n / 16) (Nat.div_lt_self (by omega) (by decide)) c hc
        · rw [List.mem_singleton.mp hc]
          exact hdigit _ (Nat.mod_lt n (by decide))

theorem minus_not_mem_padded (k n : ℕ) :
    '-' ∉ List.replicate k '0' ++ (Nat.toDigits 16 n).map Char.toUpper := by
  intro h
  rcases List.mem_append.mp h with h | h
  · exact absurd (List.eq_of_mem_replicate h) (by decide)
  · exact ne_minus_of_mem_toDigits n '-' h rfl

/-- Different ids are printed differently. -/
theorem formatHex_injective (width : ℕ) : Function.Injective (formatHex width) := by
  intro i j h
  have hchars := congrArg String.toList h
  simp only [formatHex, String.toList_ofList, List.append_assoc] at hchars
  by_cases hi : i < 0 <;> by_cases hj : j < 0 <;> simp only [hi, hj, if_true, if_false] at hchars
  · have habs := congrArg hexValue (List.append_cancel_left hchars)
    rw [hexValue_padded, hexValue_padded] at habs
    omega
  · -- one has a sign and the other has not
    have hminus := (congrArg (fun cs => '-' ∈ cs) hchars).mp
      (List.mem_append_left _ (List.mem_singleton_self '-'))
    exact absurd hminus (minus_not_mem_padded _ j.natAbs)
  · have hminus := (congrArg (fun cs => '-' ∈ cs) hchars).mpr
      (List.mem_append_left _ (List.mem_singleton_self '-'))
    exact absurd hminus (minus_not_mem_padded _ i.natAbs)
  · have habs := congrArg hexValue hchars
    rw [List.nil_append, List.nil_append, hexValue_padded, hexValue_padded] at habs
    omega

theorem hexId_injective : Function.Injective hexId := by
  intro i j h
  apply formatHex_injective 3
  have hchars := congrArg String.toList h
  simp only [hexId, String.toList_append] at hchars
  exact String.toList_inj.mp (List.append_cancel_left hchars)

theorem canKey_injective {i j : ℤ} (h : "can_" ++ formatHex 3 i = "can_" ++ formatHex 3 j) : i = j := by
  apply formatHex_injective 3
  have hchars := congrArg String.toList h
  simp only [String.toList_append] at hchars
  exact String.toList_inj.mp (List.append_cancel_left hchars)

/-! ## What a node has heard -/

section Nodes

variable {K : Type} [Field K] [LinearOrder K]

/-- The arrival of a frame with an id. -/
def arrival (canId : ℤ) : MonitorEvent K → Option (K × List UInt8)
  | .rx _ frame now => if frame.canId = canId then some (now, frame.data) else none
  | _ => none

/-- The frames with an id that were heard, with their times. -/
def arrivals (canId : ℤ) (past : List (MonitorEvent K)) : List (K × List UInt8) :=
  past.filterMap (arrival canId)

/-- What holds of a node that has heard these frames. -/
structure NodeState.Follows (config : MonitorConfig K) (heard : List (K × List UInt8)) (now : K)
    (node : NodeState K) : Prop where
  timeoutS : node.timeoutS = config.nodeTimeoutS
  heartbeatWindowS : node.heartbeatWindowS = config.heartbeatWindowS
  rxCount : node.rxCount = heard.length
  last : (node.lastT, node.lastData) = heard.getLast?.getD (0, [])
  timestamps : LiveUpTo id (now - config.heartbeatWindowS) (heard.map Prod.fst) node.timestamps

/-- Of the nodes with one id, the first has heard these frames and the others nothing. -/
def FirstFollows (config : MonitorConfig K) (heard : List (K × List UInt8)) (now : K) :
    List (NodeState K) → Prop
  | [] => heard = []
  | node :: rest => node.Follows config heard now ∧ ∀ other ∈ rest, other.Follows config [] now

/-- The nodes with an id, in the order of the dictionary. -/
def nodesOf (canId : ℤ) (nodes : Dict String (NodeState K)) : List (NodeState K) :=
  nodes.values.filter fun node => node.canId = canId

/-- What holds of the nodes. -/
structure NodesFollow (config : MonitorConfig K) (past : List (MonitorEvent K)) (now : K)
    (nodes : Dict String (NodeState K)) : Prop where
  keyed : nodes.Keyed NodeState.key
  named : ∀ node ∈ nodes.values, ∀ canId, node.key = "can_" ++ formatHex 3 canId → node.canId = canId
  rows : ∀ canId, FirstFollows config (arrivals canId past) now (nodesOf canId nodes)

section Steps

variable {config : MonitorConfig K} {heard : List (K × List UInt8)} {t now : K} {node : NodeState K}

theorem NodeState.Follows.markRx (h : node.Follows config heard now) {data : List UInt8}
    (hsorted : ((heard ++ [(now, data)]).map Prod.fst).Pairwise (· ≤ ·)) :
    (node.markRx now data).Follows config (heard ++ [(now, data)]) now := by
  refine ⟨h.timeoutS, h.heartbeatWindowS, ?_, ?_, ?_⟩
  · rw [List.length_append, ← h.rxCount]
    rfl
  · rw [List.getLast?_concat]
    rfl
  · rw [List.map_append] at hsorted ⊢
    have hpush := h.timestamps.push hsorted
    rw [← h.heartbeatWindowS] at hpush ⊢
    exact hpush

theorem NodeState.Follows.prune (h : node.Follows config heard now)
    (hsorted : (heard.map Prod.fst).Pairwise (· ≤ ·)) : (node.prune now).Follows config heard now := by
  refine ⟨h.timeoutS, h.heartbeatWindowS, h.rxCount, h.last, ?_⟩
  refine ⟨now - config.heartbeatWindowS, le_rfl, ?_⟩
  have hcut := h.timestamps.prune hsorted
  rw [← h.heartbeatWindowS] at hcut ⊢
  exact hcut

/-- A node that was just made. -/
theorem follows_new (config : MonitorConfig K) (now : K) (key name : String) (canId : ℤ)
    (role : String) :
    NodeState.Follows config [] now
      { key := key, name := name, canId := canId, role := role, timeoutS := config.nodeTimeoutS
        heartbeatWindowS := config.heartbeatWindowS } :=
  ⟨rfl, rfl, rfl, rfl, liveUpTo_nil⟩

variable {past : List (MonitorEvent K)} {nodes : Dict String (NodeState K)} {s : MonitorState K}

/-- A new node is the last of its id. -/
theorem NodesFollow.insertNew (h : NodesFollow config past now nodes) (hkey : node.key ∉ nodes.keys)
    (hnode : node.Follows config [] now)
    (hname : ∀ canId, node.key = "can_" ++ formatHex 3 canId → node.canId = canId) :
    NodesFollow config past now (nodes.insert node.key node) := by
  have hvalues := Dict.values_insert_of_not_mem (a := node) hkey
  refine ⟨h.keyed.insert rfl, fun other hother => ?_, fun canId => ?_⟩
  · rw [hvalues] at hother
    rcases List.mem_append.mp hother with hother | hother
    · exact h.named other hother
    · rw [List.mem_singleton.mp hother]
      exact hname
  · have hrows := h.rows canId
    rw [nodesOf, hvalues, List.filter_append]
    change FirstFollows _ _ _ (nodesOf canId nodes ++ _)
    by_cases hid : node.canId = canId
    · rw [List.filter_cons_of_pos (by simpa using hid), List.filter_nil]
      cases hlist : nodesOf canId nodes with
      | nil =>
          rw [hlist] at hrows
          rw [show arrivals canId past = [] from hrows]
          exact ⟨hnode, fun other hother => (List.not_mem_nil hother).elim⟩
      | cons first rest =>
          rw [hlist] at hrows
          refine ⟨hrows.1, fun other hother => ?_⟩
          rcases List.mem_append.mp hother with hother | hother
          · exact hrows.2 other hother
          · rw [List.mem_singleton.mp hother]
            exact hnode
    · rw [List.filter_cons_of_neg (by simpa using hid), List.filter_nil, List.append_nil]
      exact hrows

/-- `_ensure_node` with a name that fits the id. -/
theorem NodesFollow.ensureNode (h : NodesFollow config past now s.nodes) {key : String} (canId : ℤ)
    (hkey : ∀ other, key = "can_" ++ formatHex 3 other → canId = other) (name role : String) :
    NodesFollow config past now (ensureNode config s key name canId role).1.nodes := by
  unfold Dashboard.ensureNode
  split
  · exact h
  · rename_i habsent
    exact h.insertNew (Dict.get?_eq_none_iff _ _ |>.mp habsent) (follows_new config now key name canId role)
      hkey

/-- `_node_for_can_id` returns the first node of the id. -/
theorem NodesFollow.nodeForCanId (h : NodesFollow config past now s.nodes) (canId : ℤ) :
    NodesFollow config past now (nodeForCanId config s canId).1.nodes ∧
      ∃ rest, nodesOf canId (nodeForCanId config s canId).1.nodes =
        (nodeForCanId config s canId).2 :: rest := by
  unfold Dashboard.nodeForCanId
  have hhead : (nodesOf canId s.nodes).head? = s.nodes.values.find? fun node => node.canId = canId :=
    List.head?_filter ..
  split
  · rename_i node hfound
    rw [hfound] at hhead
    exact ⟨h, List.head?_eq_some_iff.mp hhead⟩
  · rename_i hnone
    rw [hnone] at hhead
    have hempty : nodesOf canId s.nodes = [] := List.head?_eq_none_iff.mp hhead
    refine ⟨h.ensureNode canId (fun other heq => canKey_injective heq) _ _, ?_⟩
    -- a node of that name would have had the id
    have habsent : s.nodes.get? ("can_" ++ formatHex 3 canId) = none := by
      cases hget : s.nodes.get? ("can_" ++ formatHex 3 canId) with
      | none => rfl
      | some node =>
          have hentry := Dict.mem_of_get? hget
          have hmem : node ∈ s.nodes.values := List.mem_map.mpr ⟨_, hentry, rfl⟩
          have hid := h.named node hmem canId (h.keyed _ hentry)
          have hin : node ∈ nodesOf canId s.nodes := List.mem_filter.mpr ⟨hmem, by simpa using hid⟩
          rw [hempty] at hin
          cases hin
    unfold Dashboard.ensureNode
    rw [habsent]
    refine ⟨[], ?_⟩
    show (s.nodes.insert _ _).values.filter _ = _
    rw [Dict.values_insert_of_not_mem ((Dict.get?_eq_none_iff _ _).mp habsent), List.filter_append]
    change nodesOf canId s.nodes ++ _ = _
    rw [hempty]
    simp

variable [IsStrictOrderedRing K]

theorem NodeState.Follows.mono (h : node.Follows config heard t) (ht : t ≤ now) :
    node.Follows config heard now :=
  ⟨h.timeoutS, h.heartbeatWindowS, h.rxCount, h.last, h.timestamps.mono (sub_le_sub_right ht _)⟩

theorem FirstFollows.mono {nodes : List (NodeState K)} (h : FirstFollows config heard t nodes)
    (ht : t ≤ now) : FirstFollows config heard now nodes := by
  cases nodes with
  | nil => exact h
  | cons node rest => exact ⟨h.1.mono ht, fun other hother => (h.2 other hother).mono ht⟩

omit [Field K] [LinearOrder K] [IsStrictOrderedRing K] in
/-- An event that is no arrival under an id. -/
theorem arrivals_concat_none {canId : ℤ} {event : MonitorEvent K} (h : arrival canId event = none) :
    arrivals canId (past ++ [event]) = arrivals canId past := by
  rw [arrivals, List.filterMap_append, List.filterMap_cons_none h, List.filterMap_nil, List.append_nil]
  rfl

omit [Field K] [LinearOrder K] [IsStrictOrderedRing K] in
theorem arrivals_concat_some {canId : ℤ} {event : MonitorEvent K} {a : K × List UInt8}
    (h : arrival canId event = some a) :
    arrivals canId (past ++ [event]) = arrivals canId past ++ [a] := by
  rw [arrivals, List.filterMap_append, List.filterMap_cons_some h, List.filterMap_nil]
  rfl

omit [Field K] [LinearOrder K] [IsStrictOrderedRing K] in
theorem time_of_arrival {canId : ℤ} {event : MonitorEvent K} {a : K × List UInt8}
    (h : arrival canId event = some a) : a.1 = event.time := by
  cases event with
  | rx channel frame now =>
      simp only [arrival, Option.ite_none_right_eq_some, Option.some.injEq] at h
      rw [← h.2]
      rfl
  | tx canId data now => cases h
  | page now => cases h

omit [Field K] [IsStrictOrderedRing K] in
theorem sorted_arrivals (hclock : ClockUpTo past now) (canId : ℤ) :
    ((arrivals canId past).map Prod.fst).Pairwise (· ≤ ·) :=
  List.pairwise_map.mpr (hclock.recorded (arrival canId) Prod.fst fun _ _ => time_of_arrival)

/-- An event that leaves the nodes alone. -/
theorem NodesFollow.skip {event : MonitorEvent K} (h : NodesFollow config past event.time nodes)
    (hnone : ∀ canId, arrival canId event = none) (ht : event.time ≤ now) :
    NodesFollow config (past ++ [event]) now nodes := by
  refine ⟨h.keyed, h.named, fun canId => ?_⟩
  rw [arrivals_concat_none (hnone canId)]
  exact (h.rows canId).mono ht

omit [IsStrictOrderedRing K] in
/-- A page prunes every node. -/
theorem NodesFollow.prune (h : NodesFollow config past now nodes) (hclock : ClockUpTo past now) :
    NodesFollow config past now (nodes.mapValues fun node => node.prune now) := by
  have hrows : ∀ canId, nodesOf canId (nodes.mapValues fun node => node.prune now) =
      (nodesOf canId nodes).map fun node => node.prune now := by
    intro canId
    rw [nodesOf, Dict.values_mapValues, List.filter_map]
    rfl
  refine ⟨fun e he => ?_, fun node hnode => ?_, fun canId => ?_⟩
  · obtain ⟨e', he', rfl⟩ := List.mem_map.mp he
    exact h.keyed e' he'
  · rw [Dict.values_mapValues] at hnode
    obtain ⟨node', hnode', rfl⟩ := List.mem_map.mp hnode
    exact h.named node' hnode'
  · have hfirst := h.rows canId
    rw [hrows]
    cases hlist : nodesOf canId nodes with
    | nil =>
        rw [hlist] at hfirst
        exact hfirst
    | cons first rest =>
        rw [hlist] at hfirst
        refine ⟨hfirst.1.prune (sorted_arrivals hclock canId), fun other hother => ?_⟩
        obtain ⟨other', hother', rfl⟩ := List.mem_map.mp hother
        exact (hfirst.2 other' hother').prune List.Pairwise.nil

omit [LinearOrder K] [IsStrictOrderedRing K] in
/-- Whatever becomes of a node, the rows of the other ids stay. -/
theorem map_nodesOf_of_ne (hkeyed : nodes.Keyed NodeState.key) (hmem : node ∈ nodes.values) {canId : ℤ}
    (hne : node.canId ≠ canId) (node' : NodeState K) :
    ((nodesOf canId nodes).map fun x => if x.key = node.key then node' else x) = nodesOf canId nodes := by
  refine (List.map_congr_left fun x hx => ?_).trans (List.map_id _)
  have hxid : x.canId = canId := by simpa using (List.mem_filter.mp hx).2
  have hkey : x.key ≠ node.key := by
    intro hkey
    have hxnode := hkeyed.eq_of_key_eq (List.mem_of_mem_filter hx) hmem hkey
    exact hne (hxnode ▸ hxid)
  rw [if_neg hkey]
  rfl

/-- The first node of the id hears the frame. -/
theorem NodesFollow.mark {channel : Option ℕ} {frame : ParsedFrame}
    (h : NodesFollow config past t nodes) {rest : List (NodeState K)}
    (hfirst : nodesOf frame.canId nodes = node :: rest)
    (hclock : ClockUpTo (past ++ [.rx channel frame t]) now) :
    NodesFollow config (past ++ [.rx channel frame t]) now
      (nodes.insert node.key (node.markRx t frame.data)) := by
  have ht : t ≤ now := hclock.le (List.mem_append_right _ (List.mem_singleton_self _))
  have hin : node ∈ nodesOf frame.canId nodes := hfirst ▸ List.mem_cons_self
  have hmem : node ∈ nodes.values := List.mem_of_mem_filter hin
  have hid : node.canId = frame.canId := by simpa using (List.mem_filter.mp hin).2
  have hrows : ∀ canId, nodesOf canId (nodes.insert node.key (node.markRx t frame.data)) =
      (nodesOf canId nodes).map fun x => if x.key = node.key then node.markRx t frame.data else x :=
    fun canId => h.keyed.filter_values_insert hmem rfl
  refine ⟨h.keyed.insert rfl, fun other hother canId hname => ?_, fun canId => ?_⟩
  · -- the marked node keeps its name and its id
    have hself : other ∈ nodesOf other.canId (nodes.insert node.key (node.markRx t frame.data)) :=
      List.mem_filter.mpr ⟨hother, by simp⟩
    rw [hrows] at hself
    obtain ⟨x, hx, rfl⟩ := List.mem_map.mp hself
    have hxmem : x ∈ nodes.values := List.mem_of_mem_filter hx
    split at hname
    · rw [if_pos (by assumption)]
      exact h.named node hmem canId hname
    · rw [if_neg (by assumption)]
      exact h.named x hxmem canId hname
  · rw [hrows]
    by_cases hcan : frame.canId = canId
    · subst hcan
      have hkeys : ((nodesOf frame.canId nodes).map NodeState.key).Nodup := by
        have hall : (nodes.values.map NodeState.key).Nodup := h.keyed.map_values ▸ nodes.keys_nodup
        exact hall.sublist (List.filter_sublist.map NodeState.key)
      have hfirstRows := h.rows frame.canId
      rw [hfirst] at hkeys hfirstRows ⊢
      rw [List.map_cons, if_pos rfl]
      have hheard : arrivals frame.canId (past ++ [.rx channel frame t]) =
          arrivals frame.canId past ++ [(t, frame.data)] := arrivals_concat_some (if_pos rfl)
      have hsorted := sorted_arrivals hclock frame.canId
      rw [hheard] at hsorted ⊢
      refine ⟨(hfirstRows.1.markRx hsorted).mono ht, fun other hother => ?_⟩
      -- the others have other keys
      obtain ⟨x, hx, rfl⟩ := List.mem_map.mp hother
      have hne : x.key ≠ node.key := by
        intro heq
        exact (List.nodup_cons.mp hkeys).1 (heq ▸ List.mem_map_of_mem hx)
      rw [if_neg hne]
      exact (hfirstRows.2 x hx).mono ht
    · have hsame : ((nodesOf canId nodes).map fun x =>
          if x.key = node.key then node.markRx t frame.data else x) = nodesOf canId nodes :=
        map_nodesOf_of_ne h.keyed hmem (hid ▸ hcan) _
      have harrival : arrival canId (.rx channel frame t) = none := if_neg hcan
      rw [hsame, arrivals_concat_none harrival]
      exact (h.rows canId).mono ht

end Steps

/-! ## Runs -/

section Runs

variable {config : MonitorConfig K} {past : List (MonitorEvent K)} {now : K}

/-- The nodes of a dashboard that was just started. -/
theorem nodesFollow_start (config : MonitorConfig K) (now : K) :
    NodesFollow config [] now (monitorInit config).nodes := by
  have himu : ∀ rest : String, ∀ key ∈ ["imu_req", "imu_quat", "imu_gyro"], key ≠ "can_" ++ rest := by
    intro rest key hkey heq
    have hchars := congrArg (fun text => text.toList.head?) heq
    simp only [List.mem_cons, List.not_mem_nil, or_false] at hkey
    rcases hkey with rfl | rfl | rfl <;> simp at hchars
  have hempty : NodesFollow config [] now (Dict.empty : Dict String (NodeState K)) :=
    ⟨fun e he => (List.not_mem_nil he).elim, fun node hnode => (List.not_mem_nil hnode).elim,
      fun canId => rfl⟩
  have hstart : NodesFollow config [] now
      (ensureImuNodes config { canChannels := config.canChannels }).nodes := by
    have hreq := NodesFollow.ensureNode (s := { canChannels := config.canChannels }) hempty
      config.imuRequestId (fun other heq => absurd heq (himu _ "imu_req" (by simp))) "E2Box command" "IMU"
    have hquat := hreq.ensureNode config.imuQuatId
      (fun other heq => absurd heq (himu _ "imu_quat" (by simp))) "E2Box quaternion" "IMU"
    exact hquat.ensureNode _ (fun other heq => absurd heq (himu _ "imu_gyro" (by simp))) "E2Box gyro" "IMU"
  have hactuators : ∀ (as : List ActuatorConfig) (s : MonitorState K),
      NodesFollow config [] now s.nodes →
        NodesFollow config [] now (as.foldl (ensureActuator config) s).nodes := by
    intro as
    induction as with
    | nil => exact fun s hs => hs
    | cons a as ih =>
        intro s hs
        rw [List.foldl_cons]
        apply ih
        have hnode := hs.ensureNode a.canId (fun other heq => canKey_injective heq) a.name "Actuator"
        unfold ensureActuator
        simp only
        split <;> exact hnode
  exact hactuators _ _ hstart

variable [IsStrictOrderedRing K] [FloorRing K]

/-- **Step.** -/
theorem NodesFollow.step (sqrt : K → K) {m : Monitor K} {event : MonitorEvent K}
    (h : NodesFollow config past event.time m.state.nodes) (hclock : ClockUpTo (past ++ [event]) now) :
    NodesFollow config (past ++ [event]) now (monitorStep sqrt config m event).1.state.nodes := by
  have ht : event.time ≤ now := hclock.le (List.mem_append_right _ (List.mem_singleton_self event))
  cases event with
  | rx channel frame t =>
      obtain ⟨imu, motors, hleaves⟩ := markRxLeaves_eq sqrt config channel m.state frame t
      show NodesFollow _ _ _ (markRxLeaves sqrt config channel m.state frame t).nodes
      rw [hleaves]
      have hmark : ∀ s : MonitorState K, s.nodes = m.state.nodes →
          NodesFollow config (past ++ [.rx channel frame t]) now (markNode config s frame t).nodes := by
        intro s hs
        have hsame : NodesFollow config past t s.nodes := hs ▸ h
        obtain ⟨hfound, rest, hfirst⟩ := hsame.nodeForCanId frame.canId
        exact hfound.mark hfirst hclock
      cases channel with
      | none => exact hmark _ rfl
      | some i => exact hmark _ rfl
  | tx canId data t =>
      obtain ⟨imu, motors, hstate⟩ := markTx_eq config m canId data t
      show NodesFollow _ _ _ (m.markTx config canId data t).state.nodes
      rw [hstate]
      exact h.skip (fun canId => rfl) ht
  | page t => exact (h.prune hclock.init).skip (fun canId => rfl) ht

/-- The nodes over a run. -/
theorem nodesFollow_final (sqrt : K → K) (hclock : ClockUpTo past now) :
    NodesFollow config past now (final (monitorStep sqrt config) (.start config) past).state.nodes := by
  induction past using List.reverseRecOn generalizing now with
  | nil => exact nodesFollow_start config now
  | append_singleton past event ih =>
      rw [final_concat]
      exact (ih hclock.init).step sqrt hclock

end Runs

/-! ## The rows -/

section Rows

/-- A row that shows these frames. -/
structure NodeRow.Shows (config : MonitorConfig K) (heard : List (K × List UInt8)) (now : K)
    (row : NodeRow K) : Prop where
  rxCount : row.rxCount = heard.length
  lastSeenS : row.lastSeenS = heard.getLast?.map fun a => now - a.1
  status : row.status =
    match heard.getLast? with
    | none => .never
    | some a => if now - a.1 > config.nodeTimeoutS then .timeout else .online
  heartbeatHz : row.heartbeatHz =
    Dashboard.heartbeatHz ((heard.map Prod.fst).filter fun t => now - config.heartbeatWindowS ≤ t)
  lastData : row.lastData = hexData ((heard.getLast?.map Prod.snd).getD [])

/-- Sorting keeps the order of what it does not tell apart. -/
theorem filter_mergeSort {α : Type} {le : α → α → Bool}
    (trans : ∀ a b c : α, le a b = true → le b c = true → le a c = true)
    (total : ∀ a b : α, (le a b || le b a) = true) {p : α → Bool}
    (hp : ∀ a b, p a = true → p b = true → le a b = true) (l : List α) :
    (l.mergeSort le).filter p = l.filter p := by
  have hpairwise : (l.filter p).Pairwise fun a b => le a b = true :=
    List.pairwise_of_forall_mem_list fun a ha b hb =>
      hp a b (List.mem_filter.mp ha).2 (List.mem_filter.mp hb).2
  have hsub : (l.filter p).Sublist (l.mergeSort le) :=
    List.sublist_mergeSort trans total hpairwise List.filter_sublist
  have hfiltered := hsub.filter p
  rw [List.filter_filter] at hfiltered
  simp only [Bool.and_self] at hfiltered
  have hlength := ((List.mergeSort_perm l le).filter p).length_eq
  exact (hfiltered.eq_of_length hlength.symm).symm

variable [IsStrictOrderedRing K] {config : MonitorConfig K} {past : List (MonitorEvent K)} {now : K}
  {heard : List (K × List UInt8)} {node : NodeState K}

/-- The row of a pruned node. -/
theorem NodeState.Follows.row (h : node.Follows config heard now)
    (hsorted : (heard.map Prod.fst).Pairwise (· ≤ ·)) (htimes : ∀ a ∈ heard, 0 < a.1 ∧ a.1 ≤ now) :
    ((node.prune now).row now).Shows config heard now := by
  have hkept : (node.prune now).timestamps =
      (heard.map Prod.fst).filter fun t => now - config.heartbeatWindowS ≤ t := by
    have hcut := h.timestamps.prune hsorted
    rw [← h.heartbeatWindowS] at hcut ⊢
    simp only [← decide_not, not_lt] at hcut
    exact hcut
  have hage : (ageOf now node.lastT).map (max 0.0) = heard.getLast?.map fun a => now - a.1 := by
    have hzero : (0.0 : K) = 0 := by norm_num
    have hlast := congrArg Prod.fst h.last
    simp only at hlast
    cases hheard : heard.getLast? with
    | none =>
        rw [hheard, Option.getD_none] at hlast
        rw [hlast, ageOf, if_pos hzero.ge]
        rfl
    | some a =>
        rw [hheard] at hlast
        obtain ⟨hpos, hle⟩ := htimes a (List.mem_of_getLast? hheard)
        have hne : ¬ node.lastT ≤ 0.0 := by
          rw [hlast, hzero]
          exact not_le.mpr hpos
        rw [ageOf, if_neg hne, hlast, hzero]
        exact congrArg some (max_eq_right (sub_nonneg.mpr hle))
  refine ⟨h.rxCount, hage, ?_, ?_, ?_⟩
  · show presenceOf node.timeoutS ((ageOf now node.lastT).map (max 0.0)) = _
    rw [hage, h.timeoutS]
    cases heard.getLast? <;> rfl
  · show Dashboard.heartbeatHz (node.prune now).timestamps = _
    rw [hkept]
  · have hdata := congrArg Prod.snd h.last
    simp only at hdata
    show hexData node.lastData = _
    rw [hdata]
    cases heard.getLast? <;> rfl

variable [FloorRing K]

/-- **The nodes on the page.** Of the rows with an id, the first shows exactly the frames that were heard
under the id: how many, when the last one came and what it was, whether that is longer ago than
`node_timeout_s`, and the rate of those in the last `heartbeat_window_s`. Any other row with the id shows a
sender that was never heard. An id without a row was never heard. -/
theorem node_rows_exact (sqrt : K → K) (config : MonitorConfig K) (past : List (MonitorEvent K)) (now : K)
    (hclock : ClockUpTo past now) (hpositive : ∀ event ∈ past, 0 < event.time) (canId : ℤ) :
    match ((final (monitorStep sqrt config) (.start config) past).snapshot config now).2.nodes.filter
      fun row => row.canId = hexId canId with
    | [] => arrivals canId past = []
    | row :: rest => row.Shows config (arrivals canId past) now ∧
        ∀ other ∈ rest, other.Shows config [] now := by
  have hfollow := @nodesFollow_final K _ _ config past now _ _ sqrt hclock
  generalize final (monitorStep sqrt config) (.start config) past = m at hfollow ⊢
  have hrows : (m.snapshot config now).2.nodes.filter (fun row => row.canId = hexId canId) =
      (nodesOf canId m.state.nodes).map fun node => (node.prune now).row now := by
    have hrow : ((fun row : NodeRow K => decide (row.canId = hexId canId)) ∘ fun node => node.row now) =
        fun node : NodeState K => decide (node.canId = canId) := by
      funext node
      exact decide_eq_decide.mpr hexId_injective.eq_iff
    show List.filter _ (List.map _ (List.mergeSort _ _)) = _
    rw [List.filter_map, hrow, filter_mergeSort]
    · show List.map _ (List.filter _ (m.state.nodes.mapValues _).values) = _
      rw [Dict.values_mapValues, List.filter_map, List.map_map]
      rfl
    · intro a b c hab hbc
      exact decide_eq_true ((of_decide_eq_true hab).trans (of_decide_eq_true hbc))
    · intro a b
      rw [Bool.or_eq_true, decide_eq_true_eq, decide_eq_true_eq]
      exact le_total a.canId b.canId
    · intro a b ha hb
      rw [decide_eq_true_eq] at ha hb ⊢
      rw [ha, hb]
  have htimes : ∀ a ∈ arrivals canId past, 0 < a.1 ∧ a.1 ≤ now := by
    intro a ha
    obtain ⟨event, hevent, harrival⟩ := List.mem_filterMap.mp ha
    rw [time_of_arrival harrival]
    exact ⟨hpositive event hevent, hclock.le hevent⟩
  have hfirst := hfollow.rows canId
  rw [hrows]
  cases hlist : nodesOf canId m.state.nodes with
  | nil =>
      rw [hlist] at hfirst
      exact hfirst
  | cons node rest =>
      rw [hlist] at hfirst
      refine ⟨hfirst.1.row (sorted_arrivals hclock canId) htimes, fun other hother => ?_⟩
      obtain ⟨node', hnode', rfl⟩ := List.mem_map.mp hother
      exact (hfirst.2 node' hnode').row List.Pairwise.nil fun a ha => (List.not_mem_nil ha).elim

end Rows

end Nodes

/-- The motor was heard three times, twice in the last second and last 0.15 s ago. -/
theorem node_rows_exact_two :
    ∃ row ∈ ((final (monitorStep id twoChannelMonitor) (.start twoChannelMonitor) twoChannelPast).snapshot
        twoChannelMonitor (12 / 5)).2.nodes,
      row.canId = "0x101" ∧ row.rxCount = 3 ∧ row.status = .online ∧ row.heartbeatHz = 4 := by
  have hclock : ClockUpTo twoChannelPast (12 / 5) := by
    unfold ClockUpTo
    decide +kernel
  have hrows := node_rows_exact id twoChannelMonitor twoChannelPast (12 / 5) hclock (by decide +kernel) 0x101
  split at hrows
  · cases hrows
  · rename_i row rest hlist
    have hrow : row ∈ row :: rest := List.mem_cons_self
    rw [← hlist] at hrow
    obtain ⟨hmem, hid⟩ := List.mem_filter.mp hrow
    obtain ⟨hcount, -, hstatus, hrate, -⟩ := hrows.1
    refine ⟨row, hmem, (of_decide_eq_true hid).trans (by decide), hcount, ?_, ?_⟩
    · rw [hstatus]
      decide +kernel
    · rw [hrate]
      decide +kernel

end SparqControl.Dashboard
