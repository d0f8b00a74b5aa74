/-
# SparqControl.Link.TwoEncoders — the dashboard's MIT encoder against the protocol's.

The dashboard packs the MIT hold with its own copy of `pack_mit_payload`. The copy has the same five
ranges, the same checks and the same byte layout; it differs in ONE word, `round` for
`round_half_away_from_zero`, so a value that lies halfway between an even code and the next one gets
the even code from the dashboard and the next one from the protocol.

`encoders_agree_iff` is the exact account: both encoders reject the same inputs, and on what they
accept they agree unless some field lies on such a tie. The commanded zeros of the symmetric ranges
are ties too, but above an ODD code, and there both round up.
-/
import SparqControl.Dashboard.CommandService
import SparqControl.Link.MitCodec

namespace SparqControl.Link

open SparqControl.Hal SparqControl.Hw
open SparqControl.Hw.SPGActuatorProtocol
open SparqControl.Lib.Quantize

/-! ## One field -/

/-- One field of a command: its value and the range and width it is encoded with. -/
structure MitField (K : Type) where
  value : PyFloat K
  lo : K
  hi : K
  bits : ℕ

namespace MitField

variable {K : Type} [Field K] [LinearOrder K]

/-- The value is a number of the range. -/
def InRange (f : MitField K) : Prop := ∃ y, f.value = .fin y ∧ f.lo ≤ y ∧ y ≤ f.hi

/-- The value lies halfway between an even code of the field and the next one. -/
def OnEvenTie (f : MitField K) : Prop :=
  ∃ k : ℤ, f.value = .fin (f.lo + (2.0 * k + 0.5) * (f.hi - f.lo) / (2.0 ^ f.bits - 1))

end MitField

/-- The five fields of an MIT command, in the order of the payload. -/
def mitFields {K : Type} [Field K] (cfg : Hw.SPGMITConfig K) (p v kp kd t : PyFloat K) :
    List (MitField K) :=
  [⟨p, -cfg.pMax, cfg.pMax, 16⟩, ⟨v, -cfg.vMax, cfg.vMax, 12⟩, ⟨kp, 0, cfg.kpMax, 12⟩,
    ⟨kd, 0, cfg.kdMax, 8⟩, ⟨t, -cfg.tauMax, cfg.tauMax, 8⟩]

section Field

variable {K : Type} [Field K] [LinearOrder K]

/-- The two range checks let the same values through; only their messages differ. -/
theorem dashboard_requireRange_eq_ok_iff {x : PyFloat K} {lo hi : K} {field : String} {r : Unit} :
    Dashboard.requireRange x lo hi field = .ok r ↔
      x = .nan ∨ ∃ y, x = .fin y ∧ lo ≤ y ∧ y ≤ hi := by
  rw [← @requireRange_eq_ok_iff K _ _ x lo hi field r]
  unfold Dashboard.requireRange requireRange
  split <;> simp

variable [IsStrictOrderedRing K] [FloorRing K]

/-- The dashboard's `float_to_uint` on a non-empty range: the protocol's, with ties to even. -/
theorem dashboard_floatToUint_eq_ok_iff {x : PyFloat K} {lo hi : K} {bits : ℕ} {u : ℤ} (h : lo < hi)
    (hb : 0 < bits) :
    Dashboard.floatToUint x lo hi bits = .ok u ↔
      ∃ y, x = .fin y ∧ lo ≤ y ∧ y ≤ hi ∧
        u = roundHalfEven ((fieldGrid lo hi bits h hb).position y) := by
  have hspan : hi - lo ≠ 0 := (sub_pos.mpr h).ne'
  unfold Dashboard.floatToUint
  rw [bind_eq_ok_iff]
  simp only [dashboard_requireRange_eq_ok_iff]
  constructor
  · rintro ⟨-, rfl | ⟨y, rfl, hlo, hhi⟩, hu⟩
    · -- NaN passes the range check and is stopped by the conversion to an integer
      simp [PyFloat.subFin, PyFloat.mulFin, PyFloat.divFin, hspan, bind, Except.bind,
        PyFloat.pyRound] at hu
    · simp only [PyFloat.subFin, PyFloat.mulFin, PyFloat.divFin, hspan, bind, Except.bind, if_false,
        PyFloat.pyRound, Except.ok.injEq] at hu
      exact ⟨y, rfl, hlo, hhi, hu.symm⟩
  · rintro ⟨y, rfl, hlo, hhi, rfl⟩
    refine ⟨(), Or.inr ⟨y, rfl, hlo, hhi⟩, ?_⟩
    simp only [PyFloat.subFin, PyFloat.mulFin, PyFloat.divFin, hspan, bind, Except.bind, if_false,
      PyFloat.pyRound]
    rfl

omit [FloorRing K] in
theorem onEvenTie_iff {f : MitField K} :
    f.OnEvenTie ↔
      ∃ k : ℤ, f.value = .fin (f.lo + (2 * k + 1 / 2) * (f.hi - f.lo) / (2 ^ f.bits - 1)) := by
  have htwo : (2.0 : K) = 2 := by norm_num
  have hhalf : (0.5 : K) = 1 / 2 := by norm_num
  simp only [MitField.OnEvenTie, htwo, hhalf]

omit [FloorRing K] in
/-- A value is on an even tie exactly when its position on the grid is an even integer and a half. -/
theorem position_eq_iff {lo hi y : K} {bits : ℕ} (h : lo < hi) (hb : 0 < bits) (k : ℤ) :
    (fieldGrid lo hi bits h hb).position y = 2 * k + 1 / 2 ↔
      y = lo + (2 * k + 1 / 2) * (hi - lo) / (2 ^ bits - 1) := by
  have hspan : hi - lo ≠ 0 := (sub_pos.mpr h).ne'
  have hlev : (((fieldGrid lo hi bits h hb).levels : ℕ) : K) = 2 ^ bits - 1 := by
    rw [fieldGrid_levels, Nat.cast_sub Nat.one_le_two_pow]
    push_cast
    rfl
  have hlev0 : (2 ^ bits - 1 : K) ≠ 0 := hlev ▸ (fieldGrid lo hi bits h hb).levels_cast_pos.ne'
  rw [Grid.position, hlev]
  show (y - lo) * (2 ^ bits - 1) / (hi - lo) = _ ↔ _
  rw [div_eq_iff hspan, ← sub_eq_iff_eq_add', eq_div_iff hlev0]

/-- **One field, both encoders**: a value of the range gets a code from each, and the codes are equal
unless the value is on an even tie. -/
theorem codes_of_inRange {f : MitField K} (h : f.lo < f.hi) (hb : 0 < f.bits) (hf : f.InRange) :
    ∃ m n : ℕ, Dashboard.floatToUint f.value f.lo f.hi f.bits = .ok m ∧
      Hw.floatToUint f.value f.lo f.hi f.bits = .ok n ∧ m < 2 ^ f.bits ∧ n < 2 ^ f.bits ∧
      (m = n ↔ ¬ f.OnEvenTie) := by
  obtain ⟨y, hy, hlo, hhi⟩ := hf
  set g := fieldGrid f.lo f.hi f.bits h hb with hg
  have hpos : 0 ≤ g.position y := g.position_nonneg hlo
  have htop : g.position y ≤ ((g.levels : ℤ) : K) := by
    rw [Int.cast_natCast]
    exact g.position_le (hhi.trans_eq (fieldGrid_top h hb).symm)
  obtain ⟨n, hn, hnlt⟩ := fieldGrid_encode_lt h hb hlo hhi
  obtain ⟨hm0, hmle⟩ := roundHalfEven_mem hpos htop
  obtain ⟨m, hm⟩ := Int.eq_ofNat_of_zero_le hm0
  have hmlt : m < 2 ^ f.bits := by
    rw [hm, hg, fieldGrid_levels] at hmle
    have := Nat.one_le_two_pow (n := f.bits)
    omega
  refine ⟨m, n, (dashboard_floatToUint_eq_ok_iff h hb).mpr ⟨y, hy, hlo, hhi, hm.symm⟩,
    (floatToUint_eq_ok_iff h hb).mpr ⟨y, hy, hlo, hhi, hn.symm⟩, hmlt, hnlt, ?_⟩
  have hcodes : m = n ↔ roundHalfEven (g.position y) = roundHalfAway (g.position y) := by
    rw [hm, ← Grid.encode, hn, Int.ofNat_inj]
  rw [hcodes, roundHalfEven_eq_roundHalfAway_iff hpos]
  simp only [onEvenTie_iff, hy, PyFloat.fin.injEq, hg, position_eq_iff]

/-- What either encoder gives a code, the other one does too: the numbers of the range. -/
theorem inRange_of_floatToUint {f : MitField K} {u : ℤ} (h : f.lo < f.hi) (hb : 0 < f.bits)
    (hu : Dashboard.floatToUint f.value f.lo f.hi f.bits = .ok u ∨
      Hw.floatToUint f.value f.lo f.hi f.bits = .ok u) : f.InRange := by
  rcases hu with hu | hu
  · obtain ⟨y, hy, hlo, hhi, -⟩ := (dashboard_floatToUint_eq_ok_iff h hb).mp hu
    exact ⟨y, hy, hlo, hhi⟩
  · obtain ⟨y, hy, hlo, hhi, -⟩ := (floatToUint_eq_ok_iff h hb).mp hu
    exact ⟨y, hy, hlo, hhi⟩

end Field

/-! ## The whole payload -/

/-- Codes that fit their fields can be read off the eight bytes. -/
theorem mitControlBytes_inj {p v kp kd t p' v' kp' kd' t' : ℕ} (hp : p < 2 ^ 16) (hv : v < 2 ^ 12)
    (hkp : kp < 2 ^ 12) (hkd : kd < 2 ^ 8) (ht : t < 2 ^ 8) (hp' : p' < 2 ^ 16) (hv' : v' < 2 ^ 12)
    (hkp' : kp' < 2 ^ 12) (hkd' : kd' < 2 ^ 8) (ht' : t' < 2 ^ 8) :
    mitControlBytes p v kp kd t = mitControlBytes p' v' kp' kd' t' ↔
      p = p' ∧ v = v' ∧ kp = kp' ∧ kd = kd' ∧ t = t' := by
  constructor
  · intro heq
    obtain ⟨h1, h2, h3, h4, h5⟩ := mitCodes_mitControlBytes hp hv hkp hkd ht rfl
    obtain ⟨h1', h2', h3', h4', h5'⟩ := mitCodes_mitControlBytes hp' hv' hkp' hkd' ht' rfl
    rw [heq] at h1 h2 h3 h4 h5
    exact ⟨h1.symm.trans h1', h2.symm.trans h2', h3.symm.trans h3', h4.symm.trans h4',
      h5.symm.trans h5'⟩
  · rintro ⟨rfl, rfl, rfl, rfl, rfl⟩
    rfl

/-- The five ranges are positive. -/
structure PositiveRanges {K : Type} [Field K] [LinearOrder K] (cfg : Hw.SPGMITConfig K) : Prop where
  p_pos : 0 < cfg.pMax
  v_pos : 0 < cfg.vMax
  kp_pos : 0 < cfg.kpMax
  kd_pos : 0 < cfg.kdMax
  tau_pos : 0 < cfg.tauMax

/-- Two encoders agree on an input: one rejects it exactly when the other one does, and what both
accept they turn into the same bytes. -/
def EncodersAgree (dashboard host : Except PyError (List UInt8)) : Prop :=
  ((∃ e, dashboard = .error e) ↔ ∃ e, host = .error e) ∧
    ∀ a b, dashboard = .ok a → host = .ok b → a = b

section Payload

variable {K : Type} [Field K] [LinearOrder K] [IsStrictOrderedRing K] [FloorRing K]
variable {cfg : Hw.SPGMITConfig K} {p v kp kd t : PyFloat K}

/-- What the dashboard's `pack_mit_payload` accepts and returns, field by field. -/
theorem dashboard_packMitPayload_eq_ok_iff {pMax vMax kpMax kdMax tauMax : K} {payload : List UInt8}
    (hp0 : -pMax < pMax) (hv0 : -vMax < vMax) (hkp0 : 0 < kpMax) (hkd0 : 0 < kdMax)
    (ht0 : -tauMax < tauMax) :
    Dashboard.packMitPayload p v kp kd t pMax vMax kpMax kdMax tauMax = .ok payload ↔
      ∃ pU vU kpU kdU tU,
        Dashboard.floatToUint p (-pMax) pMax 16 = .ok pU ∧
        Dashboard.floatToUint v (-vMax) vMax 12 = .ok vU ∧
        Dashboard.floatToUint kp 0 kpMax 12 = .ok kpU ∧
        Dashboard.floatToUint kd 0 kdMax 8 = .ok kdU ∧
        Dashboard.floatToUint t (-tauMax) tauMax 8 = .ok tU ∧
        payload = mitControlBytes pU vU kpU kdU tU := by
  have hcheck : ∀ {x : PyFloat K} {lo hi : K} {bits : ℕ} {u : ℤ} (field : String), lo < hi →
      0 < bits → Dashboard.floatToUint x lo hi bits = .ok u →
        Dashboard.requireRange x lo hi field = .ok () := by
    intro x lo hi bits u field h hb hu
    obtain ⟨y, rfl, hlo, hhi, -⟩ := (dashboard_floatToUint_eq_ok_iff h hb).mp hu
    exact dashboard_requireRange_eq_ok_iff.mpr (Or.inr ⟨y, rfl, hlo, hhi⟩)
  unfold Dashboard.packMitPayload
  simp only [bind_eq_ok_iff]
  constructor
  · rintro ⟨-, -, -, -, -, -, -, -, -, -, pU, hp, vU, hv, kpU, hkp, kdU, hkd, tU, ht, hout⟩
    exact ⟨pU, vU, kpU, kdU, tU, hp, hv, hkp, hkd, ht, (Except.ok.inj hout).symm⟩
  · rintro ⟨pU, vU, kpU, kdU, tU, hp, hv, hkp, hkd, ht, rfl⟩
    exact ⟨(), hcheck _ hp0 (by norm_num) hp, (), hcheck _ hv0 (by norm_num) hv,
      (), hcheck _ hkp0 (by norm_num) hkp, (), hcheck _ hkd0 (by norm_num) hkd,
      (), hcheck _ ht0 (by norm_num) ht, pU, hp, vU, hv, kpU, hkp, kdU, hkd, tU, ht, rfl⟩

/-- **On an accepted command** both encoders return bytes, and the bytes are the same exactly when no
field is on an even tie. -/
theorem payloads_of_inRange (hcfg : PositiveRanges cfg)
    (hrange : ∀ f ∈ mitFields cfg p v kp kd t, f.InRange) :
    ∃ a b, Dashboard.packMitPayload p v kp kd t cfg.pMax cfg.vMax cfg.kpMax cfg.kdMax cfg.tauMax =
        .ok a ∧ packMitPayload cfg p v kp kd t = .ok b ∧
      (a = b ↔ ∀ f ∈ mitFields cfg p v kp kd t, ¬ f.OnEvenTie) := by
  have hp0 := neg_lt_self hcfg.p_pos
  have hv0 := neg_lt_self hcfg.v_pos
  have ht0 := neg_lt_self hcfg.tau_pos
  simp only [mitFields, List.forall_mem_cons, List.not_mem_nil, false_implies, implies_true,
    and_true] at hrange ⊢
  obtain ⟨rp, rv, rkp, rkd, rt⟩ := hrange
  obtain ⟨mp, np, dp, hp, lmp, lnp, tp⟩ := codes_of_inRange hp0 (by norm_num) rp
  obtain ⟨mv, nv, dv, hv, lmv, lnv, tv⟩ := codes_of_inRange hv0 (by norm_num) rv
  obtain ⟨mkp, nkp, dkp, hkp, lmkp, lnkp, tkp⟩ := codes_of_inRange hcfg.kp_pos (by norm_num) rkp
  obtain ⟨mkd, nkd, dkd, hkd, lmkd, lnkd, tkd⟩ := codes_of_inRange hcfg.kd_pos (by norm_num) rkd
  obtain ⟨mt, nt, dt, ht, lmt, lnt, tt⟩ := codes_of_inRange ht0 (by norm_num) rt
  refine ⟨mitControlBytes mp mv mkp mkd mt, mitControlBytes np nv nkp nkd nt,
    (dashboard_packMitPayload_eq_ok_iff hp0 hv0 hcfg.kp_pos hcfg.kd_pos ht0).mpr
      ⟨mp, mv, mkp, mkd, mt, dp, dv, dkp, dkd, dt, rfl⟩,
    packMitPayload_eq_ok_iff.mpr ⟨np, nv, nkp, nkd, nt, hp, hv, hkp, hkd, ht, rfl⟩, ?_⟩
  rw [mitControlBytes_inj lmp lmv lmkp lmkd lmt lnp lnv lnkp lnkd lnt, tp, tv, tkp, tkd, tt]

/-- What either encoder accepts has every field in its range. -/
theorem inRange_of_packMitPayload (hcfg : PositiveRanges cfg) {payload : List UInt8}
    (h : Dashboard.packMitPayload p v kp kd t cfg.pMax cfg.vMax cfg.kpMax cfg.kdMax cfg.tauMax =
        .ok payload ∨ packMitPayload cfg p v kp kd t = .ok payload) :
    ∀ f ∈ mitFields cfg p v kp kd t, f.InRange := by
  have hp0 := neg_lt_self hcfg.p_pos
  have hv0 := neg_lt_self hcfg.v_pos
  have ht0 := neg_lt_self hcfg.tau_pos
  rw [dashboard_packMitPayload_eq_ok_iff hp0 hv0 hcfg.kp_pos hcfg.kd_pos ht0,
    packMitPayload_eq_ok_iff] at h
  simp only [mitFields, List.forall_mem_cons, List.not_mem_nil, false_implies, implies_true,
    and_true]
  rcases h with ⟨pU, vU, kpU, kdU, tU, hp, hv, hkp, hkd, ht, -⟩ |
    ⟨pU, vU, kpU, kdU, tU, hp, hv, hkp, hkd, ht, -⟩
  · exact ⟨inRange_of_floatToUint hp0 (by norm_num) (Or.inl hp),
      inRange_of_floatToUint hv0 (by norm_num) (Or.inl hv),
      inRange_of_floatToUint hcfg.kp_pos (by norm_num) (Or.inl hkp),
      inRange_of_floatToUint hcfg.kd_pos (by norm_num) (Or.inl hkd),
      inRange_of_floatToUint ht0 (by norm_num) (Or.inl ht)⟩
  · exact ⟨inRange_of_floatToUint hp0 (by norm_num) (Or.inr hp),
      inRange_of_floatToUint hv0 (by norm_num) (Or.inr hv),
      inRange_of_floatToUint hcfg.kp_pos (by norm_num) (Or.inr hkp),
      inRange_of_floatToUint hcfg.kd_pos (by norm_num) (Or.inr hkd),
      inRange_of_floatToUint ht0 (by norm_num) (Or.inr ht)⟩

theorem error_iff_not_ok {ε α : Type} (x : Except ε α) :
    (∃ e, x = .error e) ↔ ¬ ∃ a, x = .ok a := by
  cases x <;> simp

/-- **The two encoders.** Over positive ranges they reject the same inputs, whatever they are, and
they agree on an input exactly when, if its five fields are numbers of their ranges, none of them
lies halfway between an even code and the next one. -/
theorem encoders_agree_iff (hcfg : PositiveRanges cfg) (p v kp kd t : PyFloat K) :
    ((∃ e, Dashboard.packMitPayload p v kp kd t cfg.pMax cfg.vMax cfg.kpMax cfg.kdMax cfg.tauMax =
        .error e) ↔ ∃ e, packMitPayload cfg p v kp kd t = .error e) ∧
    (EncodersAgree
        (Dashboard.packMitPayload p v kp kd t cfg.pMax cfg.vMax cfg.kpMax cfg.kdMax cfg.tauMax)
        (packMitPayload cfg p v kp kd t) ↔
      ((∀ f ∈ mitFields cfg p v kp kd t, f.InRange) →
        ∀ f ∈ mitFields cfg p v kp kd t, ¬ f.OnEvenTie)) := by
  by_cases hrange : ∀ f ∈ mitFields cfg p v kp kd t, f.InRange
  · obtain ⟨a, b, hdash, hhost, hsame⟩ := payloads_of_inRange hcfg hrange
    have hreject : ∀ {x : Except PyError (List UInt8)} {c : List UInt8}, x = .ok c →
        ¬ ∃ e, x = .error e := by
      rintro x c rfl ⟨e, he⟩
      cases he
    refine ⟨iff_of_false (hreject hdash) (hreject hhost), ?_⟩
    constructor
    · intro hagree _
      exact hsame.mp (hagree.2 a b hdash hhost)
    · intro htie
      refine ⟨iff_of_false (hreject hdash) (hreject hhost), fun a' b' ha' hb' => ?_⟩
      obtain rfl : a = a' := Except.ok.inj (hdash.symm.trans ha')
      obtain rfl : b = b' := Except.ok.inj (hhost.symm.trans hb')
      exact hsame.mpr (htie hrange)
  · -- an input with a field outside its range is rejected by both
    have hdash := (error_iff_not_ok _).mpr fun ⟨a, ha⟩ =>
      hrange (inRange_of_packMitPayload hcfg (Or.inl ha))
    have hhost := (error_iff_not_ok _).mpr fun ⟨a, ha⟩ =>
      hrange (inRange_of_packMitPayload hcfg (Or.inr ha))
    refine ⟨iff_of_true hdash hhost, iff_of_true ⟨iff_of_true hdash hhost, ?_⟩ fun h => absurd h hrange⟩
    intro a b ha hb
    exact absurd (inRange_of_packMitPayload hcfg (Or.inl ha)) hrange

end Payload

/-- A hold at zero over the default ranges: the three commanded zeros are ties above odd codes, and the
encoders agree. -/
theorem encoders_agree_hold_at_zero :
    EncodersAgree
      (Dashboard.packMitPayload (.fin (0 : ℚ)) (.fin 0) (.fin 20) (.fin 1) (.fin 0) 12.5 45.0 500.0
        5.0 33.0)
      (packMitPayload ({} : Hw.SPGMITConfig ℚ) (.fin 0) (.fin 0) (.fin 20) (.fin 1) (.fin 0)) := by
  have hcfg : PositiveRanges ({} : Hw.SPGMITConfig ℚ) :=
    ⟨by norm_num, by norm_num, by norm_num, by norm_num, by norm_num⟩
  refine (encoders_agree_iff hcfg _ _ _ _ _).2.mpr fun _ f hf => ?_
  simp only [mitFields, List.mem_cons, List.not_mem_nil, or_false] at hf
  rw [onEvenTie_iff]
  rcases hf with rfl | rfl | rfl | rfl | rfl <;> rintro ⟨k, hk⟩ <;>
    simp only [PyFloat.fin.injEq] at hk <;> field_simp at hk <;> norm_num at hk <;>
    norm_cast at hk <;> omega

/-- A feed-forward torque of minus 22 Nm is code 42.5 of the default range: the dashboard sends 42, the
protocol 43. -/
theorem encoders_differ_minus_22_nm :
    ¬ EncodersAgree
      (Dashboard.packMitPayload (.fin (0 : ℚ)) (.fin 0) (.fin 0) (.fin 0) (.fin (-22)) 12.5 45.0 500.0
        5.0 33.0)
      (packMitPayload ({} : Hw.SPGMITConfig ℚ) (.fin 0) (.fin 0) (.fin 0) (.fin 0) (.fin (-22))) := by
  have hdash : Dashboard.packMitPayload (.fin (0 : ℚ)) (.fin 0) (.fin 0) (.fin 0) (.fin (-22)) 12.5 45.0
      500.0 5.0 33.0 = .ok [0xC0, 0x80, 0x00, 0x80, 0x00, 0x00, 0x00, 42] := by decide +kernel
  have hhost : packMitPayload ({} : Hw.SPGMITConfig ℚ) (.fin 0) (.fin 0) (.fin 0) (.fin 0)
      (.fin (-22)) = .ok [0xC0, 0x80, 0x00, 0x80, 0x00, 0x00, 0x00, 43] := by decide +kernel
  rintro ⟨-, hsame⟩
  exact absurd (hsame _ _ hdash hhost) (by decide)

end SparqControl.Link
