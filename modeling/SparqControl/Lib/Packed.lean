/-
# SparqControl.Lib.Packed — fixed-width little-endian layouts, packed without padding.

A `Layout α` says how a value of `α` lies in memory: its width in bytes, how it is written and how
it is read back, with the two laws a C structure has by construction. The read law is stated with
TRAILING BYTES, `ofBytes (toBytes a ++ rest) = a`, which is what makes layouts compose: a field is
read at its offset without knowing what follows it.

Built from it: unsigned words of any byte width (`word`), the machine integers, pairs (`pair`),
arrays of a fixed length (`array`) and a change of representation (`iso`), which turns a nested pair
into a structure. Words put together by shifts, as a protocol that is not little-endian does it, are
sums of their parts (`shiftLeft_or`, `toNat_word16`); a mask of flags is read bit by bit
(`testBit_foldl_flags`).
-/
import Mathlib.Data.List.Basic
import Mathlib.Tactic.NormNum
import Mathlib.Tactic.Ring

namespace SparqControl.Lib.Packed

/-! ## Little-endian words -/

/-- The `w` low bytes of `n`, least significant first. -/
def leBytes : ℕ → ℕ → List UInt8
  | 0, _ => []
  | w + 1, n => UInt8.ofNat n :: leBytes w (n / 256)

/-- The number whose `w` little-endian bytes stand at the head of the list; missing bytes read as
zero. -/
def leNat : ℕ → List UInt8 → ℕ
  | 0, _ => 0
  | _ + 1, [] => 0
  | w + 1, b :: bs => b.toNat + 256 * leNat w bs

@[simp] theorem length_leBytes (w n : ℕ) : (leBytes w n).length = w := by
  induction w generalizing n with
  | zero => rfl
  | succ w ih => simp [leBytes, ih]

theorem leNat_leBytes_append (w n : ℕ) (rest : List UInt8) :
    leNat w (leBytes w n ++ rest) = n % 256 ^ w := by
  induction w generalizing n with
  | zero => simp [leNat, Nat.mod_one]
  | succ w ih =>
      have hb : (UInt8.ofNat n).toNat = n % 256 := UInt8.toNat_ofNat'
      simp only [leBytes, List.cons_append, leNat, ih, hb]
      rw [pow_succ', Nat.mod_mul]

/-! ## Fields side by side -/

/-- `(hi << k) | lo` is a sum when the low part fits below the shift. -/
theorem shiftLeft_or (hi k : ℕ) {lo : ℕ} (hlo : lo < 2 ^ k) : hi <<< k ||| lo = hi * 2 ^ k + lo := by
  rw [← Nat.shiftLeft_add_eq_or_of_lt hlo, Nat.shiftLeft_eq]

/-- Two bytes, the more significant one first. -/
theorem toNat_word16 (a b : UInt8) :
    ((a.toUInt16 <<< 8) ||| b.toUInt16).toNat = a.toNat * 256 + b.toNat := by
  have ha := a.toNat_lt
  have hb := b.toNat_lt
  have h8 : (8 : UInt16).toNat % 16 = 8 := rfl
  rw [UInt16.toNat_or, UInt16.toNat_shiftLeft, UInt8.toNat_toUInt16, UInt8.toNat_toUInt16, h8,
    Nat.mod_eq_of_lt (by rw [Nat.shiftLeft_eq]; omega)]
  exact shiftLeft_or _ 8 hb

/-- A mask put together flag by flag has the bit of every flag that is set, and no other bit. -/
theorem testBit_foldl_flags {α : Type*} (flag : α → Bool) (l : List α) (start mask i : ℕ) :
    ((l.zipIdx start).foldl (fun m x => if flag x.1 then m ||| 1 <<< x.2 else m) mask).testBit i =
      (mask.testBit i || (decide (start ≤ i) && (l[i - start]?.map flag).getD false)) := by
  induction l generalizing start mask with
  | nil => simp
  | cons a l ih =>
      rw [List.zipIdx_cons, List.foldl_cons, ih]
      rcases Nat.lt_trichotomy i start with hlt | rfl | hgt
      · have hbit : (1 <<< start).testBit i = false := by
          rw [Nat.one_shiftLeft, Nat.testBit_two_pow]
          exact decide_eq_false (by omega)
        have hle : ¬ start ≤ i := by omega
        have hle' : ¬ start + 1 ≤ i := by omega
        cases flag a <;> simp [hbit, hle, hle', Nat.testBit_or]
      · have hbit : (1 <<< i).testBit i = true := by
          rw [Nat.one_shiftLeft, Nat.testBit_two_pow]
          exact decide_eq_true rfl
        cases hflag : flag a <;> simp [hbit, hflag, Nat.testBit_or]
      · have hbit : (1 <<< start).testBit i = false := by
          rw [Nat.one_shiftLeft, Nat.testBit_two_pow]
          exact decide_eq_false (by omega)
        obtain ⟨k, rfl⟩ : ∃ k, i = start + 1 + k := ⟨i - (start + 1), by omega⟩
        have hle : start ≤ start + 1 + k := by omega
        have hindex : start + 1 + k - start = k + 1 := by omega
        cases flag a <;> simp [hbit, hle, hindex, Nat.testBit_or]

/-! ## Layouts -/

/-- A fixed-width memory layout for `α`. -/
structure Layout (α : Type*) where
  width : ℕ
  toBytes : α → List UInt8
  ofBytes : List UInt8 → α
  length_toBytes : ∀ a, (toBytes a).length = width
  ofBytes_toBytes_append : ∀ a rest, ofBytes (toBytes a ++ rest) = a

namespace Layout

variable {α β : Type*}

attribute [simp] Layout.length_toBytes Layout.ofBytes_toBytes_append

/-- An unsigned `w`-byte word, through any type that holds exactly the numbers below `256 ^ w`. -/
def word (w : ℕ) (toNat : α → ℕ) (ofNat : ℕ → α) (hlt : ∀ a, toNat a < 256 ^ w)
    (hof : ∀ a, ofNat (toNat a) = a) : Layout α where
  width := w
  toBytes a := leBytes w (toNat a)
  ofBytes bs := ofNat (leNat w bs)
  length_toBytes _ := length_leBytes _ _
  ofBytes_toBytes_append a rest := by
    rw [leNat_leBytes_append, Nat.mod_eq_of_lt (hlt a), hof]

/-- `c_uint8`. -/
def uint8 : Layout UInt8 :=
  word 1 UInt8.toNat UInt8.ofNat (fun a => lt_of_lt_of_eq a.toNat_lt (by norm_num))
    fun _ => UInt8.ofNat_toNat

/-- `c_uint16`. -/
def uint16 : Layout UInt16 :=
  word 2 UInt16.toNat UInt16.ofNat (fun a => lt_of_lt_of_eq a.toNat_lt (by norm_num))
    fun _ => UInt16.ofNat_toNat

/-- `c_uint32`. -/
def uint32 : Layout UInt32 :=
  word 4 UInt32.toNat UInt32.ofNat (fun a => lt_of_lt_of_eq a.toNat_lt (by norm_num))
    fun _ => UInt32.ofNat_toNat

/-- `c_uint64`. -/
def uint64 : Layout UInt64 :=
  word 8 UInt64.toNat UInt64.ofNat (fun a => lt_of_lt_of_eq a.toNat_lt (by norm_num))
    fun _ => UInt64.ofNat_toNat

/-- The same bytes under another type. -/
def iso (l : Layout α) (f : α → β) (g : β → α) (h : ∀ b, f (g b) = b) : Layout β where
  width := l.width
  toBytes b := l.toBytes (g b)
  ofBytes bs := f (l.ofBytes bs)
  length_toBytes b := l.length_toBytes (g b)
  ofBytes_toBytes_append b rest := by rw [l.ofBytes_toBytes_append, h]

/-- `c_int16`: the two's-complement reading of the same two bytes. -/
def int16 : Layout Int16 := uint16.iso UInt16.toInt16 Int16.toUInt16 fun _ => rfl

/-- Two bytes read as zero exactly when they are zero. -/
theorem toInt_int16_ofBytes_eq_zero_iff (b0 b1 : UInt8) (rest : List UInt8) :
    (int16.ofBytes (b0 :: b1 :: rest)).toInt = 0 ↔ b0 = 0 ∧ b1 = 0 := by
  have hword : int16.ofBytes (b0 :: b1 :: rest) =
      (UInt16.ofNat (b0.toNat + 256 * b1.toNat)).toInt16 := rfl
  have h0 := b0.toNat_lt
  have h1 := b1.toNat_lt
  rw [hword, ← Int16.toInt_zero, Int16.toInt_inj]
  constructor
  · intro hzero
    have hnat : (UInt16.ofNat (b0.toNat + 256 * b1.toNat)).toNat = 0 :=
      congrArg (fun x : Int16 => x.toUInt16.toNat) hzero
    rw [UInt16.toNat_ofNat'] at hnat
    constructor
    · apply UInt8.toNat_inj.mp
      show b0.toNat = 0
      omega
    · apply UInt8.toNat_inj.mp
      show b1.toNat = 0
      omega
  · rintro ⟨rfl, rfl⟩
    rfl

/-- Two fields in a row. -/
def pair (l : Layout α) (m : Layout β) : Layout (α × β) where
  width := l.width + m.width
  toBytes p := l.toBytes p.1 ++ m.toBytes p.2
  ofBytes bs := (l.ofBytes bs, m.ofBytes (bs.drop l.width))
  length_toBytes p := by simp
  ofBytes_toBytes_append p rest := by
    obtain ⟨a, b⟩ := p
    have hdrop : (l.toBytes a ++ (m.toBytes b ++ rest)).drop l.width = m.toBytes b ++ rest :=
      List.drop_left' (l.length_toBytes a)
    rw [List.append_assoc, l.ofBytes_toBytes_append, hdrop, m.ofBytes_toBytes_append]

/-- Reading the `i`-th of several equal-width records laid out in a row. -/
theorem ofBytes_drop_flatMap (l : Layout α) (rest : List UInt8) (xs : List α) (i : ℕ)
    (hi : i < xs.length) :
    l.ofBytes ((xs.flatMap l.toBytes ++ rest).drop (i * l.width)) = xs[i] := by
  -- each record is skipped as a whole
  induction xs generalizing i with
  | nil => simp at hi
  | cons x xs ih =>
      rw [List.flatMap_cons, List.append_assoc]
      cases i with
      | zero => simp
      | succ i =>
          have hdrop : (l.toBytes x ++ (xs.flatMap l.toBytes ++ rest)).drop ((i + 1) * l.width)
              = (xs.flatMap l.toBytes ++ rest).drop (i * l.width) := by
            rw [show (i + 1) * l.width = (l.toBytes x).length + i * l.width by
              rw [l.length_toBytes]; ring, List.drop_append, List.drop_eq_nil_of_le (by omega)]
            simp
          rw [hdrop, ih i (by simpa using hi)]
          rfl

/-- A C array of `n` elements. -/
def array (n : ℕ) (l : Layout α) : Layout (Vector α n) where
  width := n * l.width
  toBytes v := v.toList.flatMap l.toBytes
  ofBytes bs := Vector.ofFn fun i : Fin n => l.ofBytes (bs.drop (i * l.width))
  length_toBytes v := by
    rw [List.length_flatMap]
    simp
  ofBytes_toBytes_append v rest := by
    apply Vector.ext
    intro i hi
    rw [Vector.getElem_ofFn, ofBytes_drop_flatMap l rest v.toList i (by simpa using hi)]
    exact Vector.getElem_toList _

end Layout

end SparqControl.Lib.Packed
