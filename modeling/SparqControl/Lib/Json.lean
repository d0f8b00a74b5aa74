/-
# SparqControl.Lib.Json — JSON documents, the text they are written as, and the reader of such texts.

The writer is the one with the compact separators `,` and `:` that escapes EVERY character outside
printable ASCII, so a document is one line of ASCII. The reader is the standard one: whitespace
between tokens, both integers and floats, the three special floats, an object whose keys may repeat
(the last one counts), and an error for anything that is left over.

A text is a list of code points, LONE SURROGATES INCLUDED, since an escape can name one. Two escapes
that name a high and a low surrogate in a row are one code point: a text that holds such a pair as two
code points does not come back, every other one does (`Text.Whole`).

The reader runs on fuel. `loads` gives it twice the length of the text and one, and `loads_iff` says
that nothing is refused for want of it.
-/
import Mathlib.Data.List.Basic
import Mathlib.Data.List.TakeWhile
import Mathlib.Data.Int.Notation

namespace SparqControl.Lib.Json

/-! ## Texts -/

/-- A code point. The surrogates are among them. -/
abbrev CodePoint := Fin 0x110000

/-- A text. -/
abbrev Text := List CodePoint

/-- The code point of a character. -/
def codePoint (c : Char) : CodePoint := Fin.ofNat _ c.toNat

/-- The text of a literal. -/
def Text.ofString (s : String) : Text := s.toList.map codePoint

/-- A high surrogate, the first half of a pair. -/
def isHigh (u : ℕ) : Bool := 0xD800 ≤ u && u ≤ 0xDBFF

/-- A low surrogate, the second half of a pair. -/
def isLow (u : ℕ) : Bool := 0xDC00 ≤ u && u ≤ 0xDFFF

/-- The code units a code point is escaped as. -/
def units (p : CodePoint) : List ℕ :=
  if p.val < 0x10000 then [p.val]
  else [0xD800 + (p.val - 0x10000) / 0x400, 0xDC00 + (p.val - 0x10000) % 0x400]

/-- The code point of a surrogate pair. -/
def joinPair (high low : ℕ) : CodePoint :=
  Fin.ofNat _ (0x10000 + (high - 0xD800) * 0x400 + (low - 0xDC00))

/-- Read code units as code points: a high surrogate and the low one right after it are one. -/
def joinPairs : List ℕ → Text
  | [] => []
  | [u] => [Fin.ofNat _ u]
  | u :: l :: rest =>
      if isHigh u && isLow l then joinPair u l :: joinPairs rest
      else Fin.ofNat _ u :: joinPairs (l :: rest)

/-- No surrogate pair stands in the text as two code points. -/
def Text.Whole : Text → Prop
  | [] => True
  | [_] => True
  | p :: q :: rest => ¬ (isHigh p.val = true ∧ isLow q.val = true) ∧ Text.Whole (q :: rest)

theorem Text.Whole.tail {p : CodePoint} {t : Text} (h : Text.Whole (p :: t)) : Text.Whole t := by
  cases t with
  | nil => trivial
  | cons q rest => exact h.2

theorem Text.whole_of_notHigh {t : Text} (h : ∀ p ∈ t, isHigh p.val = false) : t.Whole := by
  induction t with
  | nil => trivial
  | cons p t ih =>
      have htail := ih fun q hq => h q (List.mem_cons_of_mem _ hq)
      cases t with
      | nil => trivial
      | cons q t =>
          have hp := h p List.mem_cons_self
          exact ⟨fun hpair => Bool.false_ne_true (hp.symm.trans hpair.1), htail⟩

/-- The first code unit of a code point is the code point itself or a high surrogate. -/
theorem units_head (p : CodePoint) :
    ∃ u us, units p = u :: us ∧ (isLow u = true → u = p.val) := by
  unfold units
  split
  · exact ⟨p.val, [], rfl, fun _ => rfl⟩
  · refine ⟨_, _, rfl, fun h => ?_⟩
    have hp := p.isLt
    simp only [isLow, Bool.and_eq_true, decide_eq_true_eq] at h
    omega

theorem joinPair_units {n : ℕ} (hn : n < 0x110000) (h : ¬ n < 0x10000) :
    joinPair (0xD800 + (n - 0x10000) / 0x400) (0xDC00 + (n - 0x10000) % 0x400) =
      Fin.ofNat 0x110000 n := by
  have hsum : 0x10000 + (0xD800 + (n - 0x10000) / 0x400 - 0xD800) * 0x400 +
      (0xDC00 + (n - 0x10000) % 0x400 - 0xDC00) = n := by omega
  exact congrArg (Fin.ofNat 0x110000) hsum

/-- A single code unit stays a code point of its own unless it starts a pair. -/
theorem joinPairs_cons {u : ℕ} {us : List ℕ}
    (h : isHigh u = true → ∀ l ∈ us.head?, isLow l = false) :
    joinPairs (u :: us) = Fin.ofNat _ u :: joinPairs us := by
  cases us with
  | nil => rfl
  | cons l rest =>
      rw [joinPairs, if_neg]
      rintro hpair
      simp only [Bool.and_eq_true] at hpair
      exact Bool.false_ne_true ((h hpair.1 l rfl).symm.trans hpair.2)

/-- **The units of a whole text are read as that text.** -/
theorem joinPairs_flatMap_units : ∀ {t : Text}, t.Whole → joinPairs (t.flatMap units) = t
  | [], _ => rfl
  | p :: t, h => by
      have ih := joinPairs_flatMap_units h.tail
      rw [List.flatMap_cons]
      by_cases hp : p.val < 0x10000
      · have hone : units p = [p.val] := if_pos hp
        rw [hone, List.singleton_append, joinPairs_cons, ih, Fin.ofNat_val_eq_self]
        intro hhigh l hl
        cases t with
        | nil => simp at hl
        | cons q rest =>
            obtain ⟨u, us, hu, hlow⟩ := units_head q
            rw [List.flatMap_cons, hu, List.cons_append, List.head?_cons, Option.mem_some_iff] at hl
            subst hl
            by_contra hne
            have hl' : isLow u = true := by simpa using hne
            exact h.1 ⟨hhigh, hlow hl' ▸ hl'⟩
      · have htwo : units p = [0xD800 + (p.val - 0x10000) / 0x400,
            0xDC00 + (p.val - 0x10000) % 0x400] := if_neg hp
        have hlt := p.isLt
        rw [htwo, List.cons_append, List.cons_append, List.nil_append, joinPairs, if_pos, ih,
          joinPair_units hlt hp, Fin.ofNat_val_eq_self]
        simp only [isHigh, isLow, Bool.and_eq_true, decide_eq_true_eq]
        omega

/-! ## Strings -/

/-- A lowercase hexadecimal digit. -/
def hexDigit (n : ℕ) : Char := if n < 10 then Char.ofNat (48 + n) else Char.ofNat (87 + n)

/-- The value of a hexadecimal digit of either case. -/
def hexValue (c : Char) : Option ℕ :=
  if '0' ≤ c ∧ c ≤ '9' then some (c.toNat - 48)
  else if 'a' ≤ c ∧ c ≤ 'f' then some (c.toNat - 87)
  else if 'A' ≤ c ∧ c ≤ 'F' then some (c.toNat - 55)
  else none

/-- A code unit as four hexadecimal digits. -/
def hex4 (u : ℕ) : List Char :=
  [hexDigit (u / 4096 % 16), hexDigit (u / 256 % 16), hexDigit (u / 16 % 16), hexDigit (u % 16)]

/-- Four hexadecimal digits as a code unit. -/
def readHex4 (a b c d : Char) : Option ℕ := do
  let a ← hexValue a
  let b ← hexValue b
  let c ← hexValue c
  let d ← hexValue d
  return ((a * 16 + b) * 16 + c) * 16 + d

/-- One code unit, escaped. -/
def escapeUnit (u : ℕ) : List Char := '\\' :: 'u' :: hex4 u

/-- How a code point is written inside a string. -/
def escape (p : CodePoint) : List Char :=
  if p.val = 34 then ['\\', '"']
  else if p.val = 92 then ['\\', '\\']
  else if p.val = 10 then ['\\', 'n']
  else if p.val = 13 then ['\\', 'r']
  else if p.val = 9 then ['\\', 't']
  else if p.val = 12 then ['\\', 'f']
  else if p.val = 8 then ['\\', 'b']
  else if 32 ≤ p.val ∧ p.val ≤ 126 then [Char.ofNat p.val]
  else (units p).flatMap escapeUnit

/-- What a one-letter escape stands for. -/
def letterEscape (c : Char) : Option ℕ :=
  if c = '"' then some 34
  else if c = '\\' then some 92
  else if c = '/' then some 47
  else if c = 'b' then some 8
  else if c = 'f' then some 12
  else if c = 'n' then some 10
  else if c = 'r' then some 13
  else if c = 't' then some 9
  else none

/-- The code units of a string up to its closing quote. A control character is not allowed in one. -/
def scanUnits : List Char → Option (List ℕ × List Char)
  | [] => none
  | ch :: rest =>
      if ch = '"' then some ([], rest)
      else if ch = '\\' then
        match rest with
        | [] => none
        | e :: rest =>
            if e = 'u' then
              match rest with
              | a :: b :: c :: d :: rest => do
                  let u ← readHex4 a b c d
                  let (us, rest) ← scanUnits rest
                  return (u :: us, rest)
              | _ => none
            else do
              let u ← letterEscape e
              let (us, rest) ← scanUnits rest
              return (u :: us, rest)
      else if ch.toNat < 32 then none
      else do
        let (us, rest) ← scanUnits rest
        return (ch.toNat :: us, rest)

/-- The rest of a string, after its opening quote. -/
def scanString (s : List Char) : Option (Text × List Char) := do
  let (us, rest) ← scanUnits s
  return (joinPairs us, rest)

/-- A string, quotes included. -/
def dumpString (t : Text) : List Char := '"' :: (t.flatMap escape ++ ['"'])

theorem hexValue_hexDigit : ∀ d < 16, hexValue (hexDigit d) = some d := by decide

theorem readHex4_hex4 {u : ℕ} (h : u < 65536) (rest : List Char) :
    ∃ a b c d, hex4 u ++ rest = a :: b :: c :: d :: rest ∧ readHex4 a b c d = some u := by
  refine ⟨_, _, _, _, rfl, ?_⟩
  simp only [readHex4, hexValue_hexDigit _ (Nat.mod_lt _ (by decide)), Option.bind_eq_bind,
    Option.bind_some, Option.pure_def]
  congr 1
  omega

/-- More units in front of what a scan found. -/
def prependUnits (us : List ℕ) : List ℕ × List Char → List ℕ × List Char :=
  Prod.map (us ++ ·) id

theorem scanUnits_escapeUnit {u : ℕ} (h : u < 65536) (rest : List Char) :
    scanUnits (escapeUnit u ++ rest) = (scanUnits rest).map (prependUnits [u]) := by
  obtain ⟨a, b, c, d, heq, hread⟩ := readHex4_hex4 h rest
  simp only [escapeUnit, List.cons_append, heq]
  rw [scanUnits]
  simp only [Char.reduceEq, if_false, if_true, hread, Option.bind_eq_bind, Option.bind_some]
  cases scanUnits rest with
  | none => rfl
  | some found => rfl

theorem scanUnits_letter {e : Char} {u : ℕ} (hu : e ≠ 'u') (h : letterEscape e = some u)
    (rest : List Char) :
    scanUnits ('\\' :: e :: rest) = (scanUnits rest).map (prependUnits [u]) := by
  rw [scanUnits.eq_def]
  simp only [Char.reduceEq, if_false, if_true, if_neg hu, h, Option.bind_eq_bind, Option.bind_some]
  cases scanUnits rest with
  | none => rfl
  | some found => rfl

theorem scanUnits_char {c : Char} (hquote : c ≠ '"') (hslash : c ≠ '\\') (hprint : ¬ c.toNat < 32)
    (rest : List Char) :
    scanUnits (c :: rest) = (scanUnits rest).map (prependUnits [c.toNat]) := by
  rw [scanUnits.eq_def]
  simp only [if_neg hquote, if_neg hslash, if_neg hprint, Option.bind_eq_bind]
  cases scanUnits rest with
  | none => rfl
  | some found => rfl

theorem units_lt {p : CodePoint} {u : ℕ} (h : u ∈ units p) : u < 65536 := by
  have hp := p.isLt
  unfold units at h
  split at h
  · rw [List.mem_singleton] at h
    omega
  · simp only [List.mem_cons, List.not_mem_nil, or_false] at h
    omega

theorem scanUnits_flatMap_escapeUnit {us : List ℕ} (h : ∀ u ∈ us, u < 65536) (rest : List Char) :
    scanUnits (us.flatMap escapeUnit ++ rest) = (scanUnits rest).map (prependUnits us) := by
  induction us with
  | nil =>
      cases hrest : scanUnits rest with
      | none => simp [hrest]
      | some found =>
          obtain ⟨us, rest'⟩ := found
          simp [hrest, prependUnits]
  | cons u us ih =>
      rw [List.flatMap_cons, List.append_assoc, scanUnits_escapeUnit (h u List.mem_cons_self),
        ih fun v hv => h v (List.mem_cons_of_mem _ hv), Option.map_map]
      rfl

theorem toNat_ofNat_printable : ∀ n < 127, (Char.ofNat n).toNat = n := by decide

/-- **One code point** comes back as its code units. -/
theorem scanUnits_escape (p : CodePoint) (rest : List Char) :
    scanUnits (escape p ++ rest) = (scanUnits rest).map (prependUnits (units p)) := by
  have hsmall : p.val < 0x10000 → units p = [p.val] := fun h => if_pos h
  unfold escape
  split_ifs with h₁ h₂ h₃ h₄ h₅ h₆ h₇ h₈
  · rw [hsmall (by omega), h₁]; exact scanUnits_letter (by decide) rfl rest
  · rw [hsmall (by omega), h₂]; exact scanUnits_letter (by decide) rfl rest
  · rw [hsmall (by omega), h₃]; exact scanUnits_letter (by decide) rfl rest
  · rw [hsmall (by omega), h₄]; exact scanUnits_letter (by decide) rfl rest
  · rw [hsmall (by omega), h₅]; exact scanUnits_letter (by decide) rfl rest
  · rw [hsmall (by omega), h₆]; exact scanUnits_letter (by decide) rfl rest
  · rw [hsmall (by omega), h₇]; exact scanUnits_letter (by decide) rfl rest
  · have hchar := toNat_ofNat_printable p.val (by omega)
    rw [hsmall (by omega), List.singleton_append, scanUnits_char, hchar]
    · intro heq
      rw [heq] at hchar
      exact h₁ hchar.symm
    · intro heq
      rw [heq] at hchar
      exact h₂ hchar.symm
    · omega
  · exact scanUnits_flatMap_escapeUnit (fun u hu => units_lt hu) rest

theorem scanUnits_flatMap_escape (t : Text) (rest : List Char) :
    scanUnits (t.flatMap escape ++ '"' :: rest) = some (t.flatMap units, rest) := by
  induction t with
  | nil => rw [List.flatMap_nil, List.nil_append, scanUnits.eq_def]; rfl
  | cons p t ih =>
      rw [List.flatMap_cons, List.append_assoc, scanUnits_escape, ih, List.flatMap_cons]
      rfl

/-- **A string comes back** as the text it was written from. -/
theorem scanString_flatMap_escape {t : Text} (h : t.Whole) (rest : List Char) :
    scanString (t.flatMap escape ++ '"' :: rest) = some (t, rest) := by
  rw [scanString, scanUnits_flatMap_escape]
  exact congrArg (fun t => some (t, rest)) (joinPairs_flatMap_units h)

/-- A character of a document: printable ASCII. -/
def Printable (c : Char) : Prop := 32 ≤ c.toNat ∧ c.toNat < 127

instance (c : Char) : Decidable (Printable c) := inferInstanceAs (Decidable (_ ∧ _))

theorem printable_of_all {cs : List Char} (h : cs.all (decide <| Printable ·) = true) {c : Char}
    (hc : c ∈ cs) : Printable c :=
  of_decide_eq_true (List.all_eq_true.mp h c hc)

theorem printable_hexDigit : ∀ d < 16, 32 ≤ (hexDigit d).toNat ∧ (hexDigit d).toNat < 127 := by
  decide

theorem printable_escapeUnit {u : ℕ} {c : Char} (h : c ∈ escapeUnit u) : Printable c := by
  have hdigit : ∀ n, Printable (hexDigit (n % 16)) := fun n =>
    printable_hexDigit _ (Nat.mod_lt _ (by decide))
  simp only [escapeUnit, hex4, List.mem_cons, List.not_mem_nil, or_false] at h
  rcases h with rfl | rfl | rfl | rfl | rfl | rfl
  · exact ⟨by decide, by decide⟩
  · exact ⟨by decide, by decide⟩
  all_goals exact hdigit _

theorem printable_escape {p : CodePoint} {c : Char} (h : c ∈ escape p) : Printable c := by
  have hpair : ∀ {a b : Char}, Printable a → Printable b → c ∈ [a, b] → Printable c := by
    intro a b ha hb hmem
    rcases List.mem_pair.mp hmem with rfl | rfl
    · exact ha
    · exact hb
  unfold escape at h
  split_ifs at h with h₁ h₂ h₃ h₄ h₅ h₆ h₇ h₈
  iterate 7 exact hpair ⟨by decide, by decide⟩ ⟨by decide, by decide⟩ h
  · rw [List.mem_singleton] at h
    have hchar := toNat_ofNat_printable p.val (by omega)
    subst h
    exact ⟨by omega, by omega⟩
  · obtain ⟨u, -, hc⟩ := List.mem_flatMap.mp h
    exact printable_escapeUnit hc

theorem printable_dumpString {t : Text} {c : Char} (h : c ∈ dumpString t) : Printable c := by
  have hquote : Printable '"' := ⟨by decide, by decide⟩
  simp only [dumpString, List.mem_cons, List.mem_append, List.not_mem_nil, or_false] at h
  rcases h with rfl | h | rfl
  · exact hquote
  · obtain ⟨p, -, hc⟩ := List.mem_flatMap.mp h
    exact printable_escape hc
  · exact hquote

/-! ## Documents -/

/-- A document, over a type of floats. An object keeps its members as they stand. -/
inductive Value (F : Type) where
  | null
  | bool (b : Bool)
  | int (n : ℤ)
  | float (x : F)
  | str (t : Text)
  | arr (items : List (Value F))
  | obj (members : List (Text × Value F))

variable {F : Type}

/-- The decimal numeral of an integer. -/
def intText (n : ℤ) : List Char :=
  if n < 0 then '-' :: Nat.toDigits 10 n.natAbs else Nat.toDigits 10 n.natAbs

mutual
/-- A document on one line, with `repr` for its floats. -/
def dumps (repr : F → List Char) : Value F → List Char
  | .null => "null".toList
  | .bool b => if b then "true".toList else "false".toList
  | .int n => intText n
  | .float x => repr x
  | .str t => dumpString t
  | .arr [] => ['[', ']']
  | .arr (v :: vs) => '[' :: (dumps repr v ++ dumpItems repr vs)
  | .obj [] => ['{', '}']
  | .obj ((k, v) :: ms) => '{' :: (dumpString k ++ ':' :: (dumps repr v ++ dumpMembers repr ms))

/-- The items after the first, and the closing bracket. -/
def dumpItems (repr : F → List Char) : List (Value F) → List Char
  | [] => [']']
  | v :: vs => ',' :: (dumps repr v ++ dumpItems repr vs)

/-- The members after the first, and the closing brace. -/
def dumpMembers (repr : F → List Char) : List (Text × Value F) → List Char
  | [] => ['}']
  | (k, v) :: ms => ',' :: (dumpString k ++ ':' :: (dumps repr v ++ dumpMembers repr ms))
end

/-- Whitespace between tokens. -/
def isWs (c : Char) : Bool := c = ' ' || c = '\t' || c = '\n' || c = '\r'

/-- The text after its leading whitespace. -/
def skipWs (s : List Char) : List Char := s.dropWhile isWs

/-- The integer part of a numeral: a zero, or the digits from one that is no zero. -/
def scanInt : List Char → Option (List Char × List Char)
  | [] => none
  | ch :: rest =>
      if ch = '0' then some (['0'], rest)
      else if ch.isDigit then
        some (ch :: rest.takeWhile Char.isDigit, rest.dropWhile Char.isDigit)
      else none

/-- A fraction, if a digit follows the point; otherwise nothing is taken. -/
def scanFrac : List Char → List Char × List Char
  | ch :: d :: rest =>
      if ch = '.' ∧ d.isDigit then
        (ch :: d :: rest.takeWhile Char.isDigit, rest.dropWhile Char.isDigit)
      else ([], ch :: d :: rest)
  | s => ([], s)

/-- The sign of an exponent, if there is one. -/
def scanSign : List Char → List Char × List Char
  | ch :: rest => if ch = '+' ∨ ch = '-' then ([ch], rest) else ([], ch :: rest)
  | [] => ([], [])

/-- An exponent, if a digit follows its letter and sign; otherwise nothing is taken. -/
def scanExp : List Char → List Char × List Char
  | [] => ([], [])
  | ch :: rest =>
      if ch = 'e' ∨ ch = 'E' then
        match scanSign rest with
        | (sign, d :: digits) =>
            if d.isDigit then
              (ch :: (sign ++ d :: digits.takeWhile Char.isDigit), digits.dropWhile Char.isDigit)
            else ([], ch :: rest)
        | (_, []) => ([], ch :: rest)
      else ([], ch :: rest)

/-- A number. It is an integer if it has neither fraction nor exponent. -/
def scanNumber (readFloat : List Char → F) (s : List Char) : Option (Value F × List Char) := do
  let negative := s.head? = some '-'
  let (digits, rest) ← scanInt (if negative then s.tail else s)
  let (frac, rest) := scanFrac rest
  let (exp, rest) := scanExp rest
  if frac = [] ∧ exp = [] then
    let magnitude : ℤ := Nat.ofDigitChars 10 digits 0
    return (.int (if negative then -magnitude else magnitude), rest)
  else
    let minus := if negative then ['-'] else []
    return (.float (readFloat (minus ++ digits ++ frac ++ exp)), rest)

/-- The words a document may hold. -/
def keywords (readFloat : List Char → F) : List (List Char × Value F) :=
  [("null".toList, .null), ("true".toList, .bool true), ("false".toList, .bool false),
   ("NaN".toList, .float (readFloat "NaN".toList)),
   ("Infinity".toList, .float (readFloat "Infinity".toList)),
   ("-Infinity".toList, .float (readFloat "-Infinity".toList))]

/-- A word, if the text starts with one. -/
def scanKeyword (readFloat : List Char → F) (s : List Char) : Option (Value F × List Char) :=
  (keywords readFloat).findSome? fun (word, v) => (word.isPrefixOf? s).map fun rest => (v, rest)

mutual
/-- The value at the start of a text, and what is left. -/
def scanOnce (readFloat : List Char → F) : ℕ → List Char → Option (Value F × List Char)
  | 0, _ => none
  | _ + 1, [] => none
  | n + 1, ch :: rest =>
      if ch = '"' then (scanString rest).map (Prod.map .str id)
      else if ch = '{' then
        match skipWs rest with
        | [] => none
        | d :: rest =>
            if d = '}' then some (.obj [], rest)
            else (scanMembers readFloat n (d :: rest)).map (Prod.map .obj id)
      else if ch = '[' then
        match skipWs rest with
        | [] => none
        | d :: rest =>
            if d = ']' then some (.arr [], rest)
            else (scanItems readFloat n (d :: rest)).map (Prod.map .arr id)
      else (scanKeyword readFloat (ch :: rest)).or (scanNumber readFloat (ch :: rest))

/-- The items from one on, and what is left after the closing bracket. -/
def scanItems (readFloat : List Char → F) : ℕ → List Char → Option (List (Value F) × List Char)
  | 0, _ => none
  | n + 1, s => do
      let (v, rest) ← scanOnce readFloat n s
      match skipWs rest with
      | [] => none
      | d :: rest =>
          if d = ']' then some ([v], rest)
          else if d = ',' then
            (scanItems readFloat n (skipWs rest)).map (Prod.map (v :: ·) id)
          else none

/-- The members from one on, and what is left after the closing brace. -/
def scanMembers (readFloat : List Char → F) :
    ℕ → List Char → Option (List (Text × Value F) × List Char)
  | 0, _ => none
  | _ + 1, [] => none
  | n + 1, quote :: rest => do
      if quote ≠ '"' then none
      let (k, rest) ← scanString rest
      match skipWs rest with
      | [] => none
      | colon :: rest =>
          if colon ≠ ':' then none
          let (v, rest) ← scanOnce readFloat n (skipWs rest)
          match skipWs rest with
          | [] => none
          | d :: rest =>
              if d = '}' then some ([(k, v)], rest)
              else if d = ',' then
                (scanMembers readFloat n (skipWs rest)).map (Prod.map ((k, v) :: ·) id)
              else none
end

/-- Read a document. Nothing but whitespace may be left over. -/
def loads (readFloat : List Char → F) (s : List Char) : Option (Value F) :=
  match scanOnce readFloat (2 * s.length + 1) (skipWs s) with
  | some (v, rest) => if skipWs rest = [] then some v else none
  | none => none

/-- The value of a key: that of the LAST member with it. -/
def Value.get? (key : Text) : Value F → Option (Value F)
  | .obj members => (members.reverse.find? fun m => m.1 = key).map Prod.snd
  | _ => none

/-! ## What a scan finds -/

/-- What a scan of items finds: a value, and then a closing bracket or more items. -/
theorem scanItems_iff {readFloat : List Char → F} {n : ℕ} {s : List Char} {vs : List (Value F)}
    {rest : List Char} :
    scanItems readFloat (n + 1) s = some (vs, rest) ↔
      ∃ v left, scanOnce readFloat n s = some (v, left) ∧
        (skipWs left = ']' :: rest ∧ vs = [v] ∨
          ∃ more vs', skipWs left = ',' :: more ∧
            scanItems readFloat n (skipWs more) = some (vs', rest) ∧ vs = v :: vs') := by
  rw [scanItems, Option.bind_eq_bind, Option.bind_eq_some_iff]
  constructor
  · rintro ⟨⟨v, left⟩, hscan, h⟩
    refine ⟨v, left, hscan, ?_⟩
    dsimp only at h
    split at h
    · cases h
    · rename_i d more heq
      split_ifs at h with hclose hcomma
      · cases h
        exact Or.inl ⟨hclose ▸ heq, rfl⟩
      · obtain ⟨⟨vs', last⟩, htail, h⟩ := Option.map_eq_some_iff.mp h
        cases h
        exact Or.inr ⟨more, vs', hcomma ▸ heq, htail, rfl⟩
  · rintro ⟨v, left, hscan, ⟨heq, rfl⟩ | ⟨more, vs', heq, htail, rfl⟩⟩
    · refine ⟨(v, left), hscan, ?_⟩
      dsimp only
      rw [heq]
      rfl
    · refine ⟨(v, left), hscan, ?_⟩
      dsimp only
      rw [heq]
      show (scanItems readFloat n (skipWs more)).map _ = _
      rw [htail]
      rfl

/-- What a scan of members finds: a key, a colon, a value, and then a closing brace or more
members. -/
theorem scanMembers_iff {readFloat : List Char → F} {n : ℕ} {s : List Char}
    {ms : List (Text × Value F)} {rest : List Char} :
    scanMembers readFloat (n + 1) s = some (ms, rest) ↔
      ∃ body k left value v after, s = '"' :: body ∧ scanString body = some (k, left) ∧
        skipWs left = ':' :: value ∧ scanOnce readFloat n (skipWs value) = some (v, after) ∧
        (skipWs after = '}' :: rest ∧ ms = [(k, v)] ∨
          ∃ more ms', skipWs after = ',' :: more ∧
            scanMembers readFloat n (skipWs more) = some (ms', rest) ∧ ms = (k, v) :: ms') := by
  constructor
  · intro h
    cases s with
    | nil => cases h
    | cons quote body =>
        rw [scanMembers] at h
        split_ifs at h with hquote
        · cases h
        obtain ⟨⟨k, left⟩, hkey, h⟩ := Option.bind_eq_some_iff.mp h
        dsimp only at h
        split at h
        · cases h
        rename_i colon value hcolon
        split_ifs at h with hne
        · cases h
        obtain ⟨⟨v, after⟩, hscan, h⟩ := Option.bind_eq_some_iff.mp h
        have hquote' : quote = '"' := not_not.mp hquote
        have hne' : colon = ':' := not_not.mp hne
        refine ⟨body, k, left, value, v, after, hquote' ▸ rfl, hkey, hne' ▸ hcolon, hscan, ?_⟩
        dsimp only at h
        split at h
        · cases h
        · rename_i d more heq
          split_ifs at h with hclose hcomma
          · cases h
            exact Or.inl ⟨hclose ▸ heq, rfl⟩
          · obtain ⟨⟨ms', last⟩, htail, h⟩ := Option.map_eq_some_iff.mp h
            cases h
            exact Or.inr ⟨more, ms', hcomma ▸ heq, htail, rfl⟩
  · rintro ⟨body, k, left, value, v, after, rfl, hkey, hcolon, hscan, hend⟩
    have hvalue : ∀ {result : Option (List (Text × Value F) × List Char)},
        (match skipWs after with
          | [] => none
          | d :: rest =>
              if d = '}' then some ([(k, v)], rest)
              else if d = ',' then
                (scanMembers readFloat n (skipWs rest)).map (Prod.map ((k, v) :: ·) id)
              else none) = result → scanMembers readFloat (n + 1) ('"' :: body) = result := by
      rintro result rfl
      rw [scanMembers, hkey]
      show (match skipWs left with | [] => none | colon :: rest => _) = _
      rw [hcolon]
      show (scanOnce readFloat n (skipWs value) >>= _) = _
      rw [hscan]
      rfl
    apply hvalue
    obtain ⟨heq, rfl⟩ | ⟨more, ms', heq, htail, rfl⟩ := hend
    · rw [heq]
      rfl
    · rw [heq]
      show (scanMembers readFloat n (skipWs more)).map _ = _
      rw [htail]
      rfl

theorem scanMembers_nil (readFloat : List Char → F) (n : ℕ) : scanMembers readFloat n [] = none := by
  cases n with
  | zero => rw [scanMembers]
  | succ n => rw [scanMembers]

theorem scanItems_nil (readFloat : List Char → F) (n : ℕ) : scanItems readFloat n [] = none := by
  cases n with
  | zero => rw [scanItems]
  | succ n =>
      rw [scanItems]
      cases n with
      | zero => rw [scanOnce]; rfl
      | succ n => rw [scanOnce]; rfl

/-- What a scan of one value finds: a string, an object, an array, or a word or number. -/
theorem scanOnce_iff {readFloat : List Char → F} {n : ℕ} {s : List Char} {v : Value F}
    {rest : List Char} :
    scanOnce readFloat (n + 1) s = some (v, rest) ↔
      (∃ body t, s = '"' :: body ∧ scanString body = some (t, rest) ∧ v = .str t) ∨
      (∃ body, s = '{' :: body ∧
        (skipWs body = '}' :: rest ∧ v = .obj [] ∨
          ∃ ms, (skipWs body).head? ≠ some '}' ∧
            scanMembers readFloat n (skipWs body) = some (ms, rest) ∧ v = .obj ms)) ∨
      (∃ body, s = '[' :: body ∧
        (skipWs body = ']' :: rest ∧ v = .arr [] ∨
          ∃ vs, (skipWs body).head? ≠ some ']' ∧
            scanItems readFloat n (skipWs body) = some (vs, rest) ∧ v = .arr vs)) ∨
      (∃ ch body, s = ch :: body ∧ ch ≠ '"' ∧ ch ≠ '{' ∧ ch ≠ '[' ∧
        (scanKeyword readFloat s).or (scanNumber readFloat s) = some (v, rest)) := by
  cases s with
  | nil => simp [scanOnce]
  | cons ch body =>
      rw [scanOnce]
      split_ifs with hquote hbrace hbracket
      · subst hquote
        cases hscan : scanString body with
        | none => simp [hscan]
        | some found =>
            obtain ⟨t, left⟩ := found
            simp [hscan, eq_comm, and_comm]
      · subst hbrace
        cases hskip : skipWs body with
        | nil => simp [hskip, scanMembers_nil]
        | cons d left =>
            by_cases hclose : d = '}'
            · subst hclose
              simp [hskip, eq_comm, and_comm]
            · cases hscan : scanMembers readFloat n (d :: left) with
              | none => simp [hskip, hclose, hscan]
              | some found =>
                  obtain ⟨found, last⟩ := found
                  simp [hskip, hclose, hscan, eq_comm, and_comm]
      · subst hbracket
        cases hskip : skipWs body with
        | nil => simp [hskip, scanItems_nil]
        | cons d left =>
            by_cases hclose : d = ']'
            · subst hclose
              simp [hskip, eq_comm, and_comm]
            · cases hscan : scanItems readFloat n (d :: left) with
              | none => simp [hskip, hclose, hscan]
              | some found =>
                  obtain ⟨found, last⟩ := found
                  simp [hskip, hclose, hscan, eq_comm, and_comm]
      · simp [hquote, hbrace, hbracket]

/-! ## What is written is read back -/

mutual
/-- No float, and every text in it whole. -/
def Value.Plain : Value F → Prop
  | .float _ => False
  | .str t => t.Whole
  | .arr items => PlainItems items
  | .obj members => PlainMembers members
  | _ => True

/-- Every item is plain. -/
def PlainItems : List (Value F) → Prop
  | [] => True
  | v :: vs => v.Plain ∧ PlainItems vs

/-- Every member is plain, and its key whole. -/
def PlainMembers : List (Text × Value F) → Prop
  | [] => True
  | (k, v) :: ms => k.Whole ∧ v.Plain ∧ PlainMembers ms
end

/-- What follows does not go on with a number. -/
def Stops (rest : List Char) : Prop :=
  ∀ ch ∈ rest.head?, ch.isDigit = false ∧ ch ≠ '.' ∧ ch ≠ 'e' ∧ ch ≠ 'E'

theorem stops_cons {ch : Char} {rest : List Char}
    (h : ch.isDigit = false ∧ ch ≠ '.' ∧ ch ≠ 'e' ∧ ch ≠ 'E') : Stops (ch :: rest) := by
  intro d hd
  rw [List.head?_cons, Option.mem_some_iff] at hd
  exact hd ▸ h

theorem takeWhile_digits {ds rest : List Char} (hds : ∀ d ∈ ds, d.isDigit = true)
    (hrest : Stops rest) :
    (ds ++ rest).takeWhile Char.isDigit = ds ∧ (ds ++ rest).dropWhile Char.isDigit = rest := by
  rw [List.takeWhile_append_of_pos hds, List.dropWhile_append_of_pos hds]
  cases rest with
  | nil => simp
  | cons ch rest =>
      have hch := (hrest ch rfl).1
      simp [hch]

theorem scanFrac_of_stops {rest : List Char} (h : Stops rest) : scanFrac rest = ([], rest) := by
  match rest, h with
  | [], _ => rfl
  | [_], _ => rfl
  | ch :: d :: rest, h =>
      rw [scanFrac, if_neg]
      exact fun hfrac => (h ch rfl).2.1 hfrac.1

theorem scanExp_of_stops {rest : List Char} (h : Stops rest) : scanExp rest = ([], rest) := by
  cases rest with
  | nil => rfl
  | cons ch rest =>
      rw [scanExp, if_neg]
      rintro (he | hE)
      · exact (h ch rfl).2.2.1 he
      · exact (h ch rfl).2.2.2 hE

/-- The numeral of a natural number: a zero alone, or a first digit that is no zero. -/
theorem toDigits_cases (n : ℕ) :
    Nat.toDigits 10 n = ['0'] ∨
      ∃ d ds, Nat.toDigits 10 n = d :: ds ∧ d ≠ '0' ∧ d.isDigit = true := by
  have hdigit : ∀ k < 10, k ≠ 0 → k.digitChar ≠ '0' ∧ k.digitChar.isDigit = true := by decide
  induction n using Nat.strongRecOn with
  | ind n ih =>
      rcases Nat.lt_or_ge n 10 with hlt | hge
      · rw [Nat.toDigits_of_lt_base hlt]
        rcases Nat.eq_zero_or_pos n with rfl | hpos
        · exact Or.inl rfl
        · obtain ⟨hne, hd⟩ := hdigit n hlt (by omega)
          exact Or.inr ⟨_, [], rfl, hne, hd⟩
      · rw [Nat.toDigits_of_base_le (by decide) hge]
        rcases ih (n / 10) (by omega) with hzero | ⟨d, ds, heq, hne, hd⟩
        · have hn := congrArg (Nat.ofDigitChars 10 · 0) hzero
          rw [Nat.ofDigitChars_ten_toDigits] at hn
          have hn' : n / 10 = 0 := hn
          omega
        · exact Or.inr ⟨d, _, by rw [heq, List.cons_append], hne, hd⟩

theorem scanInt_toDigits (n : ℕ) {rest : List Char} (h : Stops rest) :
    scanInt (Nat.toDigits 10 n ++ rest) = some (Nat.toDigits 10 n, rest) := by
  have hall : ∀ d ∈ Nat.toDigits 10 n, d.isDigit = true := fun d hd =>
    Nat.isDigit_of_mem_toDigits (by decide) (by decide) hd
  rcases toDigits_cases n with hzero | ⟨d, ds, heq, hne, hd⟩
  · rw [hzero]
    rfl
  · rw [heq] at hall ⊢
    obtain ⟨htake, hdrop⟩ := takeWhile_digits (fun e he => hall e (List.mem_cons_of_mem _ he)) h
    rw [List.cons_append, scanInt, if_neg hne, if_pos hd, htake, hdrop]

theorem head_toDigits_ne (n : ℕ) (rest : List Char) :
    (Nat.toDigits 10 n ++ rest).head? ≠ some '-' := by
  rcases toDigits_cases n with hzero | ⟨d, ds, heq, -, hd⟩
  · simp [hzero]
  · rw [heq, List.cons_append, List.head?_cons]
    rintro h
    cases h
    exact absurd hd (by decide)

/-- **An integer comes back.** -/
theorem scanNumber_intText (readFloat : List Char → F) (n : ℤ) {rest : List Char} (h : Stops rest) :
    scanNumber readFloat (intText n ++ rest) = some (.int n, rest) := by
  have hscan := scanInt_toDigits n.natAbs h
  unfold intText
  split
  · rename_i hneg
    have habs : -(n.natAbs : ℤ) = n := by omega
    simp only [scanNumber, List.cons_append, List.head?_cons, List.tail_cons, if_true, hscan,
      Option.bind_eq_bind, Option.bind_some, scanFrac_of_stops h, scanExp_of_stops h, and_self,
      Nat.ofDigitChars_ten_toDigits, habs, Option.pure_def]
  · rename_i hneg
    have habs : (n.natAbs : ℤ) = n := by omega
    have hhead := head_toDigits_ne n.natAbs rest
    simp only [scanNumber, hhead, if_false, hscan, Option.bind_eq_bind, Option.bind_some,
      scanFrac_of_stops h, scanExp_of_stops h, and_self, if_true, Nat.ofDigitChars_ten_toDigits,
      habs, Option.pure_def]

theorem scanKeyword_digit (readFloat : List Char → F) {d : Char} (hd : d.isDigit = true)
    (rest : List Char) :
    scanKeyword readFloat (d :: rest) = none ∧ scanKeyword readFloat ('-' :: d :: rest) = none := by
  have hne : ∀ ch : Char, ch.isDigit = false → ch ≠ d := by
    rintro ch hch rfl
    exact Bool.false_ne_true (hch.symm.trans hd)
  have hn := hne 'n' (by decide)
  have ht := hne 't' (by decide)
  have hf := hne 'f' (by decide)
  have hN := hne 'N' (by decide)
  have hI := hne 'I' (by decide)
  have hm := hne '-' (by decide)
  constructor
  · simp [scanKeyword, keywords, List.isPrefixOf?, hn, ht, hf, hN, hI, hm]
  · simp [scanKeyword, keywords, List.isPrefixOf?, hI]

theorem intText_head (n : ℤ) :
    ∃ d ds, d.isDigit = true ∧ (intText n = d :: ds ∨ intText n = '-' :: d :: ds) := by
  have hdigits : ∃ d ds, d.isDigit = true ∧ Nat.toDigits 10 n.natAbs = d :: ds := by
    rcases toDigits_cases n.natAbs with hzero | ⟨d, ds, heq, -, hd⟩
    · exact ⟨'0', [], by decide, hzero⟩
    · exact ⟨d, ds, hd, heq⟩
  obtain ⟨d, ds, hd, heq⟩ := hdigits
  refine ⟨d, ds, hd, ?_⟩
  unfold intText
  split
  · exact Or.inr (by rw [heq])
  · exact Or.inl heq

/-- A character a value may start with. -/
def Starts (ch : Char) : Prop := isWs ch = false ∧ ch ≠ ']'

theorem starts_digit {d : Char} (hd : d.isDigit = true) :
    Starts d ∧ d ≠ '"' ∧ d ≠ '{' ∧ d ≠ '[' := by
  have hne : ∀ ch : Char, ch.isDigit = false → d ≠ ch := by
    rintro ch hch rfl
    exact Bool.false_ne_true (hch.symm.trans hd)
  refine ⟨⟨?_, hne _ (by decide)⟩, hne _ (by decide), hne _ (by decide), hne _ (by decide)⟩
  simp [isWs, hne ' ' (by decide), hne '\t' (by decide), hne '\n' (by decide), hne '\r' (by decide)]

theorem starts_dumps (repr : F → List Char) {v : Value F} (h : v.Plain) :
    ∃ ch rest, dumps repr v = ch :: rest ∧ Starts ch := by
  have hstart : ∀ {ch : Char}, isWs ch = false → ch ≠ ']' → Starts ch := And.intro
  cases v with
  | null => exact ⟨'n', _, by rw [dumps]; rfl, hstart (by decide) (by decide)⟩
  | bool b =>
      cases b with
      | true => exact ⟨'t', _, by rw [dumps]; rfl, hstart (by decide) (by decide)⟩
      | false => exact ⟨'f', _, by rw [dumps]; rfl, hstart (by decide) (by decide)⟩
  | int n =>
      obtain ⟨d, ds, hd, heq | heq⟩ := intText_head n
      · exact ⟨d, ds, by rw [dumps, heq], (starts_digit hd).1⟩
      · exact ⟨'-', _, by rw [dumps, heq], hstart (by decide) (by decide)⟩
  | float x => exact absurd h (by simp [Value.Plain])
  | str t => exact ⟨'"', _, by rw [dumps]; rfl, hstart (by decide) (by decide)⟩
  | arr items =>
      cases items with
      | nil => exact ⟨'[', _, by rw [dumps], hstart (by decide) (by decide)⟩
      | cons v vs => exact ⟨'[', _, by rw [dumps], hstart (by decide) (by decide)⟩
  | obj members =>
      cases members with
      | nil => exact ⟨'{', _, by rw [dumps], hstart (by decide) (by decide)⟩
      | cons m ms => exact ⟨'{', _, by rw [dumps], hstart (by decide) (by decide)⟩

theorem skipWs_cons {ch : Char} (h : isWs ch = false) (rest : List Char) :
    skipWs (ch :: rest) = ch :: rest := by
  simp [skipWs, h]

theorem dumpString_append (t : Text) (rest : List Char) :
    dumpString t ++ rest = '"' :: (t.flatMap escape ++ '"' :: rest) := by
  simp [dumpString]

theorem scanString_dumpString {t : Text} (h : t.Whole) (rest : List Char) :
    ∃ body, dumpString t ++ rest = '"' :: body ∧ scanString body = some (t, rest) :=
  ⟨_, dumpString_append t rest, scanString_flatMap_escape h rest⟩

theorem scanOnce_int (readFloat : List Char → F) (n : ℕ) (i : ℤ) {rest : List Char}
    (h : Stops rest) : scanOnce readFloat (n + 1) (intText i ++ rest) = some (.int i, rest) := by
  have hnumber := scanNumber_intText readFloat i h
  obtain ⟨d, ds, hd, heq | heq⟩ := intText_head i
  · obtain ⟨-, hquote, hbrace, hbracket⟩ := starts_digit hd
    rw [heq, List.cons_append] at hnumber ⊢
    rw [scanOnce, if_neg hquote, if_neg hbrace, if_neg hbracket,
      (scanKeyword_digit readFloat hd _).1, Option.none_or, hnumber]
  · rw [heq, List.cons_append, List.cons_append] at hnumber ⊢
    rw [scanOnce, if_neg (by decide), if_neg (by decide), if_neg (by decide),
      (scanKeyword_digit readFloat hd _).2, Option.none_or, hnumber]

/-- What follows an item: a comma or a bracket. -/
theorem stops_dumpItems (repr : F → List Char) (vs : List (Value F)) (rest : List Char) :
    Stops (dumpItems repr vs ++ rest) := by
  cases vs with
  | nil => rw [dumpItems]; exact stops_cons (by decide)
  | cons v vs => rw [dumpItems]; exact stops_cons (by decide)

theorem stops_dumpMembers (repr : F → List Char) (ms : List (Text × Value F)) (rest : List Char) :
    Stops (dumpMembers repr ms ++ rest) := by
  cases ms with
  | nil => rw [dumpMembers]; exact stops_cons (by decide)
  | cons m ms => rw [dumpMembers]; exact stops_cons (by decide)

theorem dumpItems_length_pos (repr : F → List Char) (vs : List (Value F)) :
    0 < (dumpItems repr vs).length := by
  cases vs with
  | nil => simp [dumpItems]
  | cons v vs => simp [dumpItems]

mutual
/-- **A plain document is read back** from its text, whatever follows it that does not go on with a
number. -/
theorem scanOnce_dumps (repr : F → List Char) (readFloat : List Char → F) :
    ∀ (v : Value F) (n : ℕ) (rest : List Char), v.Plain → (dumps repr v).length ≤ n → Stops rest →
      scanOnce readFloat n (dumps repr v ++ rest) = some (v, rest)
  | v, 0, rest, hplain, hlen, _ => by
      obtain ⟨ch, body, heq, -⟩ := starts_dumps repr hplain
      rw [heq] at hlen
      simp at hlen
  | .null, n + 1, rest, _, _, _ => by
      rw [dumps]
      rfl
  | .bool true, n + 1, rest, _, _, _ => by
      rw [dumps]
      rfl
  | .bool false, n + 1, rest, _, _, _ => by
      rw [dumps]
      rfl
  | .int i, n + 1, rest, _, _, hstops => by
      rw [dumps]
      exact scanOnce_int readFloat n i hstops
  | .float _, n + 1, _, hplain, _, _ => absurd hplain (by simp [Value.Plain])
  | .str t, n + 1, rest, hplain, _, _ => by
      rw [Value.Plain] at hplain
      obtain ⟨body, heq, hscan⟩ := scanString_dumpString hplain rest
      rw [dumps, heq, scanOnce, if_pos rfl, hscan]
      rfl
  | .arr [], n + 1, rest, _, _, _ => by
      rw [dumps]
      rfl
  | .arr (v :: vs), n + 1, rest, hplain, hlen, _ => by
      rw [Value.Plain] at hplain
      rw [dumps, List.length_cons] at hlen
      have hitems := scanItems_dumps repr readFloat v vs n rest hplain (by omega)
      obtain ⟨ch, body, heq, hch⟩ := starts_dumps repr hplain.1
      rw [dumps, List.cons_append]
      rw [heq, List.cons_append, List.cons_append] at hitems ⊢
      have hskip := skipWs_cons hch.1 (body ++ dumpItems repr vs ++ rest)
      refine scanOnce_iff.mpr (Or.inr (Or.inr (Or.inl ⟨_, rfl, Or.inr ⟨_, ?_, ?_, rfl⟩⟩)))
      · rw [hskip]
        exact fun h => hch.2 (Option.some.inj h)
      · rw [hskip]
        exact hitems
  | .obj [], n + 1, rest, _, _, _ => by
      rw [dumps]
      rfl
  | .obj ((k, v) :: ms), n + 1, rest, hplain, hlen, _ => by
      rw [Value.Plain] at hplain
      rw [dumps, List.length_cons] at hlen
      have hmembers := scanMembers_dumps repr readFloat k v ms n rest hplain (by omega)
      rw [dumps, List.cons_append]
      rw [List.append_assoc, dumpString_append] at hmembers ⊢
      refine scanOnce_iff.mpr (Or.inr (Or.inl ⟨_, rfl, Or.inr ⟨_, ?_, ?_, rfl⟩⟩))
      · rw [skipWs_cons (by decide)]
        simp
      · rw [skipWs_cons (by decide)]
        exact hmembers

theorem scanItems_dumps (repr : F → List Char) (readFloat : List Char → F) :
    ∀ (v : Value F) (vs : List (Value F)) (n : ℕ) (rest : List Char), PlainItems (v :: vs) →
      (dumps repr v ++ dumpItems repr vs).length ≤ n →
      scanItems readFloat n (dumps repr v ++ dumpItems repr vs ++ rest) = some (v :: vs, rest)
  | v, vs, 0, rest, _, hlen => by
      have hpos := dumpItems_length_pos repr vs
      rw [List.length_append] at hlen
      omega
  | v, vs, n + 1, rest, hplain, hlen => by
      rw [PlainItems] at hplain
      rw [List.length_append] at hlen
      have hpos := dumpItems_length_pos repr vs
      have hfirst := scanOnce_dumps repr readFloat v n (dumpItems repr vs ++ rest) hplain.1
        (by omega) (stops_dumpItems repr vs rest)
      rw [List.append_assoc]
      match vs, hplain, hlen, hfirst with
      | [], _, _, hfirst =>
          rw [dumpItems] at hfirst ⊢
          exact scanItems_iff.mpr ⟨v, _, hfirst, Or.inl ⟨rfl, rfl⟩⟩
      | w :: ws, hplain, hlen, hfirst =>
          have hws := hplain.2
          rw [dumpItems, List.length_cons] at hlen
          have htail := scanItems_dumps repr readFloat w ws n rest hws (by omega)
          have hskip : skipWs (dumps repr w ++ dumpItems repr ws ++ rest) =
              dumps repr w ++ dumpItems repr ws ++ rest := by
            rw [PlainItems] at hws
            obtain ⟨ch, body, heq, hch, -⟩ := starts_dumps repr hws.1
            rw [heq]
            exact skipWs_cons hch _
          rw [dumpItems] at hfirst ⊢
          rw [← hskip] at htail
          exact scanItems_iff.mpr ⟨v, _, hfirst, Or.inr ⟨_, _, rfl, htail, rfl⟩⟩

theorem scanMembers_dumps (repr : F → List Char) (readFloat : List Char → F) :
    ∀ (k : Text) (v : Value F) (ms : List (Text × Value F)) (n : ℕ) (rest : List Char),
      PlainMembers ((k, v) :: ms) →
      (dumpString k ++ ':' :: (dumps repr v ++ dumpMembers repr ms)).length ≤ n →
      scanMembers readFloat n (dumpString k ++ ':' :: (dumps repr v ++ dumpMembers repr ms) ++ rest) =
        some ((k, v) :: ms, rest)
  | k, v, ms, 0, rest, _, hlen => by simp at hlen
  | k, v, ms, n + 1, rest, hplain, hlen => by
      rw [PlainMembers] at hplain
      obtain ⟨hk, hv, hms⟩ := hplain
      simp only [List.length_append, List.length_cons] at hlen
      have hfirst := scanOnce_dumps repr readFloat v n (dumpMembers repr ms ++ rest) hv
        (by omega) (stops_dumpMembers repr ms rest)
      obtain ⟨body, hbody, hscan⟩ :=
        scanString_dumpString hk (':' :: (dumps repr v ++ (dumpMembers repr ms ++ rest)))
      rw [List.append_assoc, List.cons_append, List.append_assoc, hbody]
      have hskip : skipWs (dumps repr v ++ (dumpMembers repr ms ++ rest)) =
          dumps repr v ++ (dumpMembers repr ms ++ rest) := by
        obtain ⟨ch, text, heq, hch, -⟩ := starts_dumps repr hv
        rw [heq]
        exact skipWs_cons hch _
      rw [← hskip] at hfirst
      match ms, hms, hlen, hfirst, hscan with
      | [], _, _, hfirst, hscan =>
          rw [dumpMembers] at hfirst hscan
          exact scanMembers_iff.mpr
            ⟨body, k, _, _, v, _, rfl, hscan, rfl, hfirst, Or.inl ⟨rfl, rfl⟩⟩
      | (k', w) :: ms', hms, hlen, hfirst, hscan =>
          rw [dumpMembers, List.length_cons] at hlen
          have htail := scanMembers_dumps repr readFloat k' w ms' n rest hms (by omega)
          rw [List.append_assoc, dumpString_append] at htail
          rw [dumpMembers, List.cons_append, List.append_assoc, dumpString_append] at hfirst hscan
          exact scanMembers_iff.mpr
            ⟨body, k, _, _, v, _, rfl, hscan, rfl, hfirst, Or.inr ⟨_, _, rfl, htail, rfl⟩⟩
end

mutual
/-- A plain document is written in printable ASCII, on one line. -/
theorem printable_dumps (repr : F → List Char) :
    ∀ (v : Value F), v.Plain → ∀ ch ∈ dumps repr v, Printable ch
  | .null, _, ch, h => by
      rw [dumps] at h
      exact printable_of_all (by decide) h
  | .bool true, _, ch, h => by
      rw [dumps] at h
      exact printable_of_all (by decide) h
  | .bool false, _, ch, h => by
      rw [dumps] at h
      exact printable_of_all (by decide) h
  | .int n, _, ch, h => by
      have hdigit : ∀ d : Char, d.isDigit = true → Printable d := by
        intro d hd
        simp only [Char.isDigit, Bool.and_eq_true, decide_eq_true_eq, ge_iff_le,
          UInt32.le_iff_toNat_le] at hd
        obtain ⟨hlo, hhi⟩ := hd
        exact ⟨Nat.le_trans (by decide) hlo, Nat.lt_of_le_of_lt hhi (by decide)⟩
      have hall : ∀ d ∈ Nat.toDigits 10 n.natAbs, Printable d := fun d hd =>
        hdigit d (Nat.isDigit_of_mem_toDigits (by decide) (by decide) hd)
      rw [dumps, intText] at h
      split at h
      · rcases List.mem_cons.mp h with rfl | h
        · exact ⟨by decide, by decide⟩
        · exact hall ch h
      · exact hall ch h
  | .float _, hplain, _, _ => absurd hplain (by simp [Value.Plain])
  | .str t, _, ch, h => by
      rw [dumps] at h
      exact printable_dumpString h
  | .arr [], _, ch, h => by
      rw [dumps] at h
      exact printable_of_all (by decide) h
  | .arr (v :: vs), hplain, ch, h => by
      rw [Value.Plain, PlainItems] at hplain
      rw [dumps, List.mem_cons, List.mem_append] at h
      rcases h with rfl | h | h
      · exact ⟨by decide, by decide⟩
      · exact printable_dumps repr v hplain.1 ch h
      · exact printable_dumpItems repr vs hplain.2 ch h
  | .obj [], _, ch, h => by
      rw [dumps] at h
      exact printable_of_all (by decide) h
  | .obj ((k, v) :: ms), hplain, ch, h => by
      rw [Value.Plain, PlainMembers] at hplain
      rw [dumps, List.mem_cons, List.mem_append, List.mem_cons, List.mem_append] at h
      rcases h with rfl | h | rfl | h | h
      · exact ⟨by decide, by decide⟩
      · exact printable_dumpString h
      · exact ⟨by decide, by decide⟩
      · exact printable_dumps repr v hplain.2.1 ch h
      · exact printable_dumpMembers repr ms hplain.2.2 ch h

theorem printable_dumpItems (repr : F → List Char) :
    ∀ (vs : List (Value F)), PlainItems vs → ∀ ch ∈ dumpItems repr vs, Printable ch
  | [], _, ch, h => by
      rw [dumpItems, List.mem_singleton] at h
      exact h ▸ ⟨by decide, by decide⟩
  | v :: vs, hplain, ch, h => by
      rw [PlainItems] at hplain
      rw [dumpItems, List.mem_cons, List.mem_append] at h
      rcases h with rfl | h | h
      · exact ⟨by decide, by decide⟩
      · exact printable_dumps repr v hplain.1 ch h
      · exact printable_dumpItems repr vs hplain.2 ch h

theorem printable_dumpMembers (repr : F → List Char) :
    ∀ (ms : List (Text × Value F)), PlainMembers ms → ∀ ch ∈ dumpMembers repr ms, Printable ch
  | [], _, ch, h => by
      rw [dumpMembers, List.mem_singleton] at h
      exact h ▸ ⟨by decide, by decide⟩
  | (k, v) :: ms, hplain, ch, h => by
      rw [PlainMembers] at hplain
      rw [dumpMembers, List.mem_cons, List.mem_append, List.mem_cons, List.mem_append] at h
      rcases h with rfl | h | rfl | h | h
      · exact ⟨by decide, by decide⟩
      · exact printable_dumpString h
      · exact ⟨by decide, by decide⟩
      · exact printable_dumps repr v hplain.2.1 ch h
      · exact printable_dumpMembers repr ms hplain.2.2 ch h
end

theorem stops_of_ws {ws : List Char} (h : ∀ ch ∈ ws, isWs ch = true) : Stops ws := by
  intro ch hch
  have hws := h ch (List.mem_of_mem_head? hch)
  simp only [isWs, Bool.or_eq_true, decide_eq_true_eq] at hws
  rcases hws with ((rfl | rfl) | rfl) | rfl
  all_goals decide

/-- **Round trip.** A plain document is read from its text, with whitespace after it. -/
theorem loads_dumps (repr : F → List Char) (readFloat : List Char → F) {v : Value F} (h : v.Plain)
    {ws : List Char} (hws : ∀ ch ∈ ws, isWs ch = true) :
    loads readFloat (dumps repr v ++ ws) = some v := by
  have hskip : skipWs (dumps repr v ++ ws) = dumps repr v ++ ws := by
    obtain ⟨ch, body, heq, hch, -⟩ := starts_dumps repr h
    rw [heq]
    exact skipWs_cons hch _
  have hscan := scanOnce_dumps repr readFloat v (2 * (dumps repr v ++ ws).length + 1) ws h
    (by rw [List.length_append]; omega) (stops_of_ws hws)
  rw [loads, hskip, hscan]
  exact if_pos (List.dropWhile_eq_nil_iff.mpr hws)

/-! ## What a scan leaves -/

/-- A scan took something off the front of `s` and left `rest`. -/
def Takes (s rest : List Char) : Prop := ∃ taken, taken ≠ [] ∧ s = taken ++ rest

theorem takes_cons (ch : Char) (rest : List Char) : Takes (ch :: rest) rest :=
  ⟨[ch], List.cons_ne_nil _ _, rfl⟩

theorem Takes.of_suffix {ch : Char} {s rest : List Char} (h : rest <:+ s) : Takes (ch :: s) rest := by
  obtain ⟨front, rfl⟩ := h
  exact ⟨ch :: front, List.cons_ne_nil _ _, rfl⟩

theorem Takes.suffix {s rest : List Char} (h : Takes s rest) : rest <:+ s := by
  obtain ⟨taken, -, rfl⟩ := h
  exact List.suffix_append taken rest

theorem Takes.length_lt {s rest : List Char} (h : Takes s rest) : rest.length < s.length := by
  obtain ⟨taken, hne, rfl⟩ := h
  have hpos := List.length_pos_of_ne_nil hne
  rw [List.length_append]
  omega

/-- A scan of a tail, or one whose rest is scanned on, takes something as well. -/
theorem Takes.mono {s s' rest rest' : List Char} (h : Takes s rest) (hs : s <:+ s')
    (hrest : rest' <:+ rest) : Takes s' rest' := by
  obtain ⟨front, rfl⟩ := hs
  obtain ⟨taken, hne, rfl⟩ := h
  obtain ⟨more, rfl⟩ := hrest
  refine ⟨front ++ (taken ++ more), ?_, by simp only [List.append_assoc]⟩
  simp [hne]

theorem skipWs_suffix (s : List Char) : skipWs s <:+ s := List.dropWhile_suffix isWs

/-- What stands after the whitespace stands in the text. -/
theorem suffix_of_skipWs {s rest : List Char} {ch : Char} (h : skipWs s = ch :: rest) : rest <:+ s :=
  (List.suffix_cons ch rest).trans (h ▸ skipWs_suffix s)

theorem scanUnits_takes {s : List Char} {us : List ℕ} {rest : List Char}
    (h : scanUnits s = some (us, rest)) : Takes s rest := by
  fun_induction scanUnits s generalizing us rest with
  | case1 => cases h
  | case2 => cases h; exact takes_cons _ _
  | case3 => cases h
  | case4 a b c d left _ ih =>
      obtain ⟨u, -, h⟩ := Option.bind_eq_some_iff.mp h
      obtain ⟨⟨us', left'⟩, hleft, h⟩ := Option.bind_eq_some_iff.mp h
      cases h
      exact (ih hleft).mono (List.suffix_append ['\\', 'u', a, b, c, d] left) List.suffix_rfl
  | case5 => cases h
  | case6 e left _ _ ih =>
      obtain ⟨u, -, h⟩ := Option.bind_eq_some_iff.mp h
      obtain ⟨⟨us', left'⟩, hleft, h⟩ := Option.bind_eq_some_iff.mp h
      cases h
      exact (ih hleft).mono (List.suffix_append ['\\', e] left) List.suffix_rfl
  | case7 => cases h
  | case8 e left _ _ _ ih =>
      obtain ⟨⟨us', left'⟩, hleft, h⟩ := Option.bind_eq_some_iff.mp h
      cases h
      exact (ih hleft).mono (List.suffix_cons e left) List.suffix_rfl

theorem scanString_takes {s : List Char} {t : Text} {rest : List Char}
    (h : scanString s = some (t, rest)) : Takes s rest := by
  obtain ⟨⟨us, left⟩, hscan, h⟩ := Option.bind_eq_some_iff.mp h
  cases h
  exact scanUnits_takes hscan

theorem scanInt_takes {s digits rest : List Char} (h : scanInt s = some (digits, rest)) :
    Takes s rest := by
  cases s with
  | nil => cases h
  | cons ch left =>
      rw [scanInt] at h
      split_ifs at h
      · cases h
        exact takes_cons _ _
      · cases h
        exact Takes.of_suffix (List.dropWhile_suffix _)

theorem scanFrac_suffix (s : List Char) : (scanFrac s).2 <:+ s := by
  unfold scanFrac
  split
  · rename_i ch d left
    split
    · exact (List.dropWhile_suffix _).trans (List.suffix_append [ch, d] left)
    · exact List.suffix_rfl
  · exact List.suffix_rfl

theorem scanSign_suffix (s : List Char) : (scanSign s).2 <:+ s := by
  unfold scanSign
  split
  · split
    · exact List.suffix_cons _ _
    · exact List.suffix_rfl
  · exact List.suffix_rfl

theorem scanExp_suffix (s : List Char) : (scanExp s).2 <:+ s := by
  unfold scanExp
  split
  · exact List.suffix_rfl
  · rename_i ch left
    have hsign := scanSign_suffix left
    split_ifs
    · split
      · rename_i sign d digits heq
        rw [heq] at hsign
        split_ifs
        · exact (List.dropWhile_suffix _).trans
            ((List.suffix_cons d digits).trans (hsign.trans (List.suffix_cons ch left)))
        · exact List.suffix_rfl
      · exact List.suffix_rfl
    · exact List.suffix_rfl

theorem scanNumber_takes {readFloat : List Char → F} {s : List Char} {v : Value F}
    {rest : List Char} (h : scanNumber readFloat s = some (v, rest)) : Takes s rest := by
  obtain ⟨⟨digits, left⟩, hscan, h⟩ := Option.bind_eq_some_iff.mp h
  have hbody : (if s.head? = some '-' then s.tail else s) <:+ s := by
    split_ifs
    · exact List.tail_suffix s
    · exact List.suffix_rfl
  have hleft : (scanExp (scanFrac left).2).2 <:+ left :=
    (scanExp_suffix _).trans (scanFrac_suffix left)
  have htakes := (scanInt_takes hscan).mono (by simpa using hbody) hleft
  dsimp only at h
  split_ifs at h
  all_goals
    cases h
    exact htakes

theorem scanKeyword_takes {readFloat : List Char → F} {s : List Char} {v : Value F}
    {rest : List Char} (h : scanKeyword readFloat s = some (v, rest)) : Takes s rest := by
  obtain ⟨⟨word, w⟩, hmem, h⟩ := List.exists_of_findSome?_eq_some h
  obtain ⟨left, hleft, h⟩ := Option.map_eq_some_iff.mp h
  cases h
  have hne : word ≠ [] := by
    simp only [keywords, List.mem_cons, List.not_mem_nil, or_false, Prod.mk.injEq] at hmem
    rcases hmem with h | h | h | h | h | h
    all_goals
      rw [h.1]
      decide
  exact ⟨word, hne, (List.append_eq_of_isPrefixOf?_eq_some hleft).symm⟩

/-- **Every scanner leaves a tail** of what it was given, and less of it. -/
theorem scan_takes (readFloat : List Char → F) (n : ℕ) :
    (∀ {s v rest}, scanOnce readFloat n s = some (v, rest) → Takes s rest) ∧
    (∀ {s vs rest}, scanItems readFloat n s = some (vs, rest) → Takes s rest) ∧
    (∀ {s ms rest}, scanMembers readFloat n s = some (ms, rest) → Takes s rest) := by
  induction n with
  | zero =>
      refine ⟨?_, ?_, ?_⟩
      all_goals
        intro s v rest h
        cases h
  | succ n ih =>
      obtain ⟨ihOnce, ihItems, ihMembers⟩ := ih
      refine ⟨fun h => ?_, fun h => ?_, fun h => ?_⟩
      · rcases scanOnce_iff.mp h with ⟨body, t, rfl, hscan, -⟩ | ⟨body, rfl, hobj⟩ |
          ⟨body, rfl, harr⟩ | ⟨ch, body, -, -, -, -, hflat⟩
        · exact (scanString_takes hscan).mono (List.suffix_cons _ _) List.suffix_rfl
        · rcases hobj with ⟨heq, -⟩ | ⟨ms, -, hscan, -⟩
          · exact Takes.of_suffix (suffix_of_skipWs heq)
          · exact Takes.of_suffix ((ihMembers hscan).suffix.trans (skipWs_suffix body))
        · rcases harr with ⟨heq, -⟩ | ⟨vs, -, hscan, -⟩
          · exact Takes.of_suffix (suffix_of_skipWs heq)
          · exact Takes.of_suffix ((ihItems hscan).suffix.trans (skipWs_suffix body))
        · rcases Option.or_eq_some_iff.mp hflat with hword | ⟨-, hnumber⟩
          · exact scanKeyword_takes hword
          · exact scanNumber_takes hnumber
      · obtain ⟨v, left, hscan, hend⟩ := scanItems_iff.mp h
        refine (ihOnce hscan).mono List.suffix_rfl ?_
        rcases hend with ⟨heq, -⟩ | ⟨more, vs', heq, htail, -⟩
        · exact suffix_of_skipWs heq
        · exact (ihItems htail).suffix.trans ((skipWs_suffix more).trans (suffix_of_skipWs heq))
      · obtain ⟨body, k, left, value, v, after, rfl, hkey, hcolon, hscan, hend⟩ :=
          scanMembers_iff.mp h
        have hvalue : after <:+ body := (ihOnce hscan).suffix.trans <| (skipWs_suffix value).trans <|
          (suffix_of_skipWs hcolon).trans (scanString_takes hkey).suffix
        refine Takes.of_suffix (List.IsSuffix.trans ?_ hvalue)
        rcases hend with ⟨heq, -⟩ | ⟨more, ms', heq, htail, -⟩
        · exact suffix_of_skipWs heq
        · exact (ihMembers htail).suffix.trans ((skipWs_suffix more).trans (suffix_of_skipWs heq))

/-- The members of an object end in a closing brace. -/
theorem brace_mem_of_scanMembers {readFloat : List Char → F} {n : ℕ} {s : List Char}
    {ms : List (Text × Value F)} {rest : List Char}
    (h : scanMembers readFloat n s = some (ms, rest)) : '}' ∈ s := by
  induction n generalizing s ms with
  | zero => cases h
  | succ n ih =>
      obtain ⟨body, k, left, value, v, after, rfl, hkey, hcolon, hscan, hend⟩ :=
        scanMembers_iff.mp h
      have hvalue : after <:+ body := ((scan_takes readFloat n).1 hscan).suffix.trans <|
        (skipWs_suffix value).trans <|
          (suffix_of_skipWs hcolon).trans (scanString_takes hkey).suffix
      refine List.mem_cons_of_mem _ (hvalue.subset ?_)
      rcases hend with ⟨heq, -⟩ | ⟨more, ms', heq, htail, -⟩
      · exact (skipWs_suffix after).subset (heq ▸ List.mem_cons_self)
      · exact (suffix_of_skipWs heq).subset ((skipWs_suffix more).subset (ih htail))

/-- **An object that was cut short is no document**: what starts with an opening brace and is read has
a closing one. -/
theorem brace_mem_of_loads {readFloat : List Char → F} {body : List Char} {v : Value F}
    (h : loads readFloat ('{' :: body) = some v) : '}' ∈ body := by
  unfold loads at h
  split at h
  · rename_i w rest hscan
    rw [show skipWs ('{' :: body) = '{' :: body from rfl] at hscan
    rcases scanOnce_iff.mp hscan with ⟨_, _, hhead, -⟩ | ⟨body', hhead, hobj⟩ | ⟨_, hhead, -⟩ |
      ⟨ch, _, hhead, -, hne, -⟩
    · cases hhead
    · cases hhead
      rcases hobj with ⟨heq, -⟩ | ⟨ms, -, hmembers, -⟩
      · exact (skipWs_suffix body).subset (heq ▸ List.mem_cons_self)
      · exact (skipWs_suffix body).subset (brace_mem_of_scanMembers hmembers)
    · cases hhead
    · cases hhead
      exact absurd rfl hne
  · cases h

/-- Characters below the closing brace give a literal without one. -/
theorem brace_notMem_dumpString {t : Text} (h : ∀ p ∈ t, p.val < 125) : '}' ∉ dumpString t := by
  have hescape : ∀ n < 125, '}' ∉ escape (Fin.ofNat 1114112 n) := by decide +kernel
  have hbody : '}' ∉ t.flatMap escape := by
    intro hmem
    obtain ⟨p, hp, hmem⟩ := List.mem_flatMap.mp hmem
    have hself : Fin.ofNat 1114112 p.val = p := Fin.ofNat_val_eq_self p
    exact hescape p.val (h p hp) (hself.symm ▸ hmem)
  simp [dumpString, hbody]

theorem brace_notMem_intText (n : ℤ) : '}' ∉ intText n := by
  have hdigits : ∀ m : ℕ, '}' ∉ Nat.toDigits 10 m := fun m hmem =>
    absurd (Nat.isDigit_of_mem_toDigits (by decide) (by decide) hmem) (by decide)
  unfold intText
  split
  · simp [hdigits]
  · exact hdigits _

/-! ## The fuel is enough -/

/-- **The fuel is no bound.** What any fuel finds, twice the length of the text and one finds too. -/
theorem scan_fuel (readFloat : List Char → F) (n : ℕ) :
    (∀ {s v rest m}, scanOnce readFloat n s = some (v, rest) → 2 * s.length + 1 ≤ m →
      scanOnce readFloat m s = some (v, rest)) ∧
    (∀ {s vs rest m}, scanItems readFloat n s = some (vs, rest) → 2 * s.length + 2 ≤ m →
      scanItems readFloat m s = some (vs, rest)) ∧
    (∀ {s ms rest m}, scanMembers readFloat n s = some (ms, rest) → 2 * s.length + 2 ≤ m →
      scanMembers readFloat m s = some (ms, rest)) := by
  induction n with
  | zero =>
      refine ⟨?_, ?_, ?_⟩
      all_goals
        intro s v rest m h
        cases h
  | succ n ih =>
      obtain ⟨ihOnce, ihItems, ihMembers⟩ := ih
      have hskip : ∀ s, (skipWs s).length ≤ s.length := fun s => (skipWs_suffix s).length_le
      refine ⟨?_, ?_, ?_⟩
      all_goals
        rintro s found rest m h hm
        obtain ⟨m, rfl⟩ : ∃ m', m = m' + 1 := ⟨m - 1, by omega⟩
      · apply scanOnce_iff.mpr
        rcases scanOnce_iff.mp h with hstr | ⟨body, rfl, hobj⟩ | ⟨body, rfl, harr⟩ | hflat
        · exact Or.inl hstr
        · refine Or.inr (Or.inl ⟨body, rfl, hobj.imp_right ?_⟩)
          rintro ⟨ms, hhead, hscan, hv⟩
          have hbody := hskip body
          rw [List.length_cons] at hm
          exact ⟨ms, hhead, ihMembers hscan (by omega), hv⟩
        · refine Or.inr (Or.inr (Or.inl ⟨body, rfl, harr.imp_right ?_⟩))
          rintro ⟨vs, hhead, hscan, hv⟩
          have hbody := hskip body
          rw [List.length_cons] at hm
          exact ⟨vs, hhead, ihItems hscan (by omega), hv⟩
        · exact Or.inr (Or.inr (Or.inr hflat))
      · apply scanItems_iff.mpr
        obtain ⟨v, left, hscan, hend⟩ := scanItems_iff.mp h
        refine ⟨v, left, ihOnce hscan (by omega), hend.imp_right ?_⟩
        rintro ⟨more, vs', heq, htail, hvs⟩
        have hvalue := ((scan_takes readFloat n).1 hscan).length_lt
        have hleft := hskip left
        have hmore := hskip more
        rw [heq, List.length_cons] at hleft
        exact ⟨more, vs', heq, ihItems htail (by omega), hvs⟩
      · apply scanMembers_iff.mpr
        obtain ⟨body, k, left, value, v, after, rfl, hkey, hcolon, hscan, hend⟩ :=
          scanMembers_iff.mp h
        have hshort := (scanString_takes hkey).length_lt
        have hleft := hskip left
        have hvalue := hskip value
        rw [hcolon] at hleft
        rw [List.length_cons] at hleft hm
        refine ⟨body, k, left, value, v, after, rfl, hkey, hcolon, ihOnce hscan (by omega),
          hend.imp_right ?_⟩
        rintro ⟨more, ms', heq, htail, hms⟩
        have hscanned := ((scan_takes readFloat n).1 hscan).length_lt
        have hafter := hskip after
        have hmore := hskip more
        rw [heq, List.length_cons] at hafter
        exact ⟨more, ms', heq, ihMembers htail (by omega), hms⟩

/-- **What is read** is what the scanner finds with any fuel. -/
theorem loads_iff {readFloat : List Char → F} {s : List Char} {v : Value F} :
    loads readFloat s = some v ↔
      ∃ n rest, scanOnce readFloat n (skipWs s) = some (v, rest) ∧ skipWs rest = [] := by
  constructor
  · intro h
    unfold loads at h
    split at h
    · rename_i w rest hscan
      split_ifs at h with hrest
      cases h
      exact ⟨_, rest, hscan, hrest⟩
    · cases h
  · rintro ⟨n, rest, hscan, hrest⟩
    have hlen := (skipWs_suffix s).length_le
    have henough := (scan_fuel readFloat n).1 hscan (m := 2 * s.length + 1) (by omega)
    rw [loads, henough]
    exact if_pos hrest

end SparqControl.Lib.Json
