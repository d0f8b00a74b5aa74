/-
# SparqControl.CanDaemon.JsonLines — the lines the CAN daemon and its clients exchange.

Every message is one JSON object on one line: the writer appends a newline to the compact document and
the reader takes bytes up to the next newline. Since the writer escapes everything outside printable
ASCII, NO NEWLINE CAN STAND INSIDE A LINE, so a line read is a line written.

A message is written from a frame and read back into one: the id as a number, the data as
hexadecimal digits. The daemon reads more than its own client writes (an id as a string, a float or a
boolean, spaces between the bytes), and `txRequestOf` follows it there.

What the interpreter adds is a parameter: how it reads and writes floats, and the text of an exception.
-/
import SparqControl.CanDaemon.RxSubscribers
import SparqControl.Hal.ProcessClient
import SparqControl.Lib.Json

namespace SparqControl.CanDaemon

open SparqControl.Hal
open SparqControl.Lib.Json

/-! ## Lines of bytes -/

/-- `b"\n"`. -/
def newline : UInt8 := 10

/-- `str.encode("utf-8")`. -/
def encodeUtf8 (s : List Char) : List UInt8 := s.flatMap String.utf8EncodeChar

/-- `bytes.decode("utf-8")`. -/
def decodeUtf8 (bytes : List UInt8) : Option (List Char) :=
  bytes.toByteArray.utf8Decode?.map Array.toList

/-- `file_obj.readline()` on what is still to be read: the bytes up to a newline and the newline, or all
of them if there is none. -/
def readline : List UInt8 → List UInt8 × List UInt8
  | [] => ([], [])
  | b :: rest =>
      if b = newline then ([b], rest)
      else (b :: (readline rest).1, (readline rest).2)

theorem readline_append {line : List UInt8} (h : newline ∉ line) (rest : List UInt8) :
    readline (line ++ newline :: rest) = (line ++ [newline], rest) := by
  induction line with
  | nil => simp [readline]
  | cons b line ih =>
      have hb : b ≠ newline := fun hb => h (hb ▸ List.mem_cons_self)
      have htail := ih fun hmem => h (List.mem_cons_of_mem _ hmem)
      rw [List.cons_append, readline, if_neg hb, htail, List.cons_append]

theorem decodeUtf8_encodeUtf8 (s : List Char) : decodeUtf8 (encodeUtf8 s) = some s := by
  have h : (encodeUtf8 s).toByteArray.utf8Decode? = some s.toArray := List.utf8Decode?_utf8Encode
  rw [decodeUtf8, h]
  rfl

/-- Printable ASCII is encoded byte by byte. -/
theorem utf8EncodeChar_of_printable {ch : Char} (h : Printable ch) :
    String.utf8EncodeChar ch = [ch.val.toUInt8] := by
  obtain ⟨-, hhi⟩ := h
  refine String.utf8EncodeChar_eq_singleton (Char.utf8Size_eq_one_iff.mpr ?_)
  rw [UInt32.le_iff_toNat_le]
  exact Nat.le_of_lt_succ (Nat.lt_succ_of_lt hhi)

/-- None of the bytes of printable ASCII is a newline. -/
theorem newline_notMem_encodeUtf8 {s : List Char} (h : ∀ ch ∈ s, Printable ch) :
    newline ∉ encodeUtf8 s := by
  intro hmem
  obtain ⟨ch, hch, hbyte⟩ := List.mem_flatMap.mp hmem
  obtain ⟨hlo, hhi⟩ := h ch hch
  rw [utf8EncodeChar_of_printable (h ch hch), List.mem_singleton] at hbyte
  have hnat : newline.toNat = ch.val.toUInt8.toNat := congrArg UInt8.toNat hbyte
  rw [UInt32.toNat_toUInt8] at hnat
  have hval : ch.val.toNat = ch.toNat := rfl
  have hten : newline.toNat = 10 := rfl
  omega

/-- The first bytes of printable ASCII are its first characters. -/
theorem encodeUtf8_take {s : List Char} (h : ∀ ch ∈ s, Printable ch) (count : ℕ) :
    (encodeUtf8 s).take count = encodeUtf8 (s.take count) := by
  induction s generalizing count with
  | nil => simp [encodeUtf8]
  | cons ch s ih =>
      cases count with
      | zero => rfl
      | succ count =>
          have hch := utf8EncodeChar_of_printable (h ch List.mem_cons_self)
          have htail := ih (fun c hc => h c (List.mem_cons_of_mem _ hc)) count
          simp only [encodeUtf8, List.flatMap_cons, List.take_succ_cons, hch,
            List.singleton_append] at htail ⊢
          rw [htail]

/-! ## Messages -/

/-- What the interpreter does with floats and with the digits of other alphabets, and the texts it makes
of values and exceptions. -/
structure Interpreter (F : Type) where
  /-- `float.__repr__` -/
  repr : F → List Char
  /-- `float` of a numeral -/
  readFloat : List Char → F
  /-- `int` of a float -/
  intOfFloat : F → Option ℤ
  /-- `int` of a string -/
  intOfText : Text → Option ℤ
  /-- `bool` of a float -/
  isTrue : F → Bool
  /-- `str` of a value that is not a string -/
  str : Value F → String
  /-- `str` of the exception that stops a request from becoming a frame -/
  errorText : Value F → String

variable {F : Type} (py : Interpreter F)

/-- `_write_json_line`: the bytes it puts on the stream. -/
def writeJsonLine (message : Value F) : List UInt8 := encodeUtf8 (dumps py.repr message) ++ [newline]

/-- What `json.loads(line.decode("utf-8"))` gives. -/
def parseLine (line : List UInt8) : Option (Value F) := (decodeUtf8 line).bind (loads py.readFloat)

theorem newline_notMem_dumps {message : Value F} (h : message.Plain) :
    newline ∉ encodeUtf8 (dumps py.repr message) :=
  newline_notMem_encodeUtf8 (printable_dumps py.repr message h)

/-- **One line is read back**, and what follows it stays on the stream. -/
theorem readline_writeJsonLine {message : Value F} (h : message.Plain) (rest : List UInt8) :
    readline (writeJsonLine py message ++ rest) = (writeJsonLine py message, rest) := by
  rw [writeJsonLine, List.append_assoc, List.singleton_append,
    readline_append (newline_notMem_dumps py h)]

theorem parseLine_writeJsonLine {message : Value F} (h : message.Plain) :
    parseLine py (writeJsonLine py message) = some message := by
  have hbytes : writeJsonLine py message = encodeUtf8 (dumps py.repr message ++ ['\n']) := by
    rw [encodeUtf8, List.flatMap_append]
    rfl
  rw [parseLine, hbytes, decodeUtf8_encodeUtf8, Option.bind_some]
  refine loads_dumps py.repr py.readFloat h fun ch hch => ?_
  rw [List.mem_singleton] at hch
  subst hch
  rfl

/-! ## Texts and numbers in a message -/

theorem val_codePoint (c : Char) : (codePoint c).val = c.toNat := by
  have hvalid := c.valid
  have hlt : c.toNat < 0x110000 := by
    show c.val.toNat < _
    simp only [UInt32.isValidChar, Nat.isValidChar] at hvalid
    omega
  exact Nat.mod_eq_of_lt hlt

/-- No character is a surrogate, so the text of a literal is whole. -/
theorem whole_ofString (s : String) : (Text.ofString s).Whole := by
  refine Text.whole_of_notHigh fun p hp => ?_
  obtain ⟨c, -, rfl⟩ := List.mem_map.mp hp
  have hvalid := c.valid
  have hval : c.val.toNat = c.toNat := rfl
  rw [val_codePoint]
  simp only [isHigh, Bool.and_eq_false_iff, decide_eq_false_iff_not]
  simp only [UInt32.isValidChar, Nat.isValidChar] at hvalid
  omega

/-- A text as a string; a lone surrogate has no character and is replaced. -/
def textString (t : Text) : String := String.ofList (t.map fun p => Char.ofNat p.val)

theorem textString_ofString (s : String) : textString (Text.ofString s) = s := by
  have hmap : (Text.ofString s).map (fun p => Char.ofNat p.val) = s.toList := by
    rw [Text.ofString, List.map_map]
    refine (List.map_congr_left fun c _ => ?_).trans (List.map_id _)
    rw [Function.comp_apply, val_codePoint, Char.ofNat_toNat]
    rfl
  rw [textString, hmap, String.ofList_toList]

@[simp] theorem ofString_inj {a b : String} : Text.ofString a = Text.ofString b ↔ a = b := by
  refine ⟨fun h => ?_, congrArg _⟩
  rw [← textString_ofString a, h, textString_ofString]

/-- The two digits of a byte. -/
def byteHex (b : UInt8) : Text := [codePoint (hexDigit (b.toNat / 16)), codePoint (hexDigit (b.toNat % 16))]

/-- `bytes(data).hex()`. -/
def hexText (data : List UInt8) : Text := data.flatMap byteHex

/-- The whitespace `bytes.fromhex` skips between bytes. -/
def isHexSpace (p : CodePoint) : Bool := p.val = 32 || (9 ≤ p.val && p.val ≤ 13)

/-- The value of a hexadecimal digit of a text. -/
def hexOf (p : CodePoint) : Option ℕ := hexValue (Char.ofNat p.val)

/-- `bytes.fromhex`. -/
def fromHex : Text → Option (List UInt8)
  | [] => some []
  | p :: rest =>
      if isHexSpace p then fromHex rest
      else
        match rest with
        | [] => none
        | q :: rest => do
            let high ← hexOf p
            let low ← hexOf q
            let data ← fromHex rest
            return UInt8.ofNat (high * 16 + low) :: data

theorem hexOf_codePoint : ∀ d < 16,
    hexOf (codePoint (hexDigit d)) = some d ∧ isHexSpace (codePoint (hexDigit d)) = false := by
  decide

/-- **Data comes back** from its hexadecimal digits. -/
theorem fromHex_hexText (data : List UInt8) : fromHex (hexText data) = some data := by
  induction data with
  | nil => rfl
  | cons b data ih =>
      have hb := b.toNat_lt
      obtain ⟨hhigh, hspace⟩ := hexOf_codePoint (b.toNat / 16) (by omega)
      obtain ⟨hlow, -⟩ := hexOf_codePoint (b.toNat % 16) (by omega)
      have hbyte : b.toNat / 16 * 16 + b.toNat % 16 = b.toNat := by omega
      show fromHex (codePoint (hexDigit (b.toNat / 16)) :: codePoint (hexDigit (b.toNat % 16)) ::
        hexText data) = _
      rw [fromHex, hspace, if_neg Bool.false_ne_true]
      simp only [hhigh, hlow, ih, Option.bind_eq_bind, Option.bind_some, Option.pure_def, hbyte,
        UInt8.ofNat_toNat]

theorem whole_hexText (data : List UInt8) : (hexText data).Whole := by
  have hdigit : ∀ d < 16, isHigh (codePoint (hexDigit d)).val = false := by decide
  refine Text.whole_of_notHigh fun p hp => ?_
  obtain ⟨b, -, hp⟩ := List.mem_flatMap.mp hp
  have hb := b.toNat_lt
  rcases List.mem_pair.mp hp with rfl | rfl
  · exact hdigit _ (by omega)
  · exact hdigit _ (by omega)

/-! ## The messages -/

/-- A member with a constant key. -/
def member (key : String) (v : Value F) : Text × Value F := (Text.ofString key, v)

/-- A string value. -/
def text (s : String) : Value F := .str (Text.ofString s)

/-- `message.get(key) == value` for a string `value`. -/
def hasText (message : Value F) (key value : String) : Bool :=
  match message.get? (Text.ofString key) with
  | some (.str t) => t = Text.ofString value
  | _ => false

/-- `bool(value)`. -/
def truthy : Value F → Bool
  | .null => false
  | .bool b => b
  | .int n => n ≠ 0
  | .float x => py.isTrue x
  | .str t => !t.isEmpty
  | .arr items => !items.isEmpty
  | .obj members => !members.isEmpty

/-- `int(value)`; nothing where it raises. -/
def pyInt : Value F → Option ℤ
  | .bool b => some b.toInt
  | .int n => some n
  | .float x => py.intOfFloat x
  | .str t => py.intOfText t
  | .null | .arr _ | .obj _ => none

/-- `bytes.fromhex(str(value))`. A value that is neither a string nor an integer has a character in its
text that is no digit. -/
def pyFromHex : Value F → Option (List UInt8)
  | .str t => fromHex t
  | .int n => fromHex ((intText n).map codePoint)
  | _ => none

/-- The `tx` request of a client, as a message. -/
def txRequest (frame : CANFrame) : Value F :=
  .obj [member "type" (text "tx"), member "can_id" (.int frame.canId),
    member "data" (.str (hexText frame.data))]

/-- The `rx` message of a subscriber. -/
def rxMessage (frame : CANFrame) : Value F :=
  .obj [member "type" (text "rx"), member "can_id" (.int frame.canId),
    member "data" (.str (hexText frame.data))]

/-- The answer to the first message of a client. -/
def helloAckMessage : Value F := .obj [member "type" (text "hello_ack"), member "ok" (.bool true)]

/-- The answer to a request. -/
def txResult (ok : Bool) (error : Option String) : Value F :=
  .obj ([member "type" (text "tx_result"), member "ok" (.bool ok)] ++
    error.toList.map fun e => member "error" (text e))

/-- `CANFrame(can_id=int(message["can_id"]), data=bytes.fromhex(str(message["data"])))`; nothing where
an exception stops it. -/
def frameOf (message : Value F) : Option CANFrame := do
  let canId ← (message.get? (Text.ofString "can_id")).bind (pyInt py)
  let data ← (message.get? (Text.ofString "data")).bind pyFromHex
  return { canId := canId, data := data }

/-- The client's view of an answer. -/
def messageOf (message : Value F) : Message where
  type :=
    match message.get? (Text.ofString "type") with
    | some (.str t) => some (textString t)
    | _ => none
  ok := ((message.get? (Text.ofString "ok")).map (truthy py)).getD false
  error :=
    match message.get? (Text.ofString "error") with
    | some (.str t) => if t.isEmpty then none else some (textString t)
    | some v => if truthy py v then some (py.str v) else none
    | none => none

/-- What a line comes to for `_read_json_line`. -/
def lineOf (line : List UInt8) : Line :=
  if line = [] then .closed
  else
    match parseLine py line with
    | none => .undecodable
    | some (.obj members) => .object (messageOf py (.obj members))
    | some _ => .notAnObject

theorem plain_txRequest (frame : CANFrame) : (txRequest frame : Value F).Plain :=
  ⟨whole_ofString _, whole_ofString _, whole_ofString _, trivial, whole_ofString _,
    whole_hexText _, trivial⟩

theorem plain_rxMessage (frame : CANFrame) : (rxMessage frame : Value F).Plain :=
  ⟨whole_ofString _, whole_ofString _, whole_ofString _, trivial, whole_ofString _,
    whole_hexText _, trivial⟩

theorem plain_helloAckMessage : (helloAckMessage : Value F).Plain :=
  ⟨whole_ofString _, whole_ofString _, whole_ofString _, trivial, trivial⟩

theorem plain_txResult (ok : Bool) (error : Option String) : (txResult ok error : Value F).Plain := by
  cases error with
  | none => exact ⟨whole_ofString _, whole_ofString _, whole_ofString _, trivial, trivial⟩
  | some e =>
      exact ⟨whole_ofString _, whole_ofString _, whole_ofString _, trivial, whole_ofString _,
        whole_ofString _, trivial⟩

/-- **A frame comes back** from the message it was put in. -/
theorem frameOf_txRequest (frame : CANFrame) : frameOf py (txRequest frame) = some frame := by
  have hid : (txRequest frame : Value F).get? (Text.ofString "can_id") = some (.int frame.canId) := by
    simp [txRequest, Value.get?, member]
  have hdata : (txRequest frame : Value F).get? (Text.ofString "data") =
      some (.str (hexText frame.data)) := by
    simp [txRequest, Value.get?, member]
  simp [frameOf, hid, hdata, pyInt, pyFromHex, fromHex_hexText]

theorem frameOf_rxMessage (frame : CANFrame) : frameOf py (rxMessage frame) = some frame := by
  have hid : (rxMessage frame : Value F).get? (Text.ofString "can_id") = some (.int frame.canId) := by
    simp [rxMessage, Value.get?, member]
  have hdata : (rxMessage frame : Value F).get? (Text.ofString "data") =
      some (.str (hexText frame.data)) := by
    simp [rxMessage, Value.get?, member]
  simp [frameOf, hid, hdata, pyInt, pyFromHex, fromHex_hexText]

theorem hasText_txRequest (frame : CANFrame) : hasText (txRequest frame : Value F) "type" "tx" = true := by
  simp [hasText, txRequest, Value.get?, member, text]

theorem hasText_rxMessage (frame : CANFrame) : hasText (rxMessage frame : Value F) "type" "rx" = true := by
  simp [hasText, rxMessage, Value.get?, member, text]

/-- **What the client makes of an answer**: its type, its flag, and a text that is not empty. -/
theorem messageOf_txResult (ok : Bool) (error : Option String) :
    messageOf py (txResult ok error) =
      { type := some "tx_result", ok := ok, error := error.filter (· ≠ "") } := by
  cases error with
  | none => simp [messageOf, txResult, Value.get?, member, text, truthy, textString_ofString]
  | some e =>
      have hnil : Text.ofString "" = [] := rfl
      have hempty : Text.ofString e = [] ↔ e = "" := by rw [← hnil, ofString_inj]
      by_cases he : e = ""
      · simp [messageOf, txResult, Value.get?, member, text, truthy, textString_ofString, he, hnil,
          Option.filter_some]
      · simp [messageOf, txResult, Value.get?, member, text, truthy, textString_ofString, hempty, he,
          Option.filter_some]

end SparqControl.CanDaemon
