/-! Reading UTF-8. Bytes fall into characters and malformed parts: a malformed part is a maximal
start of some character's bytes, or one byte that starts no character. -/

namespace Autotools.Text

/-- What bytes are read as: a character, or a malformed part. -/
inductive Decoded where
  | char (c : Char)
  | malformed (bytes : List UInt8)
deriving DecidableEq, Inhabited, Repr

namespace Decoded

/-- The character shown for what was read: a malformed part is shown as the replacement
character. -/
def shown : Decoded → Char
  | .char c => c
  | .malformed _ => '\uFFFD'

/-- The bytes of what was read. -/
def bytes : Decoded → List UInt8
  | .char c => String.utf8EncodeChar c
  | .malformed bytes => bytes

end Decoded

/-- The bytes that may follow a first byte: how many are owed, the bounds of the next one, and the
bits that the first byte gives. -/
structure Lead where
  owed : Nat
  low : Nat
  high : Nat
  bits : Nat

/-- What a first byte of more than one announces. -/
def Lead.ofByte? (n : Nat) : Option Lead :=
  if 0xC2 ≤ n && n ≤ 0xDF then some ⟨1, 0x80, 0xBF, n - 0xC0⟩
  else if n == 0xE0 then some ⟨2, 0xA0, 0xBF, 0⟩
  else if n == 0xED then some ⟨2, 0x80, 0x9F, 0xD⟩
  else if 0xE1 ≤ n && n ≤ 0xEF then some ⟨2, 0x80, 0xBF, n - 0xE0⟩
  else if n == 0xF0 then some ⟨3, 0x90, 0xBF, 0⟩
  else if 0xF1 ≤ n && n ≤ 0xF3 then some ⟨3, 0x80, 0xBF, n - 0xF0⟩
  else if n == 0xF4 then some ⟨3, 0x80, 0x8F, 4⟩
  else none

/-- Between characters, or inside one whose first bytes announced more. -/
inductive Utf8State where
  | between
  | inside (lead : Lead) (first : List UInt8)

/-- What a list of bytes is read as, from a state. A byte that cannot continue a character ends a
malformed part and is read again as a first byte. -/
def decodeFrom : Utf8State → List UInt8 → List Decoded
  | .between, [] => []
  | .inside _ first, [] => [.malformed first]
  | state, b :: rest =>
    let n := b.toNat
    let fresh : Unit → List Decoded := fun _ =>
      if n < 0x80 then .char (Char.ofNat n) :: decodeFrom .between rest
      else match Lead.ofByte? n with
        | some lead => decodeFrom (.inside lead [b]) rest
        | none => .malformed [b] :: decodeFrom .between rest
    match state with
    | .between => fresh ()
    | .inside lead first =>
      if lead.low ≤ n && n ≤ lead.high then
        let bits := lead.bits * 0x40 + (n - 0x80)
        if lead.owed ≤ 1 then .char (Char.ofNat bits) :: decodeFrom .between rest
        else decodeFrom (.inside ⟨lead.owed - 1, 0x80, 0xBF, bits⟩ (first ++ [b])) rest
      else
        .malformed first :: fresh ()

/-- What bytes are read as. -/
def decode (bytes : List UInt8) : List Decoded := decodeFrom .between bytes

/-- The text of what was read, if none of it is malformed. -/
def text? : List Decoded → Option (List Char)
  | [] => some []
  | .char c :: rest => (text? rest).map (c :: ·)
  | .malformed _ :: _ => none

/-- The text of well-formed bytes. -/
def decode? (bytes : List UInt8) : Option (List Char) := text? (decode bytes)

/-- The text of any bytes, with the replacement character for every malformed part. -/
def decodeLossy (bytes : List UInt8) : List Char := (decode bytes).map (·.shown)

/-- The bytes of a text. -/
def encode (s : List Char) : List UInt8 := s.flatMap String.utf8EncodeChar

/-- A text is read back from its characters. -/
@[simp] theorem text?_map_char (s : List Char) : text? (s.map .char) = some s := by
  induction s with
  | nil => rfl
  | cons c s ih => simp [text?, ih]

end Autotools.Text
