/-!
# Reading UTF-8

Bytes are read as UTF-8 one character at a time.  A fault is reported with the number of
bytes of the longest prefix that could still have begun a character; reading leniently
replaces each such prefix by one replacement character.
-/

namespace EntryStore.Text

/-- How many bytes a text takes. -/
def byteLength : List Char → Nat
  | [] => 0
  | c :: rest => c.utf8Size + byteLength rest

/-- What the next bytes of a text stand for. -/
inductive Utf8Step where
  /-- a character and the bytes after it -/
  | char (c : Char) (rest : List UInt8)
  /-- `count` bytes that begin no character, and the bytes after them -/
  | invalid (count : Nat) (rest : List UInt8)
  /-- the bytes end within a character -/
  | incomplete
  deriving Repr

/-- The six bits that a continuation byte carries. -/
def continuation? (byte : UInt8) : Option Nat :=
  if 0x80 ≤ byte ∧ byte ≤ 0xBF then some (byte.toNat % 64) else none

/-- Reads the remaining continuation bytes of a character; `read` bytes stand before. -/
def utf8Tail (read : Nat) (value : Nat) : (missing : Nat) → List UInt8 → Utf8Step
  | 0, rest => .char (Char.ofNat value) rest
  | _ + 1, [] => .incomplete
  | missing + 1, byte :: rest =>
      match continuation? byte with
      | some bits => utf8Tail (read + 1) (64 * value + bits) missing rest
      | none => .invalid read (byte :: rest)

/-- The bytes that may follow the lead byte of a character: they exclude overlong forms,
surrogates and code points past the last. -/
def secondByteRange (lead : UInt8) : UInt8 × UInt8 :=
  if lead = 0xE0 then (0xA0, 0xBF)
  else if lead = 0xED then (0x80, 0x9F)
  else if lead = 0xF0 then (0x90, 0xBF)
  else if lead = 0xF4 then (0x80, 0x8F)
  else (0x80, 0xBF)

/-- Reads a character whose lead byte announces `missing` continuation bytes. -/
def utf8Second (lead : UInt8) (value missing : Nat) : List UInt8 → Utf8Step
  | [] => .incomplete
  | byte :: rest =>
      let (low, high) := secondByteRange lead
      if low ≤ byte ∧ byte ≤ high then
        utf8Tail 2 (64 * value + byte.toNat % 64) (missing - 1) rest
      else .invalid 1 (byte :: rest)

/-- Reads the next character of a non-empty sequence of bytes. -/
def utf8Step (lead : UInt8) (rest : List UInt8) : Utf8Step :=
  if lead < 0x80 then .char (Char.ofNat lead.toNat) rest
  else if lead < 0xC2 then .invalid 1 rest
  else if lead < 0xE0 then utf8Second lead (lead.toNat % 32) 1 rest
  else if lead < 0xF0 then utf8Second lead (lead.toNat % 16) 2 rest
  else if lead < 0xF5 then utf8Second lead (lead.toNat % 8) 3 rest
  else .invalid 1 rest

/-- Why bytes are not UTF-8. -/
inductive Utf8Fault where
  | invalid (count index : Nat)
  | incomplete (index : Nat)
  deriving DecidableEq, Repr

/-- The wording of a fault. -/
def Utf8Fault.message : Utf8Fault → String
  | .invalid count index => s!"invalid utf-8 sequence of {count} bytes from index {index}"
  | .incomplete index => s!"incomplete utf-8 byte sequence from index {index}"

/-- Strict reading, with `index` bytes read before.  The fuel bounds the characters. -/
def utf8Decode (index : Nat) : (fuel : Nat) → List UInt8 → Except Utf8Fault (List Char)
  | 0, _ | _, [] => .ok []
  | fuel + 1, lead :: rest =>
      match utf8Step lead rest with
      | .char c rest' => do
          let tail ← utf8Decode (index + c.utf8Size) fuel rest'
          return c :: tail
      | .invalid count _ => .error (.invalid count index)
      | .incomplete => .error (.incomplete index)

/-- The text that bytes encode. -/
def ofUtf8 (bytes : List UInt8) : Except Utf8Fault String :=
  (utf8Decode 0 bytes.length bytes).map String.ofList

/-- Lenient reading.  The fuel bounds the characters. -/
def utf8Lossy : (fuel : Nat) → List UInt8 → List Char
  | 0, _ | _, [] => []
  | fuel + 1, lead :: rest =>
      match utf8Step lead rest with
      | .char c rest' => c :: utf8Lossy fuel rest'
      | .invalid _ rest' => '\uFFFD' :: utf8Lossy fuel rest'
      | .incomplete => ['\uFFFD']

/-- The text that bytes encode, with replacement characters for what is no UTF-8. -/
def ofUtf8Lossy (bytes : List UInt8) : String :=
  String.ofList (utf8Lossy bytes.length bytes)

end EntryStore.Text
