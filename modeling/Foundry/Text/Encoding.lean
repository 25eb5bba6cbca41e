import Foundry.Text.Case
import Foundry.Text.CharacterSet
import Foundry.Text.Quoted

/-!
Character encodings: their names, and texts as bytes and back. Both directions report where the
first piece that cannot be converted lies.
-/

namespace Foundry.Text

inductive ByteOrder
  | little
  | big
deriving DecidableEq, Repr

/-- A known encoding. The marked ones write a byte order mark and read one. -/
inductive Encoding
  | ascii
  | latin1
  | oneByte (set : CharacterSet)
  | utf8
  | utf8Marked
  | utf16Marked
  | utf16 (order : ByteOrder)
  | utf32Marked
  | utf32 (order : ByteOrder)
deriving DecidableEq, Repr

/-- Why a text or a byte sequence cannot be converted. -/
inductive CodecError
  | undecodable (codec : String) (byte first last : Nat) (reason : String)
  | unencodable (codec : String) (point first last : Nat) (reason : String)
  | unmarked (family : String)
  /-- Anything else a codec raises. -/
  | failed (kind message : String)
deriving DecidableEq, Repr

namespace CodecError

def message : CodecError → String
  | .undecodable codec byte first last reason =>
    let shown := String.ofList (hexDigits 2 byte)
    if first = last then
      s!"'{codec}' codec can't decode byte 0x{shown} in position {first}: {reason}"
    else s!"'{codec}' codec can't decode bytes in position {first}-{last}: {reason}"
  | .unencodable codec point first last reason =>
    let shown := String.ofList (escapePoint point)
    if first = last then
      s!"'{codec}' codec can't encode character '{shown}' in position {first}: {reason}"
    else s!"'{codec}' codec can't encode characters in position {first}-{last}: {reason}"
  | .unmarked family => s!"{family} stream does not start with BOM"
  | .failed _ message => message

def kind : CodecError → String
  | .undecodable .. => "UnicodeDecodeError"
  | .unencodable .. => "UnicodeEncodeError"
  | .unmarked _ => "UnicodeError"
  | .failed kind _ => kind

end CodecError

namespace Encoding

/-- Letters, digits and dots kept in lower case, runs of anything else made one underscore. -/
def normalizeList (started pending : Bool) : List Char → List Char
  | [] => []
  | c :: cs =>
    if c.isAlphanum || c == '.' then
      (if pending && started then ['_', c.toLower] else [c.toLower]) ++ normalizeList true false cs
    else normalizeList started true cs

/-- Every spelling an encoding is known under, after normalization. -/
def spellings : List (String × Encoding) :=
  (["utf_8", "utf8", "u8", "utf", "utf8_ucs2", "utf8_ucs4", "cp65001"].map (·, utf8)) ++
  (["utf_8_sig"].map (·, utf8Marked)) ++
  (["ascii", "us_ascii", "us", "646", "ansi_x3.4_1968", "ansi_x3_4_1968", "ansi_x3.4_1986",
    "cp367", "csascii", "ibm367", "iso646_us", "iso_646.irv_1991", "iso_ir_6"].map (·, ascii)) ++
  (["latin_1", "latin1", "latin", "l1", "iso8859_1", "iso_8859_1", "iso8859", "8859", "cp819",
    "csisolatin1", "ibm819", "iso_8859_1_1987", "iso_ir_100"].map (·, latin1)) ++
  (["cp1250", "1250", "windows_1250"].map (·, oneByte .windows1250)) ++
  (["cp1251", "1251", "windows_1251"].map (·, oneByte .windows1251)) ++
  (["cp1252", "1252", "windows_1252"].map (·, oneByte .windows1252)) ++
  (["iso8859_2", "csisolatin2", "iso_8859_2", "iso_8859_2_1987", "iso_ir_101", "l2",
    "latin2"].map (·, oneByte .latin2)) ++
  (["iso8859_15", "iso_8859_15", "l9", "latin9"].map (·, oneByte .latin9)) ++
  (["koi8_r", "cskoi8r"].map (·, oneByte .koi8r)) ++
  (["cp437", "437", "cspc8codepage437", "ibm437"].map (·, oneByte .ibm437)) ++
  (["cp850", "850", "cspc850multilingual", "ibm850"].map (·, oneByte .ibm850)) ++
  (["mac_roman", "macintosh", "macroman"].map (·, oneByte .macRoman)) ++
  (["utf_16", "utf16", "u16"].map (·, utf16Marked)) ++
  (["utf_16_le", "utf_16le", "unicodelittleunmarked"].map (·, utf16 .little)) ++
  (["utf_16_be", "utf_16be", "unicodebigunmarked"].map (·, utf16 .big)) ++
  (["utf_32", "utf32", "u32"].map (·, utf32Marked)) ++
  (["utf_32_le", "utf_32le"].map (·, utf32 .little)) ++
  (["utf_32_be", "utf_32be"].map (·, utf32 .big))

/-- A name in lower case, with underscores for what is no letter, digit or dot. -/
def normalize (name : String) : String :=
  String.ofList (normalizeList false false name.toList)

/-- The encoding with a given name, in any of its spellings. -/
def ofName? (name : String) : Option Encoding :=
  spellings.lookup (normalize name)

/-- Names of conversions that do not lead from texts to bytes. -/
def transformations : List String :=
  ["rot13", "rot_13", "hex", "hex_codec", "base64", "base64_codec", "base_64", "zlib", "zip",
   "zlib_codec", "bz2", "bz2_codec", "uu", "uu_codec", "quopri", "quopri_codec",
   "quoted_printable", "quotedprintable"]

/-- What is said about a name that no encoding has. -/
def unknownMessage (name : String) : String :=
  if transformations.contains (normalize name) then
    s!"'{name}' is not a text encoding; use codecs.open() to handle arbitrary codecs"
  else s!"unknown encoding: {name}"

/-! ### Texts to bytes -/

def byte (n : Nat) : UInt8 :=
  UInt8.ofNat n

/-- The UTF-8 form of a code point. -/
def utf8Bytes (n : Nat) : List UInt8 :=
  if n < 0x80 then [byte n]
  else if n < 0x800 then [byte (0xC0 + n / 64), byte (0x80 + n % 64)]
  else if n < 0x10000 then
    [byte (0xE0 + n / 4096), byte (0x80 + n / 64 % 64), byte (0x80 + n % 64)]
  else
    [byte (0xF0 + n / 262144), byte (0x80 + n / 4096 % 64), byte (0x80 + n / 64 % 64),
     byte (0x80 + n % 64)]

def unit16 (order : ByteOrder) (n : Nat) : List UInt8 :=
  match order with
  | .little => [byte (n % 256), byte (n / 256)]
  | .big => [byte (n / 256), byte (n % 256)]

/-- The UTF-16 form of a code point, a pair of surrogates beyond the first plane. -/
def utf16Bytes (order : ByteOrder) (n : Nat) : List UInt8 :=
  if n < 0x10000 then unit16 order n
  else
    unit16 order (0xD800 + (n - 0x10000) / 0x400) ++ unit16 order (0xDC00 + (n - 0x10000) % 0x400)

def utf32Bytes (order : ByteOrder) (n : Nat) : List UInt8 :=
  match order with
  | .little => unit16 .little (n % 65536) ++ unit16 .little (n / 65536)
  | .big => unit16 .big (n / 65536) ++ unit16 .big (n % 65536)

/-- The bytes of one character, if the encoding has any. -/
def charBytes? (e : Encoding) (c : Char) : Option (List UInt8) :=
  let n := c.toNat
  match e with
  | .ascii => if n < 0x80 then some [byte n] else none
  | .latin1 => if n < 0x100 then some [byte n] else none
  | .oneByte set => (set.byte? n).map fun b => [byte b]
  | .utf8 | .utf8Marked => some (utf8Bytes n)
  | .utf16Marked => some (utf16Bytes .little n)
  | .utf16 order => some (utf16Bytes order n)
  | .utf32Marked => some (utf32Bytes .little n)
  | .utf32 order => some (utf32Bytes order n)

/-- The byte order mark a marked encoding starts with. -/
def mark : Encoding → List UInt8
  | .utf8Marked => utf8Bytes 0xFEFF
  | .utf16Marked => utf16Bytes .little 0xFEFF
  | .utf32Marked => utf32Bytes .little 0xFEFF
  | _ => []

def codec : Encoding → String
  | .ascii => "ascii"
  | .latin1 => "latin-1"
  | .oneByte _ => "charmap"
  | .utf8 | .utf8Marked => "utf-8"
  | .utf16Marked => "utf-16-le"
  | .utf16 .little => "utf-16-le"
  | .utf16 .big => "utf-16-be"
  | .utf32Marked => "utf-32-le"
  | .utf32 .little => "utf-32-le"
  | .utf32 .big => "utf-32-be"

def unencodableReason : Encoding → String
  | .ascii => "ordinal not in range(128)"
  | .latin1 => "ordinal not in range(256)"
  | _ => "character maps to <undefined>"

/-- Characters to bytes from position `i` on. -/
def encodeFrom (e : Encoding) (i : Nat) : List Char → Except CodecError (List UInt8)
  | [] => .ok []
  | c :: cs =>
    match e.charBytes? c with
    | some bs => (encodeFrom e (i + 1) cs).map (bs ++ ·)
    | none =>
      let run := (cs.takeWhile fun d => (e.charBytes? d).isNone).length
      .error (.unencodable e.codec c.toNat i (i + run) e.unencodableReason)

/-- A text as bytes, behind the mark of a marked encoding. -/
def encode (e : Encoding) (s : String) : Except CodecError (List UInt8) :=
  (encodeFrom e 0 s.toList).map (e.mark ++ ·)

/-! ### Bytes to texts -/

/-- The number of bytes a leading byte asks for, the range its second byte must lie in and the
bits it contributes. -/
def utf8Lead (b : Nat) : Option (Nat × Nat × Nat × Nat) :=
  if b < 0xC2 then none
  else if b < 0xE0 then some (2, 0x80, 0xBF, b - 0xC0)
  else if b = 0xE0 then some (3, 0xA0, 0xBF, 0)
  else if b = 0xED then some (3, 0x80, 0x9F, 13)
  else if b < 0xF0 then some (3, 0x80, 0xBF, b - 0xE0)
  else if b = 0xF0 then some (4, 0x90, 0xBF, 0)
  else if b < 0xF4 then some (4, 0x80, 0xBF, b - 0xF0)
  else if b = 0xF4 then some (4, 0x80, 0x8F, 4)
  else none

/-- Reads `want` further bytes; on failure the count of bytes that were acceptable and whether
the input ended there. -/
def utf8Tail (low high bits : Nat) :
    Nat → List UInt8 → Except (Nat × Bool) (Nat × List UInt8)
  | 0, bs => .ok (bits, bs)
  | _ + 1, [] => .error (0, true)
  | want + 1, b :: bs =>
    if low ≤ b.toNat && b.toNat ≤ high then
      match utf8Tail 0x80 0xBF (bits * 64 + (b.toNat - 0x80)) want bs with
      | .ok r => .ok r
      | .error (k, ended) => .error (k + 1, ended)
    else .error (0, false)

def decodeUtf8 : Nat → Nat → List UInt8 → Except CodecError (List Char)
  | 0, _, _ => .ok []
  | _ + 1, _, [] => .ok []
  | fuel + 1, i, b :: bs =>
    if b.toNat < 0x80 then
      (decodeUtf8 fuel (i + 1) bs).map (Char.ofNat b.toNat :: ·)
    else
      match utf8Lead b.toNat with
      | none => .error (.undecodable "utf-8" b.toNat i i "invalid start byte")
      | some (size, low, high, bits) =>
        match utf8Tail low high bits (size - 1) bs with
        | .ok (point, rest) => (decodeUtf8 fuel (i + size) rest).map (Char.ofNat point :: ·)
        | .error (k, true) =>
          .error (.undecodable "utf-8" b.toNat i (i + k) "unexpected end of data")
        | .error (k, false) =>
          .error (.undecodable "utf-8" b.toNat i (i + k) "invalid continuation byte")

def pair (order : ByteOrder) (a b : UInt8) : Nat :=
  match order with
  | .little => a.toNat + 256 * b.toNat
  | .big => 256 * a.toNat + b.toNat

def decodeUtf16 (order : ByteOrder) (name : String) (i : Nat) :
    List UInt8 → Except CodecError (List Char)
  | [] => .ok []
  | [a] => .error (.undecodable name a.toNat i i "truncated data")
  | a :: b :: rest =>
    let n := pair order a b
    if n < 0xD800 || 0xE000 ≤ n then
      (decodeUtf16 order name (i + 2) rest).map (Char.ofNat n :: ·)
    else if 0xDC00 ≤ n then .error (.undecodable name a.toNat i (i + 1) "illegal encoding")
    else match rest with
      | [] => .error (.undecodable name a.toNat i (i + 1) "unexpected end of data")
      | [_] => .error (.undecodable name a.toNat i (i + 2) "unexpected end of data")
      | c :: d :: rest =>
        let m := pair order c d
        if 0xDC00 ≤ m && m < 0xE000 then
          (decodeUtf16 order name (i + 4) rest).map
            (Char.ofNat (0x10000 + (n - 0xD800) * 0x400 + (m - 0xDC00)) :: ·)
        else .error (.undecodable name a.toNat i (i + 1) "illegal UTF-16 surrogate")

def decodeUtf32 (order : ByteOrder) (name : String) (i : Nat) :
    List UInt8 → Except CodecError (List Char)
  | [] => .ok []
  | a :: b :: c :: d :: rest =>
    let n := match order with
      | .little => pair .little a b + 65536 * pair .little c d
      | .big => 65536 * pair .big a b + pair .big c d
    if n.isValidChar then (decodeUtf32 order name (i + 4) rest).map (Char.ofNat n :: ·)
    else if n < 0x110000 then
      .error (.undecodable name a.toNat i (i + 3)
        "code point in surrogate code point range(0xd800, 0xe000)")
    else .error (.undecodable name a.toNat i (i + 3) "code point not in range(0x110000)")
  | a :: rest => .error (.undecodable name a.toNat i (i + rest.length) "truncated data")

/-- One character for each byte. -/
def decodeTable (e : Encoding) (reason : String) (i : Nat) :
    List UInt8 → Except CodecError (List Char)
  | [] => .ok []
  | b :: bs =>
    let point : Option Nat := match e with
      | .ascii => if b.toNat < 0x80 then some b.toNat else none
      | .oneByte set => set.point? b.toNat
      | _ => some b.toNat
    match point with
    | some n => (decodeTable e reason (i + 1) bs).map (Char.ofNat n :: ·)
    | none => .error (.undecodable e.codec b.toNat i i reason)

def decodeChars (e : Encoding) (bs : List UInt8) : Except CodecError (List Char) :=
  match e with
  | .ascii => decodeTable .ascii "ordinal not in range(128)" 0 bs
  | .latin1 => decodeTable .latin1 "" 0 bs
  | .oneByte set => decodeTable (.oneByte set) "character maps to <undefined>" 0 bs
  | .utf8 => decodeUtf8 (bs.length + 1) 0 bs
  | .utf8Marked =>
    match bs with
    | 0xEF :: 0xBB :: 0xBF :: rest => decodeUtf8 (rest.length + 1) 0 rest
    | [0xEF, 0xBB] => .ok []
    | [0xEF] => .ok []
    | _ => decodeUtf8 (bs.length + 1) 0 bs
  | .utf16 order => decodeUtf16 order (codec (.utf16 order)) 0 bs
  | .utf16Marked =>
    match bs with
    | 0xFF :: 0xFE :: rest => decodeUtf16 .little "utf-16-le" 2 rest
    | 0xFE :: 0xFF :: rest => decodeUtf16 .big "utf-16-be" 2 rest
    | _ => do
      let cs ← decodeUtf16 .little "utf-16-le" 0 bs
      if cs.isEmpty then .ok cs else .error (.unmarked "UTF-16")
  | .utf32 order => decodeUtf32 order (codec (.utf32 order)) 0 bs
  | .utf32Marked =>
    match bs with
    | 0xFF :: 0xFE :: 0 :: 0 :: rest => decodeUtf32 .little "utf-32-le" 4 rest
    | 0 :: 0 :: 0xFE :: 0xFF :: rest => decodeUtf32 .big "utf-32-be" 4 rest
    | _ => do
      let cs ← decodeUtf32 .little "utf-32-le" 0 bs
      if cs.isEmpty then .ok cs else .error (.unmarked "UTF-32")

/-- Bytes as a text. -/
def decode (e : Encoding) (bs : List UInt8) : Except CodecError String :=
  (decodeChars e bs).map String.ofList

end Encoding

/-- Every ending of a line made a line feed. -/
def unifyLineEnds : List Char → List Char
  | [] => []
  | '\r' :: '\n' :: cs => '\n' :: unifyLineEnds cs
  | '\r' :: cs => '\n' :: unifyLineEnds cs
  | c :: cs => c :: unifyLineEnds cs

end Foundry.Text
