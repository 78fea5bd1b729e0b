import Stencil.Text.Word
import Stencil.Files.Codecs

/-!
# Encodings

Encodings in common use, by name, and the texts that they read from octets. Names are compared
without regard to case. Every stretch of other characters than letters, digits and dots counts as
one underscore, and letters and digits beyond ASCII do not count. Together they are the encodings of
a host that knows no others.
-/

set_option autoImplicit false

namespace Stencil

/-- An encoding of text. -/
inductive Encoding where
  | utf8
  /-- UTF-8, with a mark at the beginning that is dropped. -/
  | utf8Signed
  | latin1
  | ascii
  | windows1252
  /-- UTF-16 in the order that a mark at the beginning tells. -/
  | utf16
  | utf16Little
  | utf16Big
  deriving DecidableEq, Repr

namespace Encoding

/-- The plain form of a name; `pending` says that a separator waits to be written, and `begun` that
something was written before. -/
def plainNameFrom (begun pending : Bool) : Text → Text
  | [] => []
  | c :: rest =>
    if Text.isAlphanumeric c || c == '.' then
      let kept := if c.toNat < 128 then [c.toLower] else []
      (if begun && pending then ['_'] else []) ++ kept ++
        plainNameFrom (begun || !kept.isEmpty) false rest
    else plainNameFrom begun true rest

/-- The plain form of a name. -/
def plainName (t : Text) : Text := plainNameFrom false false t

/-- The further names of the encodings. -/
def aliases : List (Encoding × List String) := [
  (.utf8, ["u8", "utf", "utf8", "utf8_ucs2", "utf8_ucs4", "cp65001"]),
  (.latin1, ["8859", "cp819", "csisolatin1", "ibm819", "iso8859", "iso8859_1", "iso_8859_1",
    "iso_8859_1_1987", "iso_ir_100", "l1", "latin", "latin1"]),
  (.ascii, ["646", "ansi_x3.4_1968", "ansi_x3_4_1968", "ansi_x3.4_1986", "cp367", "csascii",
    "ibm367", "iso646_us", "iso_646.irv_1991", "iso_ir_6", "us", "us_ascii"]),
  (.windows1252, ["1252", "windows_1252"]),
  (.utf16, ["u16", "utf16"]),
  (.utf16Big, ["unicodebigunmarked", "utf_16be"]),
  (.utf16Little, ["unicodelittleunmarked", "utf_16le"])]

/-- The names proper. -/
def names : List (Encoding × List String) := [
  (.utf8, ["utf_8"]), (.utf8Signed, ["utf_8_sig"]), (.latin1, ["latin_1", "iso8859_1"]),
  (.ascii, ["ascii"]), (.windows1252, ["cp1252"]), (.utf16, ["utf_16"]),
  (.utf16Big, ["utf_16_be"]), (.utf16Little, ["utf_16_le"])]

/-- Looks a plain name up in a list of names. -/
def lookupIn (table : List (Encoding × List String)) (name : Text) : Option Encoding :=
  (table.find? fun e => e.2.any fun n => n.toList == name).map (·.1)

/-- The encoding of a name. In further names a dot may stand for an underscore. -/
def ofName? (t : Text) : Option Encoding :=
  let name := plainName t
  (lookupIn aliases name).or
    ((lookupIn aliases (name.map fun c => if c = '.' then '_' else c)).or (lookupIn names name))

/-- Why octets at a place are no text: how many of them, and the reason. -/
structure Misfit where
  count : Nat
  reason : Text

/-- The second octets that may follow a first one of three or more in UTF-8. -/
def secondRange (first : Nat) : Nat × Nat :=
  if first = 0xE0 then (0xA0, 0xBF)
  else if first = 0xED then (0x80, 0x9F)
  else if first = 0xF0 then (0x90, 0xBF)
  else if first = 0xF4 then (0x80, 0x8F)
  else (0x80, 0xBF)

/-- Reads the tail of a character: the code point so far, how many octets are still owed and how
many were read, the range of the next octet, and the octets. -/
def tail8 (code owed read : Nat) (low high : Nat) : List Nat → Except Misfit (Nat × List Nat)
  | rest =>
    match owed, rest with
    | 0, rest => .ok (code, rest)
    | _ + 1, [] => .error ⟨read, "unexpected end of data".toList⟩
    | owed + 1, o :: rest =>
      if low ≤ o ∧ o ≤ high then tail8 (code * 64 + o % 64) owed (read + 1) 0x80 0xBF rest
      else .error ⟨read, "invalid continuation byte".toList⟩

/-- Reads one character of UTF-8 from its first octet and those after it. -/
def char8 (first : Nat) (rest : List Nat) : Except Misfit (Nat × List Nat) :=
  let (low, high) := secondRange first
  if first < 0x80 then .ok (first, rest)
  else if 0xC2 ≤ first ∧ first ≤ 0xDF then tail8 (first % 32) 1 1 low high rest
  else if 0xE0 ≤ first ∧ first ≤ 0xEF then tail8 (first % 16) 2 1 low high rest
  else if 0xF0 ≤ first ∧ first ≤ 0xF4 then tail8 (first % 8) 3 1 low high rest
  else .error ⟨1, "invalid start byte".toList⟩

/-- Reads octets one character at a time, with a number of characters that is never reached. -/
def decodeWith (encoding : Text) (char : Nat → List Nat → Except Misfit (Nat × List Nat)) :
    Nat → Nat → List Nat → Except DecodeProblem Text
  | 0, _, _ => .ok []
  | _, _, [] => .ok []
  | tries + 1, place, first :: rest =>
    match char first rest with
    | .error f => .error ⟨encoding, first, place, f.count, f.reason⟩
    | .ok (code, after) => do
      let others ← decodeWith encoding char tries (place + (rest.length + 1 - after.length)) after
      .ok (Char.ofNat code :: others)

/-- One octet of ASCII. -/
def charAscii (first : Nat) (rest : List Nat) : Except Misfit (Nat × List Nat) :=
  if first < 128 then .ok (first, rest)
  else .error ⟨1, "ordinal not in range(128)".toList⟩

/-- The code points of the octets from 128 to 159 in the Windows code page; zero where there is
none. -/
def windowsCodes : List Nat := [
  0x20AC, 0, 0x201A, 0x0192, 0x201E, 0x2026, 0x2020, 0x2021, 0x02C6, 0x2030, 0x0160, 0x2039, 0x0152,
  0, 0x017D, 0, 0, 0x2018, 0x2019, 0x201C, 0x201D, 0x2022, 0x2013, 0x2014, 0x02DC, 0x2122, 0x0161,
  0x203A, 0x0153, 0, 0x017E, 0x0178]

/-- One octet of the Windows code page. -/
def charWindows (first : Nat) (rest : List Nat) : Except Misfit (Nat × List Nat) :=
  if first < 128 ∨ 160 ≤ first then .ok (first, rest)
  else match windowsCodes[first - 128]? with
    | some (code + 1) => .ok (code + 1, rest)
    | _ => .error ⟨1, "character maps to <undefined>".toList⟩

/-- One character of UTF-16, given how two octets make a unit. -/
def char16 (unit : Nat → Nat → Nat) (first : Nat) : List Nat → Except Misfit (Nat × List Nat)
  | [] => .error ⟨1, "truncated data".toList⟩
  | second :: rest =>
    let u := unit first second
    if 0xD800 ≤ u ∧ u < 0xDC00 then
      match rest with
      | [] => .error ⟨2, "unexpected end of data".toList⟩
      | [_] => .error ⟨3, "unexpected end of data".toList⟩
      | a :: b :: after =>
        let v := unit a b
        if 0xDC00 ≤ v ∧ v < 0xE000 then
          .ok (0x10000 + (u - 0xD800) * 0x400 + (v - 0xDC00), after)
        else .error ⟨2, "illegal UTF-16 surrogate".toList⟩
    else if 0xDC00 ≤ u ∧ u < 0xE000 then .error ⟨2, "illegal encoding".toList⟩
    else .ok (u, rest)

/-- Two octets of UTF-16, the less significant one first. -/
def little (a b : Nat) : Nat := a + 256 * b

/-- Two octets of UTF-16, the more significant one first. -/
def big (a b : Nat) : Nat := 256 * a + b

/-- Reads UTF-16 whose first octet stands at a place. -/
def decode16 (name : Text) (unit : Nat → Nat → Nat) (place : Nat) (octets : List Nat) :
    Except DecodeProblem Text :=
  decodeWith name (char16 unit) octets.length place octets

/-- Reads UTF-8. -/
def decode8 (octets : List Nat) : Except DecodeProblem Text :=
  decodeWith "utf-8".toList char8 octets.length 0 octets

/-- The text that octets stand for in an encoding. -/
def decode (e : Encoding) (octets : List Nat) : Except Trouble Text :=
  match e with
  | .utf8 => (decode8 octets).mapError .undecodable
  | .utf8Signed =>
    match octets with
    | [0xEF] | [0xEF, 0xBB] => .ok []
    | 0xEF :: 0xBB :: 0xBF :: rest => (decode8 rest).mapError .undecodable
    | octets => (decode8 octets).mapError .undecodable
  | .latin1 => .ok (octets.map Char.ofNat)
  | .ascii =>
    (decodeWith "ascii".toList charAscii octets.length 0 octets).mapError .undecodable
  | .windows1252 =>
    (decodeWith "charmap".toList charWindows octets.length 0 octets).mapError .undecodable
  | .utf16Little =>
    (decode16 "utf-16-le".toList little 0 octets).mapError .undecodable
  | .utf16Big => (decode16 "utf-16-be".toList big 0 octets).mapError .undecodable
  | .utf16 =>
    match octets with
    | [] => .ok []
    | 0xFF :: 0xFE :: rest =>
      (decode16 "utf-16-le".toList little 2 rest).mapError .undecodable
    | 0xFE :: 0xFF :: rest => (decode16 "utf-16-be".toList big 2 rest).mapError .undecodable
    | octets =>
      match decode16 "utf-16-le".toList little 0 octets with
      | .error p => .error (.undecodable p)
      | .ok _ => .error (.misencoded "UTF-16 stream does not start with BOM".toList)

/-- Makes every line end with a line feed alone. -/
def unifyLines : Text → Text
  | '\r' :: '\n' :: rest => '\n' :: unifyLines rest
  | '\r' :: rest => '\n' :: unifyLines rest
  | c :: rest => c :: unifyLines rest
  | [] => []

/-- The encodings of a host that knows these only. -/
def codecs : Codecs where
  knows name := (ofName? name).isSome
  reader name :=
    match ofName? name with
    | some e => .ok e.decode
    | none => .error ("unknown encoding: ".toList ++ name)
  knows_utf8 := by decide +kernel

end Encoding
end Stencil
