/-!
Byte sequences read as UTF-8. A sequence is cut into pieces: a scalar value with its width, a
maximal ill-formed run, or a scalar that the end of the input cuts short. The strict reading
fails at the first piece that is no scalar, the lenient one replaces it by U+FFFD.
-/

namespace EngineBridge.Text

abbrev Bytes := List UInt8

namespace Utf8

inductive Piece
  | scalar (c : Char) (width : Nat)
  | broken (width : Nat)
  | cut (width : Nat)
  deriving Repr, DecidableEq

def Piece.width : Piece → Nat
  | .scalar _ w | .broken w | .cut w => w

def isContinuation (b : UInt8) : Bool := 0x80 ≤ b && b ≤ 0xBF

/-- How the lead byte fixes the number of bytes after it and the range of the first of them. -/
structure Lead where
  following : Nat
  payload : Nat
  low : UInt8
  high : UInt8

def Lead.ofByte? (b : UInt8) : Option Lead :=
  if 0xC2 ≤ b && b ≤ 0xDF then some ⟨1, b.toNat - 0xC0, 0x80, 0xBF⟩
  else if b == 0xE0 then some ⟨2, 0, 0xA0, 0xBF⟩
  else if b == 0xED then some ⟨2, 0xD, 0x80, 0x9F⟩
  else if 0xE1 ≤ b && b ≤ 0xEF then some ⟨2, b.toNat - 0xE0, 0x80, 0xBF⟩
  else if b == 0xF0 then some ⟨3, 0, 0x90, 0xBF⟩
  else if 0xF1 ≤ b && b ≤ 0xF3 then some ⟨3, b.toNat - 0xF0, 0x80, 0xBF⟩
  else if b == 0xF4 then some ⟨3, 4, 0x80, 0x8F⟩
  else none

/-- Appends the six bits that a continuation byte carries. -/
@[irreducible]
def extend (value : Nat) (b : UInt8) : Nat := value * 64 + (b.toNat - 0x80)

/-- Reads the remaining continuation bytes of a scalar of which `width` bytes are read. -/
def finish (width value : Nat) : Nat → Bytes → Piece
  | 0, _ => .scalar (Char.ofNat value) width
  | _ + 1, [] => .cut width
  | n + 1, b :: rest =>
    if isContinuation b then finish (width + 1) (extend value b) n rest
    else .broken width

def piece (b : UInt8) (rest : Bytes) : Piece :=
  if b < 0x80 then .scalar (Char.ofNat b.toNat) 1
  else match Lead.ofByte? b with
    | none => .broken 1
    | some lead => match rest with
      | [] => .cut 1
      | c :: rest =>
        if lead.low ≤ c && c ≤ lead.high then
          finish 2 (extend lead.payload c) (lead.following - 1) rest
        else .broken 1

def pieces : Bytes → List Piece
  | [] => []
  | b :: rest =>
    let p := piece b rest
    p :: pieces (rest.drop (p.width - 1))
  termination_by bs => bs.length
  decreasing_by simp only [List.length_drop, List.length_cons]; omega

/-- Where a byte sequence stops being UTF-8; `width` is absent where the input ends too early. -/
structure Fault where
  validUpTo : Nat
  width : Option Nat
  deriving Repr, DecidableEq

def Fault.message (f : Fault) : String :=
  match f.width with
  | some w => "invalid utf-8 sequence of " ++ toString w ++ " bytes from index " ++
      toString f.validUpTo
  | none => "incomplete utf-8 byte sequence from index " ++ toString f.validUpTo

def strict (offset : Nat) : List Piece → Except Fault (List Char)
  | [] => .ok []
  | .scalar c w :: rest => (strict (offset + w) rest).map (c :: ·)
  | .broken w :: _ => .error ⟨offset, some w⟩
  | .cut _ :: _ => .error ⟨offset, none⟩

def Piece.char : Piece → Char
  | .scalar c _ => c
  | .broken _ | .cut _ => '\uFFFD'

end Utf8

def Utf8.decode (bs : Bytes) : Except Utf8.Fault String :=
  (Utf8.strict 0 (Utf8.pieces bs)).map String.ofList

def Utf8.decodeLossy (bs : Bytes) : String :=
  String.ofList ((Utf8.pieces bs).map Utf8.Piece.char)

def Utf8.encode (s : String) : Bytes := s.toUTF8.data.toList

end EngineBridge.Text
