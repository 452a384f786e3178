/-!
# UTF-8

Texts as octets and back. Decoding is strict: it refuses truncated and overlong sequences, surrogates
and everything above the last code point.
-/

namespace Conformance.Text.Utf8

def encode (s : List Char) : List UInt8 := s.flatMap String.utf8EncodeChar

def size (s : List Char) : Nat := s.foldl (fun n c => n + c.utf8Size) 0

def isTail (b : UInt8) : Bool := 0x80 ≤ b && b ≤ 0xBF

/-- The payload of a lead octet above `base` followed by continuation octets. -/
def payload (base : Nat) (lead : UInt8) (tails : List UInt8) : Nat :=
  tails.foldl (fun n b => n * 64 + (b.toNat - 0x80)) (lead.toNat - base)

/-- The text of a sequence of octets, if it is well formed. The lead octet fixes the length, and the
code point must need that length and be no surrogate. -/
def decode? : List UInt8 → Option (List Char)
  | [] => some []
  | a :: r =>
    if a < 0x80 then (decode? r).map (Char.ofNat a.toNat :: ·)
    else if a < 0xC2 then none
    else
      match r with
      | [] => none
      | b :: r =>
        if !isTail b then none
        else if a < 0xE0 then (decode? r).map (Char.ofNat (payload 0xC0 a [b]) :: ·)
        else
          match r with
          | [] => none
          | c :: r =>
            if !isTail c then none
            else if a < 0xF0 then
              let n := payload 0xE0 a [b, c]
              if n < 0x800 || (0xD800 ≤ n && n ≤ 0xDFFF) then none
              else (decode? r).map (Char.ofNat n :: ·)
            else
              match r with
              | [] => none
              | d :: r =>
                let n := payload 0xF0 a [b, c, d]
                if !isTail d || 0xF4 < a || n < 0x10000 || 0x10FFFF < n then none
                else (decode? r).map (Char.ofNat n :: ·)

end Conformance.Text.Utf8
