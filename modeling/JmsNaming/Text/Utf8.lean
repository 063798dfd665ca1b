/-
UTF-8: the bytes of a text, and the text of any bytes, where each longest piece that begins a
character and is not finished becomes one replacement character.
-/
namespace JmsNaming.Text

/-! ## Encoding -/

/-- The bytes of one character. -/
def utf8Char (c : Char) : List UInt8 :=
  let n := c.toNat
  if n < 0x80 then [UInt8.ofNat n]
  else if n < 0x800 then [UInt8.ofNat (0xc0 + n / 64), UInt8.ofNat (0x80 + n % 64)]
  else if n < 0x10000 then
    [UInt8.ofNat (0xe0 + n / 4096), UInt8.ofNat (0x80 + n / 64 % 64), UInt8.ofNat (0x80 + n % 64)]
  else
    [UInt8.ofNat (0xf0 + n / 262144), UInt8.ofNat (0x80 + n / 4096 % 64), UInt8.ofNat (0x80 + n / 64 % 64),
      UInt8.ofNat (0x80 + n % 64)]

/-- The bytes of a text. -/
def utf8 (s : List Char) : List UInt8 :=
  s.flatMap utf8Char

/-! ## Decoding -/

/-- What stands for bytes that form no character. -/
def replacement : Char := Char.ofNat 0xfffd

/-- A byte that continues a character. -/
def isTrail (b : UInt8) : Bool :=
  0x80 ≤ b && b ≤ 0xbf

/-- The byte after the lead byte `b` keeps the character short, scalar and in range. -/
def secondOk (b c : UInt8) : Bool :=
  if b == 0xe0 then 0xa0 ≤ c && c ≤ 0xbf
  else if b == 0xed then 0x80 ≤ c && c ≤ 0x9f
  else if b == 0xf0 then 0x90 ≤ c && c ≤ 0xbf
  else if b == 0xf4 then 0x80 ≤ c && c ≤ 0x8f
  else isTrail c

/-- The text of any bytes. -/
def utf8Text : List UInt8 → List Char
  | [] => []
  | b :: bs =>
    if b < 0x80 then Char.ofNat b.toNat :: utf8Text bs
    else if 0xc2 ≤ b && b ≤ 0xdf then
      match bs with
      | [] => [replacement]
      | c :: cs =>
        if isTrail c then Char.ofNat ((b.toNat - 0xc0) * 64 + (c.toNat - 0x80)) :: utf8Text cs
        else replacement :: utf8Text (c :: cs)
    else if 0xe0 ≤ b && b ≤ 0xef then
      match bs with
      | [] => [replacement]
      | c :: cs =>
        if secondOk b c then
          match cs with
          | [] => [replacement]
          | d :: ds =>
            if isTrail d then
              Char.ofNat ((b.toNat - 0xe0) * 4096 + (c.toNat - 0x80) * 64 + (d.toNat - 0x80)) :: utf8Text ds
            else replacement :: utf8Text (d :: ds)
        else replacement :: utf8Text (c :: cs)
    else if 0xf0 ≤ b && b ≤ 0xf4 then
      match bs with
      | [] => [replacement]
      | c :: cs =>
        if secondOk b c then
          match cs with
          | [] => [replacement]
          | d :: ds =>
            if isTrail d then
              match ds with
              | [] => [replacement]
              | e :: es =>
                if isTrail e then
                  Char.ofNat ((b.toNat - 0xf0) * 262144 + (c.toNat - 0x80) * 4096 + (d.toNat - 0x80) * 64 +
                    (e.toNat - 0x80)) :: utf8Text es
                else replacement :: utf8Text (e :: es)
            else replacement :: utf8Text (d :: ds)
        else replacement :: utf8Text (c :: cs)
    else replacement :: utf8Text bs
  termination_by bs => bs.length

end JmsNaming.Text
