import NodePki.Bytes

/-!
# UTF-8

Text as octets. Reading says where it stopped and how many octets are to blame: an octet
sequence is refused at the first octet that no continuation can mend. Reading accepts exactly
what writing produces, which the lemmas beside this module show.
-/

namespace NodePki.Utf8

/-- The octets of a character: one up to `7f`, two up to `7ff`, three up to `ffff`, else four. -/
def encodeChar (c : Char) : Bytes :=
  let n := c.toNat
  if n < 0x80 then [UInt8.ofNat n]
  else if n < 0x800 then [UInt8.ofNat (0xc0 + n / 64), UInt8.ofNat (0x80 + n % 64)]
  else if n < 0x10000 then
    [UInt8.ofNat (0xe0 + n / 4096), UInt8.ofNat (0x80 + n / 64 % 64), UInt8.ofNat (0x80 + n % 64)]
  else
    [UInt8.ofNat (0xf0 + n / 262144), UInt8.ofNat (0x80 + n / 4096 % 64),
      UInt8.ofNat (0x80 + n / 64 % 64), UInt8.ofNat (0x80 + n % 64)]

/-- The octets of a text. -/
def encode (s : String) : Bytes := s.toList.flatMap encodeChar

/-- Why octets are no text: `index` octets are well formed, and the next `length` ones form no
character; without a length the input ends inside a character. -/
structure Error where
  index : Nat
  length : Option Nat
  deriving DecidableEq, Repr

/-- The wording of a refusal. -/
def Error.message (e : Error) : String :=
  match e.length with
  | some n => s!"invalid utf-8 sequence of {n} bytes from index {e.index}"
  | none => s!"incomplete utf-8 byte sequence from index {e.index}"

/-- What a first octet above `7f` announces. -/
structure Lead where
  /-- Number of octets after the second one. -/
  more : Nat
  /-- Least second octet, which rules out longer forms than needed. -/
  low : Nat
  /-- Greatest second octet, which rules out surrogates and numbers past `10ffff`. -/
  high : Nat
  deriving DecidableEq, Repr

/-- The sequence that a first octet above `7f` opens, if any. -/
def lead? (a : Nat) : Option Lead :=
  if a < 0xc2 then none
  else if a < 0xe0 then some ⟨0, 0x80, 0xbf⟩
  else if a = 0xe0 then some ⟨1, 0xa0, 0xbf⟩
  else if a = 0xed then some ⟨1, 0x80, 0x9f⟩
  else if a < 0xf0 then some ⟨1, 0x80, 0xbf⟩
  else if a = 0xf0 then some ⟨2, 0x90, 0xbf⟩
  else if a < 0xf4 then some ⟨2, 0x80, 0xbf⟩
  else if a = 0xf4 then some ⟨2, 0x80, 0x8f⟩
  else none

/-- Octets that can follow the second one. -/
def isContinuation (b : UInt8) : Bool := 0x80 ≤ b.toNat && b.toNat ≤ 0xbf

/-- The six low bits that a continuation octet carries. -/
def payload (b : UInt8) : Nat := b.toNat % 64

/-- Reads characters; `index` octets came before. -/
def decodeFrom (index : Nat) : Bytes → Except Error (List Char)
  | [] => .ok []
  | a :: r₁ =>
    if a.toNat < 0x80 then
      (decodeFrom (index + 1) r₁).map (Char.ofNat a.toNat :: ·)
    else
      match lead? a.toNat with
      | none => .error ⟨index, some 1⟩
      | some lead =>
        match r₁ with
        | [] => .error ⟨index, none⟩
        | b :: r₂ =>
          if b.toNat < lead.low ∨ lead.high < b.toNat then .error ⟨index, some 1⟩
          else
            match lead.more, r₂ with
            | 0, r₂ =>
              (decodeFrom (index + 2) r₂).map
                (Char.ofNat (a.toNat % 32 * 64 + payload b) :: ·)
            | _ + 1, [] => .error ⟨index, none⟩
            | more + 1, c :: r₃ =>
              if isContinuation c then
                match more, r₃ with
                | 0, r₃ =>
                  (decodeFrom (index + 3) r₃).map
                    (Char.ofNat ((a.toNat % 16 * 64 + payload b) * 64 + payload c) :: ·)
                | _ + 1, [] => .error ⟨index, none⟩
                | _ + 1, d :: r₄ =>
                  if isContinuation d then
                    (decodeFrom (index + 4) r₄).map
                      (Char.ofNat
                        (((a.toNat % 8 * 64 + payload b) * 64 + payload c) * 64 + payload d) :: ·)
                  else .error ⟨index, some 3⟩
              else .error ⟨index, some 2⟩

/-- The text that octets write. -/
def decode (bs : Bytes) : Except Error String := (decodeFrom 0 bs).map String.ofList

/-- The text that octets write, without the reason of a refusal. -/
def decode? (bs : Bytes) : Option String := (decode bs).toOption

end NodePki.Utf8
