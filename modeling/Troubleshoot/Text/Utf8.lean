namespace Troubleshoot.Text

-- The first sequence of bytes that encodes nothing; `length` is absent where the text just ends.
structure Utf8Error where
  start : Nat
  length : Option Nat
deriving DecidableEq, Repr

namespace Utf8Error

def message (e : Utf8Error) : String :=
  match e.length with
  | some n => s!"invalid utf-8 sequence of {n} bytes from index {e.start}"
  | none => s!"incomplete utf-8 byte sequence from index {e.start}"

end Utf8Error

namespace Utf8

-- The second bytes that may follow `lead`: overlong forms, surrogates and code points that are too
-- large are shut out here.
def seconds (lead : UInt8) : UInt8 × UInt8 :=
  if lead = 0xe0 then (0xa0, 0xbf)
  else if lead = 0xed then (0x80, 0x9f)
  else if lead = 0xf0 then (0x90, 0xbf)
  else if lead = 0xf4 then (0x80, 0x8f)
  else (0x80, 0xbf)

-- How many bytes the character has that starts with `lead`; zero if none does.
def width (lead : UInt8) : Nat :=
  if lead < 0x80 then 1
  else if 0xc2 ≤ lead && lead ≤ 0xdf then 2
  else if 0xe0 ≤ lead && lead ≤ 0xef then 3
  else if 0xf0 ≤ lead && lead ≤ 0xf4 then 4
  else 0

-- A character that is being read: its bits so far, and how many bytes are to come.
structure Pending where
  bits : Nat
  seen : Nat
  missing : Nat
  low : UInt8
  high : UInt8

def start (lead : UInt8) (width : Nat) : Pending :=
  let (low, high) := seconds lead
  ⟨lead.toNat % Nat.pow 2 (7 - width), 1, width - 1, low, high⟩

def Pending.push (p : Pending) (b : UInt8) : Pending :=
  ⟨p.bits * 64 + b.toNat % 64, p.seen + 1, p.missing - 1, 0x80, 0xbf⟩

-- Reads on from position `index`, inside a character if one is pending.
def decodeFrom (index : Nat) : Option Pending → List UInt8 → Except Utf8Error (List Char)
  | none, [] => .ok []
  | some p, [] => .error ⟨index - p.seen, none⟩
  | none, b :: rest =>
    match width b with
    | 0 => .error ⟨index, some 1⟩
    | 1 => (Char.ofNat b.toNat :: ·) <$> decodeFrom (index + 1) none rest
    | n => decodeFrom (index + 1) (some (start b n)) rest
  | some p, b :: rest =>
    if p.low ≤ b && b ≤ p.high then
      let p := p.push b
      if p.missing = 0 then
        (Char.ofNat p.bits :: ·) <$> decodeFrom (index + 1) none rest
      else
        decodeFrom (index + 1) (some p) rest
    else
      .error ⟨index - p.seen, some p.seen⟩

def decode (bytes : List UInt8) : Except Utf8Error String :=
  .ofList <$> decodeFrom 0 none bytes

end Utf8

end Troubleshoot.Text
