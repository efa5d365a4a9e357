import Troubleshoot.Json.Literal

namespace Troubleshoot

-- Strings and numbers that are well formed but stand for nothing, such as half of a surrogate pair or a
-- number beyond all doubles, are tokens without a value: they may be passed over, but not read.
inductive Token where
  | openArray | closeArray | openObject | closeObject | comma | colon
  | null
  | bool (value : Bool)
  | number (value : Option Number)
  | string (value : Option String)
  | bad

namespace Token

-- A character of a string, or a UTF-16 unit written in hexadecimal.
inductive Piece where
  | char (c : Char)
  | unit (n : Nat)

def hexValue? (c : Char) : Option Nat :=
  if c.isDigit then some (c.toNat - '0'.toNat)
  else if 'a' ≤ c ∧ c ≤ 'f' then some (c.toNat - 'a'.toNat + 10)
  else if 'A' ≤ c ∧ c ≤ 'F' then some (c.toNat - 'A'.toNat + 10)
  else none

def hexValues? (cs : List Char) : Option Nat :=
  cs.foldlM (fun n c => (hexValue? c).map (n * 16 + ·)) 0

def escaped? : Char → Option Char
  | '"' => some '"'
  | '\\' => some '\\'
  | '/' => some '/'
  | 'b' => some '\x08'
  | 'f' => some '\x0c'
  | 'n' => some '\n'
  | 'r' => some '\r'
  | 't' => some '\t'
  | _ => none

-- The pieces of a string up to its closing quote, and what follows that.
def stringBody? : List Char → Option (List Piece × List Char)
  | [] => none
  | '"' :: rest => some ([], rest)
  | '\\' :: 'u' :: a :: b :: c :: d :: rest => do
    let n ← hexValues? [a, b, c, d]
    let (pieces, rest) ← stringBody? rest
    return (.unit n :: pieces, rest)
  | '\\' :: c :: rest => do
    let c ← escaped? c
    let (pieces, rest) ← stringBody? rest
    return (.char c :: pieces, rest)
  | c :: rest =>
    if c.toNat < 0x20 then
      none
    else do
      let (pieces, rest) ← stringBody? rest
      return (.char c :: pieces, rest)

def isHighSurrogate (n : Nat) : Bool :=
  0xd800 ≤ n && n < 0xdc00

def isLowSurrogate (n : Nat) : Bool :=
  0xdc00 ≤ n && n < 0xe000

-- The characters of a string; its surrogates have to come in pairs.
def joined? : List Piece → Option (List Char)
  | [] => some []
  | .char c :: rest => (c :: ·) <$> joined? rest
  | .unit n :: .unit m :: rest =>
    if isHighSurrogate n then
      if isLowSurrogate m then
        (.ofNat (0x10000 + (n - 0xd800) * 0x400 + (m - 0xdc00)) :: ·) <$> joined? rest
      else
        none
    else if isLowSurrogate n then
      none
    else
      (.ofNat n :: ·) <$> joined? (.unit m :: rest)
  | .unit n :: rest =>
    if isHighSurrogate n || isLowSurrogate n then none else (.ofNat n :: ·) <$> joined? rest

def isSpace (c : Char) : Bool :=
  c = ' ' || c = '\t' || c = '\n' || c = '\r'

-- The token that a text without leading blanks starts with.
def first : List Char → Token × List Char
  | '[' :: rest => (.openArray, rest)
  | ']' :: rest => (.closeArray, rest)
  | '\x7b' :: rest => (.openObject, rest)
  | '\x7d' :: rest => (.closeObject, rest)
  | ',' :: rest => (.comma, rest)
  | ':' :: rest => (.colon, rest)
  | 'n' :: 'u' :: 'l' :: 'l' :: rest => (.null, rest)
  | 't' :: 'r' :: 'u' :: 'e' :: rest => (.bool true, rest)
  | 'f' :: 'a' :: 'l' :: 's' :: 'e' :: rest => (.bool false, rest)
  | '"' :: rest =>
    match stringBody? rest with
    | some (pieces, rest) => (.string ((joined? pieces).map .ofList), rest)
    | none => (.bad, [])
  | cs =>
    match Literal.scan? cs with
    | some (literal, rest) => (.number literal.toNumber?, rest)
    | none => (.bad, [])

def all (cs : List Char) : List Token :=
  match cs.dropWhile isSpace with
  | [] => []
  | c :: rest =>
    let (token, after) := first (c :: rest)
    if after.length < cs.length then token :: all after else [token]
termination_by cs.length

end Token
end Troubleshoot
