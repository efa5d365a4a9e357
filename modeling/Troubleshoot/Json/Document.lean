import Troubleshoot.Json.Token

namespace Troubleshoot

-- How an array or object ends: where it is closed, or before, where it cannot be read any further
-- although it is well formed, or where the text is no longer JSON.
inductive Ending where
  | closed | unreadable | broken
deriving DecidableEq

-- A parsed text as it was written: members in order, a key as often as it occurs, and the place where
-- the text stops being JSON. What is wrong with the value of a member counts before what is wrong with
-- the text behind it.
inductive Document where
  | null
  | bool (value : Bool)
  | number (value : Number)
  | string (value : String)
  | array (items : List Document) (ending : Ending)
  | object (members : List (String × Document)) (ending : Ending)
  -- a well-formed string or number that stands for no value
  | unreadable
  -- the place of a value where none is written
  | broken

namespace Document

instance : Inhabited Document := ⟨.null⟩

-- A value that is passed over has to be well formed, but need not stand for anything.
def wellFormed : Document → Bool
  | .broken | .array _ .broken | .object _ .broken => false
  | _ => true

-- An array or object that is not closed yet, latest first. An object has the key whose value is
-- next, if that can be read; behind a key that cannot be read nothing is kept.
inductive Frame where
  | array (items : List Document)
  | object (members : List (String × Document)) (key : Option String) (lost : Bool)

-- What may come next.
inductive Expected where
  | value | valueOrClose | key | keyOrClose | colon | commaOrClose | nothing
deriving DecidableEq

structure Partial where
  frames : List Frame
  expected : Expected
  root : Document

namespace Partial

def initial : Partial :=
  ⟨[], .value, .broken⟩

def push (p : Partial) (frame : Frame) (expected : Expected) : Partial :=
  { p with frames := frame :: p.frames, expected }

-- Adds a value where one is expected.
def put (p : Partial) (d : Document) : Partial :=
  match p.frames with
  | [] => { p with root := d, expected := .nothing }
  | .array items :: frames => { p with frames := .array (d :: items) :: frames, expected := .commaOrClose }
  | .object members (some key) lost :: frames =>
    { p with frames := .object ((key, d) :: members) none lost :: frames, expected := .commaOrClose }
  | .object .. :: _ => { p with expected := .commaOrClose }

-- Containers inside so many others cannot be read.
def depthLimit : Nat := 127

-- The container of the innermost frame, inside `depth` others.
def sealed (frame : Frame) (depth : Nat) (ending : Ending) : Document :=
  if depthLimit ≤ depth then
    match frame with
    | .array _ => .array [] (max ending)
    | .object .. => .object [] (max ending)
  else
    match frame with
    | .array items => .array items.reverse ending
    | .object members _ lost => .object members.reverse (if lost then max ending else ending)
where
  -- what cannot be read is not thereby well formed
  max : Ending → Ending
    | .closed => .unreadable
    | e => e

def close (p : Partial) : Partial :=
  match p.frames with
  | [] => p
  | frame :: frames => { p with frames }.put (sealed frame frames.length .closed)

-- Takes a token in, unless it cannot come next.
def step (p : Partial) (t : Token) : Option Partial :=
  let value (d : Document) : Option Partial :=
    if p.expected = .value ∨ p.expected = .valueOrClose then some (p.put d) else none
  match t with
  | .null => value .null
  | .bool b => value (.bool b)
  | .number n => value (n.elim .unreadable .number)
  | .string s =>
    match p.expected, p.frames with
    | .key, .object members _ lost :: frames | .keyOrClose, .object members _ lost :: frames =>
      let lost := lost || s.isNone
      some ⟨.object members (if lost then none else s) lost :: frames, .colon, p.root⟩
    | _, _ => value (s.elim .unreadable .string)
  | .openArray =>
    if p.expected = .value ∨ p.expected = .valueOrClose then
      some (p.push (.array []) .valueOrClose)
    else
      none
  | .openObject =>
    if p.expected = .value ∨ p.expected = .valueOrClose then
      some (p.push (.object [] none false) .keyOrClose)
    else
      none
  | .closeArray =>
    match p.expected, p.frames with
    | .valueOrClose, .array _ :: _ | .commaOrClose, .array _ :: _ => some p.close
    | _, _ => none
  | .closeObject =>
    match p.expected, p.frames with
    | .keyOrClose, .object .. :: _ | .commaOrClose, .object .. :: _ => some p.close
    | _, _ => none
  | .comma =>
    match p.expected, p.frames with
    | .commaOrClose, .array _ :: _ => some { p with expected := .value }
    | .commaOrClose, .object .. :: _ => some { p with expected := .key }
    | _, _ => none
  | .colon => if p.expected = .colon then some { p with expected := .value } else none
  | .bad => none

-- The document of a text that breaks off here.
def abandon (p : Partial) : Document :=
  go .broken p.frames
where
  -- `d` is the value under way; an array shows it by where it ends
  go (d : Document) : List Frame → Document
    | [] => d
    | .array items :: frames =>
      let items := match d with
        | .broken => items
        | d => d :: items
      go (sealed (.array items) frames.length .broken) frames
    | .object members key lost :: frames =>
      let members := match key with
        | some key => (key, d) :: members
        | none => members
      go (sealed (.object members none lost) frames.length .broken) frames

-- The document of the remaining tokens, and whether nothing follows it.
def finish (p : Partial) : List Token → Document × Bool
  | [] => if p.expected = .nothing then (p.root, true) else (p.abandon, true)
  | t :: ts =>
    if p.expected = .nothing then
      (p.root, false)
    else
      match p.step t with
      | some p => p.finish ts
      | none => (p.abandon, true)

end Partial

-- The document that a text starts with, and whether the text ends there.
def ofText (s : String) : Document × Bool :=
  Partial.initial.finish (Token.all s.toList)

-- The document that a value is written as.
mutual

def ofJson : Json → Document
  | .null => .null
  | .bool b => .bool b
  | .number n => .number n
  | .string s => .string s
  | .array items => .array (ofItems items) .closed
  | .object members => .object (ofMembers members) .closed

def ofItems : List Json → List Document
  | [] => []
  | item :: items => ofJson item :: ofItems items

def ofMembers : Table Json → List (String × Document)
  | ⟨keys, value⟩ => List.ofFn fun i => (keys.list.get i, ofJson (value i))

end

end Document
end Troubleshoot
