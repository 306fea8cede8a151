import Phrasebook.Text.Basic

/-!
# UTF-8

Content arrives as bytes or as text. `decode` reads bytes as UTF-8 and refuses what no encoder writes:
stray or missing continuation bytes, overlong forms, surrogates and numbers past the last code point.
A byte order mark at the start of the content is dropped, once.
-/

namespace Phrasebook

/-- A sequence of bytes. -/
abbrev Bytes := List UInt8

namespace Utf8

/-- The six bits of a continuation byte. -/
def tail? (b : UInt8) : Option Nat :=
  if 0x80 ≤ b.toNat ∧ b.toNat ≤ 0xBF then some (b.toNat - 0x80) else none

/-- The code point of a lead byte's bits and the continuation bytes, unless it could be written
shorter or is a surrogate. -/
def scalar? (least n : Nat) : Option CodePoint :=
  if n < least ∨ (0xD800 ≤ n ∧ n ≤ 0xDFFF) then none else CodePoint.ofNat? n

/-- The text that the bytes encode, if they encode one. -/
def decode : Bytes → Option Text
  | [] => some []
  | a :: s =>
    let lead := a.toNat
    if lead < 0x80 then do
      let c ← scalar? 0 lead
      let t ← decode s
      some (c :: t)
    else if lead < 0xC0 then none
    else if lead < 0xE0 then
      match s with
      | b :: s' => do
        let b ← tail? b
        let c ← scalar? 0x80 ((lead - 0xC0) * 64 + b)
        let t ← decode s'
        some (c :: t)
      | _ => none
    else if lead < 0xF0 then
      match s with
      | b :: c :: s' => do
        let b ← tail? b
        let c ← tail? c
        let c ← scalar? 0x800 (((lead - 0xE0) * 64 + b) * 64 + c)
        let t ← decode s'
        some (c :: t)
      | _ => none
    else if lead < 0xF8 then
      match s with
      | b :: c :: d :: s' => do
        let b ← tail? b
        let c ← tail? c
        let d ← tail? d
        let c ← scalar? 0x10000 ((((lead - 0xF0) * 64 + b) * 64 + c) * 64 + d)
        let t ← decode s'
        some (c :: t)
      | _ => none
    else none

/-- The bytes of one code point; a surrogate is written like its neighbours. -/
def encodePoint (c : CodePoint) : Bytes :=
  let n := c.val
  let tail (m : Nat) : UInt8 := UInt8.ofNat (0x80 + m % 64)
  if n < 0x80 then [UInt8.ofNat n]
  else if n < 0x800 then [UInt8.ofNat (0xC0 + n / 64), tail n]
  else if n < 0x10000 then [UInt8.ofNat (0xE0 + n / 4096), tail (n / 64), tail n]
  else [UInt8.ofNat (0xF0 + n / 262144), tail (n / 4096), tail (n / 64), tail n]

/-- The bytes of a text. -/
def encode (t : Text) : Bytes := t.flatMap encodePoint

end Utf8

/-- What a file, a hook or a caller hands over to be read. -/
inductive Content where
  | bytes (b : Bytes)
  | text (t : Text)
deriving DecidableEq

namespace Content

/-- Nothing in it. -/
def isEmpty : Content → Bool
  | bytes b => b.isEmpty
  | text t => t.isEmpty

/-- The text of the content without a byte order mark; none if the bytes are no UTF-8. -/
def decode? (c : Content) : Option Text := do
  let t ← match c with
    | bytes b => Utf8.decode b
    | text t => some t
  match t with
  | [] => some []
  | c :: rest => some (if c.val = 0xFEFF then rest else c :: rest)

end Content

end Phrasebook
