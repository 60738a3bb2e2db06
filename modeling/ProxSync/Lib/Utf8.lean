import ProxSync.Lib.Text
/-!
# Decoding UTF-8

Bytes are decoded one after another. A byte that starts a sequence says how many are to follow and
within which bounds the next one is; what cannot be continued is one error, and the byte that does
not fit is read again as a start. Reading strictly fails at an error, and reading with replacements
puts a replacement character in its place.
-/
namespace ProxSync.Lib

/-- A sequence of bytes that is not complete. -/
structure Utf8Partial where
  value : Nat
  left : Nat
  low : Nat
  high : Nat

/-- What a byte at the start of a sequence gives: a code point or an error, or a sequence that is
not complete. -/
def utf8Start (byte : Nat) : Option Char ⊕ Utf8Partial :=
  if byte < 0x80 then .inl (some (Char.ofNat byte))
  else if 0xc2 ≤ byte ∧ byte ≤ 0xdf then .inr ⟨byte - 0xc0, 1, 0x80, 0xbf⟩
  else if byte = 0xe0 then .inr ⟨0, 2, 0xa0, 0xbf⟩
  else if byte = 0xed then .inr ⟨0xd, 2, 0x80, 0x9f⟩
  else if 0xe1 ≤ byte ∧ byte ≤ 0xef then .inr ⟨byte - 0xe0, 2, 0x80, 0xbf⟩
  else if byte = 0xf0 then .inr ⟨0, 3, 0x90, 0xbf⟩
  else if 0xf1 ≤ byte ∧ byte ≤ 0xf3 then .inr ⟨byte - 0xf0, 3, 0x80, 0xbf⟩
  else if byte = 0xf4 then .inr ⟨4, 3, 0x80, 0x8f⟩
  else .inl none

/-- The code points and errors of bytes, after a sequence that is not complete. -/
def decodeUtf8 : Option Utf8Partial → List UInt8 → List (Option Char)
  | none, [] => []
  | some _, [] => [none]
  | pending, byte :: rest =>
    let begin :=
      match utf8Start byte.toNat with
      | .inl decoded => decoded :: decodeUtf8 none rest
      | .inr started => decodeUtf8 (some started) rest
    match pending with
    | none => begin
    | some ⟨value, left, low, high⟩ =>
      if low ≤ byte.toNat ∧ byte.toNat ≤ high then
        let value := value * 64 + byte.toNat % 64
        if left = 1 then some (Char.ofNat value) :: decodeUtf8 none rest
        else decodeUtf8 (some ⟨value, left - 1, 0x80, 0xbf⟩) rest
      else none :: begin

/-- The text of bytes, if there is no error. -/
def decodeStrict (bytes : List UInt8) : Option String :=
  ((decodeUtf8 none bytes).mapM id).map .ofList

/-- The text of bytes with errors replaced. -/
def decodeReplace (bytes : List UInt8) : String :=
  .ofList ((decodeUtf8 none bytes).map fun decoded => decoded.getD '\ufffd')

example : decodeStrict [0x63, 0xc3, 0xa9, 0xf0, 0x9f, 0x94, 0x94] = some "cé🔔" := by decide +kernel

example : decodeReplace [0x61, 0xe2, 0x82, 0x62, 0xff, 0xed, 0xa0] = "a\ufffdb\ufffd\ufffd\ufffd" :=
  by decide +kernel

/-- Line breaks as they are read from a file. -/
def universalNewlines : List Char → List Char
  | [] => []
  | '\r' :: '\n' :: rest => '\n' :: universalNewlines rest
  | '\r' :: rest => '\n' :: universalNewlines rest
  | char :: rest => char :: universalNewlines rest

end ProxSync.Lib
