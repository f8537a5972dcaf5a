/-! # UTF-8

A text is stored as the UTF-8 encoding of its characters.  Decoding is strict: over-long forms,
encoded surrogates, code points above the last one and cut-off sequences are refused.
-/

namespace WorkflowAudit.Text

/-- The bytes of a text. -/
def encodeUtf8 (text : List Char) : List UInt8 :=
  (String.ofList text).toUTF8.toList

/-- Whether a byte continues a sequence. -/
def isContinuation (byte : UInt8) : Bool :=
  0x80 ≤ byte && byte < 0xC0

/-- The six payload bits of a continuation byte. -/
def payload (byte : UInt8) : Nat :=
  byte.toNat % 64

/-- The characters that a sequence of bytes encodes; `none` when the sequence is not well formed. -/
def decodeUtf8? : List UInt8 → Option (List Char)
  | [] => some []
  | a :: rest =>
    if a < 0x80 then
      (decodeUtf8? rest).map (Char.ofNat a.toNat :: ·)
    else
      match rest with
      | [] => none
      | b :: rest =>
        if !isContinuation b then none
        else if 0xC2 ≤ a && a < 0xE0 then
          (decodeUtf8? rest).map (Char.ofNat (a.toNat % 32 * 64 + payload b) :: ·)
        else
          match rest with
          | [] => none
          | c :: rest =>
            if !isContinuation c then none
            else if 0xE0 ≤ a && a < 0xF0 then
              let code := a.toNat % 16 * 4096 + payload b * 64 + payload c
              if code < 0x800 || (0xD800 ≤ code && code < 0xE000) then none
              else (decodeUtf8? rest).map (Char.ofNat code :: ·)
            else
              match rest with
              | [] => none
              | d :: rest =>
                if !isContinuation d then none
                else if 0xF0 ≤ a && a < 0xF5 then
                  let code := a.toNat % 8 * 262144 + payload b * 4096 + payload c * 64 + payload d
                  if code < 0x10000 || 0x10FFFF < code then none
                  else (decodeUtf8? rest).map (Char.ofNat code :: ·)
                else none

end WorkflowAudit.Text
