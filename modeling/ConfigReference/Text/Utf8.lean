/-!
# UTF-8

Files hold octets, texts hold characters.  Decoding refuses a file at the first
octet that cannot be part of a well-formed text, and says where that is, how
many octets of a sequence were read up to there, and why the text cannot go on.
-/

namespace ConfigReference.Text

/-- Why a sequence of octets is not the encoding of a character. -/
inductive Utf8Reason
  | invalidStart
  | invalidContinuation
  | unexpectedEnd
  deriving DecidableEq, Repr

/-- The place of the first malformed sequence: the position of its first octet,
that octet, and the number of octets that were read. -/
structure Utf8Fault where
  position : Nat
  octet : UInt8
  length : Nat
  reason : Utf8Reason
  deriving DecidableEq, Repr

/-- What the first octet of a character announces: how many octets follow, the
range that the second octet is confined to, and the bits the first octet
contributes. -/
structure Utf8Lead where
  following : Nat
  least : UInt8
  greatest : UInt8
  bits : Nat

/-- The announcement of a first octet beyond ASCII; an octet that begins no
character has none.  The confinement of the second octet excludes overlong
forms, surrogates and numbers beyond the last code point. -/
def utf8Lead? (octet : UInt8) : Option Utf8Lead :=
  let code := octet.toNat
  if code < 0xC2 then none
  else if code < 0xE0 then some ⟨1, 0x80, 0xBF, code - 0xC0⟩
  else if code = 0xE0 then some ⟨2, 0xA0, 0xBF, 0⟩
  else if code = 0xED then some ⟨2, 0x80, 0x9F, 0xD⟩
  else if code < 0xF0 then some ⟨2, 0x80, 0xBF, code - 0xE0⟩
  else if code = 0xF0 then some ⟨3, 0x90, 0xBF, 0⟩
  else if code < 0xF4 then some ⟨3, 0x80, 0xBF, code - 0xF0⟩
  else if code = 0xF4 then some ⟨3, 0x80, 0x8F, 4⟩
  else none

def isContinuation (octet : UInt8) : Bool :=
  0x80 ≤ octet && octet ≤ 0xBF

/-- The code point with the bits of one further octet. -/
def withContinuation (code : Nat) (octet : UInt8) : Nat :=
  code * 64 + (octet.toNat - 0x80)

def consText (code : Nat) (rest : Except Utf8Fault (List Char)) : Except Utf8Fault (List Char) :=
  rest.map (Char.ofNat code :: ·)

/-- Decodes octets of which the first stands at the given position. -/
def decodeUtf8From (position : Nat) : List UInt8 → Except Utf8Fault (List Char)
  | [] => .ok []
  | first :: rest =>
    if first < 0x80 then consText first.toNat (decodeUtf8From (position + 1) rest)
    else
      match utf8Lead? first with
      | none => .error ⟨position, first, 1, .invalidStart⟩
      | some lead =>
        match rest with
        | [] => .error ⟨position, first, 1, .unexpectedEnd⟩
        | second :: rest =>
          if second < lead.least ∨ lead.greatest < second then
            .error ⟨position, first, 1, .invalidContinuation⟩
          else if lead.following = 1 then
            consText (withContinuation lead.bits second) (decodeUtf8From (position + 2) rest)
          else
            match rest with
            | [] => .error ⟨position, first, 2, .unexpectedEnd⟩
            | third :: rest =>
              if !isContinuation third then
                .error ⟨position, first, 2, .invalidContinuation⟩
              else if lead.following = 2 then
                consText (withContinuation (withContinuation lead.bits second) third)
                  (decodeUtf8From (position + 3) rest)
              else
                match rest with
                | [] => .error ⟨position, first, 3, .unexpectedEnd⟩
                | fourth :: rest =>
                  if !isContinuation fourth then
                    .error ⟨position, first, 3, .invalidContinuation⟩
                  else
                    consText
                      (withContinuation
                        (withContinuation (withContinuation lead.bits second) third) fourth)
                      (decodeUtf8From (position + 4) rest)

def decodeUtf8 (octets : List UInt8) : Except Utf8Fault (List Char) :=
  decodeUtf8From 0 octets

def encodeUtf8 (text : List Char) : List UInt8 :=
  text.flatMap String.utf8EncodeChar

end ConfigReference.Text
