namespace PlotScript.Text.Utf8

inductive Reason
  | badStart
  | badContinuation
  | endsEarly
  deriving DecidableEq, Repr

def Reason.text : Reason → String
  | badStart => "invalid start byte"
  | badContinuation => "invalid continuation byte"
  | endsEarly => "unexpected end of data"

structure Fault where
  position : Nat
  count : Nat
  byte : UInt8
  reason : Reason
  deriving DecidableEq, Repr

def hex (byte : UInt8) : String :=
  String.ofList ['0', 'x', Nat.digitChar (byte.toNat / 16), Nat.digitChar (byte.toNat % 16)]

def Fault.message (fault : Fault) : String :=
  "'utf-8' codec can't decode " ++
    (if fault.count = 1 then
      "byte " ++ hex fault.byte ++ " in position " ++ toString fault.position
    else
      "bytes in position " ++ toString fault.position ++ "-" ++
        toString (fault.position + fault.count - 1)) ++
    ": " ++ fault.reason.text

/-- What the first byte of a character says: its value bits, how many bytes follow, and the bounds
of the second byte. -/
structure Start where
  bits : Nat
  following : Nat
  least : Nat
  most : Nat
  deriving DecidableEq, Repr

def start? (byte : Nat) : Option Start :=
  if byte < 0x80 then some ⟨byte, 0, 0x80, 0xbf⟩
  else if byte < 0xc2 then none
  else if byte < 0xe0 then some ⟨byte - 0xc0, 1, 0x80, 0xbf⟩
  else if byte < 0xf0 then
    some ⟨byte - 0xe0, 2, if byte = 0xe0 then 0xa0 else 0x80, if byte = 0xed then 0x9f else 0xbf⟩
  else if byte < 0xf5 then
    some ⟨byte - 0xf0, 3, if byte = 0xf0 then 0x90 else 0x80, if byte = 0xf4 then 0x8f else 0xbf⟩
  else none

def continuation (taken : Nat) (bits least most : Nat) :
    Nat → List UInt8 → Except (Nat × Reason) Nat
  | 0, _ => .ok bits
  | _ + 1, [] => .error (taken, .endsEarly)
  | following + 1, byte :: rest =>
    if least ≤ byte.toNat ∧ byte.toNat ≤ most then
      continuation (taken + 1) (bits * 64 + (byte.toNat - 0x80)) 0x80 0xbf following rest
    else .error (taken, .badContinuation)

/-- The characters of bytes that stand at `position`, the first `passed` of which belong to a
character that has been read. -/
def decodeFrom (position passed : Nat) : List UInt8 → Except Fault (List Char)
  | [] => .ok []
  | byte :: rest =>
    match passed with
    | passed + 1 => decodeFrom (position + 1) passed rest
    | 0 =>
      match start? byte.toNat with
      | none => .error ⟨position, 1, byte, .badStart⟩
      | some start =>
        match continuation 1 start.bits start.least start.most start.following rest with
        | .error (count, reason) => .error ⟨position, count, byte, reason⟩
        | .ok value => do
          return Char.ofNat value :: (← decodeFrom (position + 1) start.following rest)

def decode (bytes : List UInt8) : Except Fault (List Char) := decodeFrom 0 0 bytes

end PlotScript.Text.Utf8
