/-!
UTF-8. `decode?` accepts exactly the well-formed sequences: shortest forms only, no surrogates,
nothing above U+10FFFF.
-/
set_option autoImplicit false

namespace TargetGraph.Text.Utf8

def continuation? (byte : UInt8) : Option Nat :=
  if 0x80 ≤ byte.toNat ∧ byte.toNat < 0xC0 then some (byte.toNat - 0x80) else none

/-- A character whose code needs at least the given size; shorter codes are overlong forms. -/
def scalar? (least code : Nat) : Option Char :=
  if least ≤ code ∧ code.isValidChar then some (Char.ofNat code) else none

def decode? : List UInt8 → Option (List Char)
  | [] => some []
  | first :: rest =>
    let lead := first.toNat
    if lead < 0x80 then (decode? rest).map (Char.ofNat lead :: ·)
    else if lead < 0xC0 then none
    else if lead < 0xE0 then
      match rest with
      | second :: rest => do
        let low ← continuation? second
        let c ← scalar? 0x80 ((lead - 0xC0) * 64 + low)
        (decode? rest).map (c :: ·)
      | _ => none
    else if lead < 0xF0 then
      match rest with
      | second :: third :: rest => do
        let middle ← continuation? second
        let low ← continuation? third
        let c ← scalar? 0x800 (((lead - 0xE0) * 64 + middle) * 64 + low)
        (decode? rest).map (c :: ·)
      | _ => none
    else if lead < 0xF8 then
      match rest with
      | second :: third :: fourth :: rest => do
        let high ← continuation? second
        let middle ← continuation? third
        let low ← continuation? fourth
        let c ← scalar? 0x10000 ((((lead - 0xF0) * 64 + high) * 64 + middle) * 64 + low)
        (decode? rest).map (c :: ·)
      | _ => none
    else none

def width (c : Char) : Nat :=
  if c.toNat < 0x80 then 1 else if c.toNat < 0x800 then 2 else if c.toNat < 0x10000 then 3 else 4

end TargetGraph.Text.Utf8
