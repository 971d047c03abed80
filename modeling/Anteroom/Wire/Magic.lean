import Anteroom.Wire.Reader

/-!
# The offline magic

Every offline message carries the same sixteen bytes, which tell it apart from
other traffic on the port.
-/

namespace Anteroom

/-- The sixteen bytes that mark an offline message. -/
def magic : Bytes :=
  [0x00, 0xff, 0xff, 0x00, 0xfe, 0xfe, 0xfe, 0xfe,
    0xfd, 0xfd, 0xfd, 0xfd, 0x12, 0x34, 0x56, 0x78]

/-- Reads the magic.  Other bytes in its place are not taken. -/
def Reader.magic : Reader Unit := fun bytes =>
  match Reader.take "magic" 16 bytes with
  | .ok found rest => if found = Anteroom.magic then .ok () rest else .error .invalidMagic bytes
  | .error e rest => .error e rest

end Anteroom
