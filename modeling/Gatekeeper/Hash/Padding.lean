import Gatekeeper.Bytes

/-!
# `Gatekeeper.Hash.Padding`: how a message fills whole blocks

Both digests of this library cut their message into blocks. The message is
closed by one set bit, then zeros, then its own length in bits, so that the
last block is full and two messages of different length never pad to the same
bytes.

* `pad`: the padded message.
-/

set_option autoImplicit false

namespace Gatekeeper.Hash

open Gatekeeper.Bytes

/-- The message, one set bit, the fewest zeros that fill a multiple of `block`
bytes, and the length of the message in bits in the last `lengthBytes`. -/
def pad (block lengthBytes : Nat) (message : List UInt8) : List UInt8 :=
  let used := (message.length + 1 + lengthBytes) % block
  message ++ 0x80 :: List.replicate ((block - used) % block) 0 ++
    bigEndian lengthBytes (8 * message.length)

end Gatekeeper.Hash
