import Gatekeeper.Base64Url
import Gatekeeper.Bytes

/-!
# `Gatekeeper.Nonce`: one-time texts of a handshake

A nonce is the text of 24 random bytes.
-/

set_option autoImplicit false

namespace Gatekeeper.Nonce

open Gatekeeper.Bytes

/-- The number of random bytes in a nonce. -/
def size : Nat := 24

/-- What the random source yields for one nonce. -/
abbrev Draw := Block size

/-- The nonce of a draw. -/
def ofDraw (draw : Draw) : String := String.ofList (Base64Url.encode draw.val)

end Gatekeeper.Nonce
