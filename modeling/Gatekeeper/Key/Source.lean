import Gatekeeper.Files
import Gatekeeper.Key.Pair

/-!
# `Gatekeeper.Key.Source`: where the server's own key comes from

A server key is read from a seed file, drawn afresh at random, or fixed.

* `Source.load`: the key pair of a source, for the role it has to have.
-/

set_option autoImplicit false

namespace Gatekeeper.Key

/-- Where a key pair comes from. -/
inductive Source where
  /-- The given seed. -/
  | fixed (seed : Seed)
  /-- The seed text in a file. -/
  | seedFile (path : String)
  /-- A seed drawn at random. -/
  | drawn
  deriving DecidableEq

/-- Why a source yields no key pair. -/
inductive LoadFault where
  | unreadable (path : String) (fault : FileFault)
  | invalidSeed (fault : Fault)
  deriving DecidableEq, Repr

/-- The wording of a fault. -/
def LoadFault.message : LoadFault → String
  | .unreadable path fault => s!"read seed file {path}: {fault.message}"
  | .invalidSeed fault => s!"invalid seed: {fault.message}"

/-- The wording of the reason behind a fault. -/
def LoadFault.cause : LoadFault → String
  | .unreadable _ fault => fault.message
  | .invalidSeed fault => fault.message

/-- The pair that a source yields for a role; `draw` is the seed that the random
source gives. A file's seed has to be one of that role. -/
def Source.load (source : Source) (files : Files) (draw : Seed) (role : Role) :
    Except LoadFault KeyPair :=
  match source with
  | .fixed seed => .ok ⟨role, seed⟩
  | .drawn => .ok ⟨role, draw⟩
  | .seedFile path =>
    match files.readText path with
    | .error fault => .error (.unreadable path fault)
    | .ok text =>
      match KeyPair.ofSeedText text with
      | .error fault => .error (.invalidSeed fault)
      | .ok pair =>
        if pair.role = role then .ok pair else .error (.invalidSeed (.wrongRole role pair.role))

end Gatekeeper.Key
