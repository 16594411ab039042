import Gatekeeper.Text.Utf8

/-!
# `Gatekeeper.Files`: the files a program start reads

Settings and seeds come from files. A file system is what reading each path
gives: bytes, or the reason why there are none.
-/

set_option autoImplicit false

namespace Gatekeeper

/-- Why a file gives no text. -/
inductive FileFault where
  /-- There is no such file. -/
  | missing
  /-- The file's bytes are not UTF-8. -/
  | notText
  /-- The system's own words for any other reason. -/
  | unreadable (reason : String)
  deriving DecidableEq, Repr

/-- The wording of a fault. -/
def FileFault.message : FileFault → String
  | .missing => "No such file or directory (os error 2)"
  | .notText => "stream did not contain valid UTF-8"
  | .unreadable reason => reason

/-- What reading each path gives. -/
abbrev Files := String → Except FileFault (List UInt8)

/-- The text in a file. -/
def Files.readText (files : Files) (path : String) : Except FileFault String :=
  match files path with
  | .error fault => .error fault
  | .ok bytes =>
    match Text.Utf8.decodeString? bytes with
    | some text => .ok text
    | none => .error .notText

end Gatekeeper
