/-!
# `Gatekeeper.Key.Role`: what a key stands for

A key belongs to a user, to an account or to an operator, and its text starts
with the letter of its role.
-/

set_option autoImplicit false

namespace Gatekeeper.Key

/-- What a key stands for. -/
inductive Role where
  | user
  | account
  | operator
  deriving DecidableEq, Repr

namespace Role

/-- The letter that opens the texts of keys of this role. -/
def letter : Role → Char
  | user => 'U'
  | account => 'A'
  | operator => 'O'

/-- The role that a letter stands for. -/
def ofLetter? : Char → Option Role
  | 'U' => some user
  | 'A' => some account
  | 'O' => some operator
  | _ => none

/-- The role's name in messages. -/
def name : Role → String
  | user => "user"
  | account => "account"
  | operator => "operator"

/-- The role's name in descriptions of key pairs. -/
def title : Role → String
  | user => "User"
  | account => "Account"
  | operator => "Operator"

theorem ofLetter?_eq_some_iff {c : Char} {role : Role} :
    ofLetter? c = some role ↔ c = role.letter := by
  constructor
  · intro h
    unfold ofLetter? at h
    split at h <;> cases h <;> rfl
  · rintro rfl
    cases role <;> rfl

end Role

end Gatekeeper.Key
