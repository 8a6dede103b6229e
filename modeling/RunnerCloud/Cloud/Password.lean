import RunnerCloud.Text.Basic

/-!
Contract: passwords for VMs to which no key gives access.

Owns:
- `Password.ofDraws`, letters and digits picked by random numbers, followed by one character of each
  kind that the cloud asks for;
- `Password.isStandard`, the form of the passwords of `standardLength`.

Does not own: the random numbers.
-/

namespace RunnerCloud.Password

def letters : List CodePoint :=
  Text.points "abcdefghijklmnopqrstuvwxyzABCDEFGHIJKLMNOPQRSTUVWXYZ0123456789"

/-- A lower-case letter, an upper-case letter, a digit and a special character. -/
def ending : Text := "aA1!"

/-- How many characters are picked. -/
def standardLength : Nat := 24

/-- The letter that a random number picks. -/
def letter (draw : Nat) : CodePoint :=
  letters.getD (draw % letters.length) 'a'

/-- The picked characters of a password. -/
def body (draws : List Nat) : List CodePoint :=
  draws.map letter

def ofDraws (draws : List Nat) : Text :=
  Text.ofPoints (body draws) ++ ending

/-- Whether a text has the form of a password of the standard length. -/
def isStandard (text : Text) : Bool :=
  text.points.length == standardLength + ending.points.length &&
    (text.points.take standardLength).all letters.contains &&
    text.points.drop standardLength == ending.points

end RunnerCloud.Password
