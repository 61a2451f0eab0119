import LeaseDesk.Text.LetterCase

/-!
# Verdicts on a driving license

The license register answers a check with a word. Three words are understood, one of them in two
spellings and all in any mixture of small and capital letters; any other word means that the register's
opinion is unknown, and an unknown opinion never counts as a valid license.
-/

namespace LeaseDesk

/-- What the license register says of a license. -/
inductive Verdict
  /-- the license exists and belongs to the person -/
  | valid
  /-- there is no such license -/
  | notFound
  /-- there is such a license, of another person -/
  | dataMismatch
  /-- the register's opinion was not understood -/
  | unknown
deriving DecidableEq

namespace Verdict

/-- The name of a verdict. -/
def name : Verdict → String
  | valid => "valid"
  | notFound => "not_found"
  | dataMismatch => "data_mismatch"
  | unknown => "unknown"

/-- All verdicts. -/
def all : List Verdict := [valid, notFound, dataMismatch, unknown]

/-- The verdict of exactly this name. -/
def ofName? (s : String) : Option Verdict :=
  all.find? fun v => v.name == s

/-- The verdict that a word stands for. Case does not matter, and `ok` is another word for `valid`. -/
def ofWord? (s : String) : Option Verdict :=
  let word := Text.lower s
  if word == "ok" then some valid else ofName? word

/-- Why a word is not a verdict. -/
def unknownWord (s : String) : String :=
  "Unknown license verdict: " ++ s

/-- The verdict meant by the register's word; a word that is not understood makes it unknown. -/
def ofRegister (s : String) : Verdict :=
  (ofWord? s).getD unknown

/-- Only this verdict lets a person drive. -/
def isValid (v : Verdict) : Bool :=
  v == valid

end Verdict

end LeaseDesk
