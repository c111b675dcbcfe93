import AlignmentTally.Command.Options
import AlignmentTally.Number.Scaled

/-!
# Units of sizes

How commands show the size of files and of the room that they take: as a number of units of some
octets, rounded up, or in the largest unit that leaves at least one of them.
-/

namespace AlignmentTally.Command

open Machine

/-- How sizes are shown. -/
structure BlockUnit where
  /-- The octets of a unit. -/
  octets : Nat := 1024
  /-- Whether the unit is the largest one that leaves at least one of them. -/
  scales : Bool := false
  /-- What the next larger unit is worth. -/
  base : Nat := 1024
  /-- Whether the letter of the unit is shown. -/
  showsLetter : Bool := false
  /-- Whether a letter for octets is shown behind that. -/
  showsOctets : Bool := false
  deriving DecidableEq, Repr

namespace BlockUnit

/-- The largest unit, as a power of 1024. -/
def human : BlockUnit := { octets := 1, scales := true, showsLetter := true }

/-- The largest unit, as a power of 1000. -/
def decimal : BlockUnit := { human with base := 1000 }

/-- The power of a base that reaches a number. -/
def powerFor (base n : Nat) : Nat → Nat → Nat → Nat
  | 0, _, exponent => exponent
  | rounds + 1, power, exponent =>
    if power < n then powerFor base n rounds (power * base) (exponent + 1) else exponent

/-- A number of pieces of some octets as it is shown. -/
def write (unit : BlockUnit) (n piece : Nat) : Text :=
  let scaled : Scaled :=
    if unit.scales then
      Scaled.ofQuotient true unit.base (n * piece) Scaled.maxExponent 0 1
    else ⟨(n * piece + unit.octets - 1) / unit.octets, none,
      powerFor unit.base unit.octets Scaled.maxExponent 1 0⟩
  let letters : Text :=
    if ¬ unit.showsLetter then []
    else
      let isBinary := unit.base = 1024
      (scaled.letter? !isBinary).toList ++
        (if unit.showsOctets then
          (if isBinary ∧ scaled.exponent ≠ 0 then ['i'] else []) ++ ['B']
        else [])
  scaled.digits ++ letters

/-- The units that can be asked for by a letter. -/
def letters : String := "eEgGkKmMpPtTyYzZ"

/-- Why a text asks for no unit. -/
inductive Fault where
  /-- It is no number. -/
  | invalid
  /-- It has no unit at its end. -/
  | badEnd
  /-- The number is too large. -/
  | tooLarge
  deriving DecidableEq, Repr

/-- The unit that a text asks for. -/
def read (text : Text) : Except Fault BlockUnit := do
  let text := if text.head? = some '\'' then text.drop 1 else text
  if text = "human-readable".toList then return human
  if text = "si".toList then return decimal
  let (digits, rest) := Amount.digits text
  let capital (text : Text) : Text :=
    match text with
    | c :: rest => if "egptyz".toList.contains c then c.toUpper :: rest else c :: rest
    | [] => []
  let unit? := Amount.unit? letters (capital rest)
  let worth ←
    match rest, unit? with
    | [], _ => pure 1
    | _, some (worth, []) => pure worth
    | _, some _ => throw .badEnd
    | _, none => throw (if digits.isEmpty then .invalid else .badEnd)
  if digits.isEmpty ∧ rest.isEmpty then throw .invalid
  let n := if digits.isEmpty then 1 else Text.natOfDigits 10 digits
  let octets := n * worth
  if Amount.greatest < octets then throw .tooLarge
  if octets = 0 then throw .invalid
  let ends (text : String) : Bool := Text.beginsWith rest.reverse text.toList.reverse
  return {
    octets
    base := if ends "B" && !ends "iB" then 1000 else 1024
    showsLetter := digits.isEmpty
    showsOctets := digits.isEmpty && ends "B" }

/-- The unit that an option asks for. A fault ends the command with some status. -/
def ofOption (option : String) (text : Text) (status : Nat) : Work BlockUnit :=
  match read text with
  | .ok unit => return unit
  | .error .invalid =>
    Work.fail ("invalid " ++ option.toList ++ " argument " ++ Quoted.word text) status
  | .error .badEnd =>
    Work.fail ("invalid suffix in " ++ option.toList ++ " argument " ++ Quoted.word text) status
  | .error .tooLarge => Work.fail (option.toList ++ " argument " ++ Quoted.word text ++ " too large")
    status

/-- The unit that the values ask for, under a name of the command's own or under the usual ones. -/
def ofValues (own : String) : Work BlockUnit := do
  let values := (← get).values
  let asked := [own, "BLOCK_SIZE", "BLOCKSIZE"].findSome? fun name ↦ values.lookup name.toList
  match asked with
  | some text =>
    match read text with
    | .ok unit => return unit
    | .error _ => return {}
  | none =>
    return { octets := if (values.lookup "POSIXLY_CORRECT".toList).isSome then 512 else 1024 }

end BlockUnit

end AlignmentTally.Command
