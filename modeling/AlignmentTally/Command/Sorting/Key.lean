import AlignmentTally.Command.Amount
import AlignmentTally.Digest.Md5
import AlignmentTally.Number.Scanned

/-!
# Keys of lines

Lines are compared by keys, which are parts of them taken and compared in some way. Lines whose keys
are alike are compared as a whole.
-/

namespace AlignmentTally.Command

open Machine

namespace Sorting

/-- How two texts are compared. -/
inductive Manner where
  /-- By the numbers that they begin with. -/
  | numeric
  /-- By the numbers that they begin with, in any notation. -/
  | general
  /-- By the numbers that they begin with and the units after them. -/
  | units
  /-- By the names of months that they begin with. -/
  | month
  /-- In an order without any meaning. -/
  | random
  /-- By the numbers and texts in them. -/
  | version
  deriving DecidableEq, Repr

/-- In which way a key is taken and compared. -/
structure Style where
  /-- How texts are compared: in the first of these ways, or else by their characters. -/
  manners : List Manner := []
  /-- Whether blanks do not count where the key begins. -/
  skipsBlanks : Bool := false
  /-- Whether blanks do not count where the key ends. -/
  endSkipsBlanks : Bool := false
  /-- Whether only blanks, letters and digits count. -/
  dictionary : Bool := false
  /-- Whether small letters count as capital ones. -/
  folds : Bool := false
  /-- Whether only printing characters count. -/
  printing : Bool := false
  /-- Whether the order is reversed. -/
  reverse : Bool := false
  deriving DecidableEq, Repr

/-- Whether nothing is said about a style, the order aside. -/
def Style.isPlain (style : Style) : Bool := { style with reverse := false } = {}

/-- The letters for the ways to compare, the first one that is asked for being taken. -/
def mannerLetters : List (Char × Manner) :=
  [('n', .numeric), ('g', .general), ('h', .units), ('M', .month), ('R', .random),
    ('V', .version)]

/-- Where blanks do not count if that is asked for. -/
inductive BlankEnd where
  /-- Where a key begins. -/
  | start
  /-- Where it ends. -/
  | stop
  /-- At both ends. -/
  | both
  deriving DecidableEq, Repr

/-- A style with what a letter asks for. -/
def Style.with (style : Style) (blanks : BlankEnd) (letter : Char) : Style :=
  match letter with
  | 'b' =>
    { style with
      skipsBlanks := style.skipsBlanks || blanks ≠ .stop
      endSkipsBlanks := style.endSkipsBlanks || blanks ≠ .start }
  | 'd' => { style with dictionary := true, printing := false }
  | 'f' => { style with folds := true }
  | 'i' => { style with printing := !style.dictionary }
  | 'r' => { style with reverse := true }
  | letter =>
    match mannerLetters.lookup letter with
    | some manner => { style with manners := (manner :: style.manners).eraseDups }
    | none => style

/-- The letters that say how a key is compared. -/
def styleLetters : Text := "bdfirnghMRV".toList

/-- The letters of what cannot be asked for together. -/
def Style.clash? (style : Style) : Option Text :=
  let has (manner : Manner) : Bool := style.manners.contains manner
  let one (b : Bool) : Nat := if b then 1 else 0
  let other := has .version || has .random || style.dictionary || style.printing
  if one (has .numeric) + one (has .general) + one (has .units) + one (has .month) + one other
      ≤ 1 then none
  else
    let letters : List (Char × Bool) :=
      [('d', style.dictionary), ('f', style.folds), ('g', has .general), ('h', has .units),
        ('i', style.printing), ('M', has .month), ('n', has .numeric), ('R', has .random),
        ('V', has .version)]
    some ((letters.filter Prod.snd).map Prod.fst)

/-- A key: where it begins and ends in a line. -/
structure Key where
  /-- The number of fields before it. -/
  fields : Nat := 0
  /-- The number of characters before it in its field. -/
  chars : Nat := 0
  /-- The number of fields before its end, and the number of characters before its end in the field
  of its end, 0 for all of that field; `none` for the end of the line. -/
  last : Option (Nat × Nat) := none
  /-- How it is compared. -/
  style : Style := {}

/-- Whether a character is a blank. -/
def isBlank (c : Char) : Bool := c = ' ' || c = '\t' || c = '\n'

/-- What follows a number of fields of a line. -/
def afterFields (separator : Option Char) : Nat → Text → Text
  | 0, line => line
  | _ + 1, [] => []
  | n + 1, line =>
    match separator with
    | some c => afterFields separator n ((line.dropWhile (· ≠ c)).drop 1)
    | none => afterFields separator n ((line.dropWhile isBlank).dropWhile (!isBlank ·))

/-- What follows a key in a line. -/
def Key.after (key : Key) (separator : Option Char) (line : Text) : Text :=
  match key.last with
  | none => []
  | some (fields, 0) =>
    match separator with
    -- the separator after the field is not part of it
    | some c => (afterFields separator fields line).dropWhile (· ≠ c)
    | none => afterFields separator (fields + 1) line
  | some (fields, chars) =>
    let rest := afterFields separator fields line
    (if key.style.endSkipsBlanks then rest.dropWhile isBlank else rest).drop chars

/-- The key of a line. -/
def Key.of (key : Key) (separator : Option Char) (line : Text) : Text :=
  let start := afterFields separator key.fields line
  let start := if key.style.skipsBlanks then start.dropWhile isBlank else start
  let start := start.drop key.chars
  start.take (start.length - (key.after separator line).length)

/-! ### Comparing -/

/-- The order of two texts. -/
def compareTexts (a b : Text) : Ordering :=
  if a = b then .eq else if Text.before a b then .lt else .gt

/-- The number at the start of a text as whole digits and digits after the point, with its sign. -/
def numberOf (text : Text) : Bool × Text × Text :=
  let text := text.dropWhile isBlank
  let (negative, text) :=
    match text with
    | '-' :: rest => (true, rest)
    | rest => (false, rest)
  let whole := text.takeWhile Char.isDigit
  let places :=
    match text.drop whole.length with
    | '.' :: rest => rest.takeWhile Char.isDigit
    | _ => []
  let whole := whole.dropWhile (· = '0')
  let places := Text.trimEnd (· = '0') places
  (negative && !(whole.isEmpty && places.isEmpty), whole, places)

/-- The order of two amounts written in digits. -/
def compareDigits (a b : Text × Text) : Ordering :=
  (compare a.1.length b.1.length).then ((compareTexts a.1 b.1).then (compareTexts a.2 b.2))

/-- The order of the numbers at the starts of two texts. -/
def compareNumbers (a b : Text) : Ordering :=
  match numberOf a, numberOf b with
  | (false, x), (false, y) => compareDigits x y
  | (true, x), (true, y) => compareDigits y x
  | (true, _), (false, _) => .lt
  | (false, _), (true, _) => .gt

/-- The rank of the unit after a number, which is below zero if the number is. -/
def unitOf (text : Text) : Int :=
  let text := text.dropWhile isBlank
  let (negative, text) :=
    match text with
    | '-' :: rest => (true, rest)
    | rest => (false, rest)
  let whole := text.takeWhile Char.isDigit
  let rest := text.drop whole.length
  let places :=
    match rest with
    | '.' :: rest => rest.takeWhile Char.isDigit
    | _ => []
  let rest := if rest.head? = some '.' then rest.drop (places.length + 1) else rest
  if (whole ++ places).all (· = '0') then 0
  else
    let rank : Int :=
      match rest.head? with
      | some 'k' => 1
      | some c => (("KMGTPEZYRQ".toList.findIdx (· = c) + 1) % 11 : Nat)
      | none => 0
    if negative then -rank else rank

/-- The order of numbers with units. -/
def compareUnits (a b : Text) : Ordering :=
  (compare (unitOf a) (unitOf b)).then (compareNumbers a b)

/-- The order of the numbers at the starts of two texts, in any notation. -/
def compareGeneral (a b : Text) : Ordering :=
  let rank : Option (Scanned × Text) → Nat
    | none => 0
    | some (.undefined, _) => 1
    | some (.infinite true, _) => 2
    | some (.finite .., _) => 3
    | some (.infinite false, _) => 4
  let x := Scanned.read? a
  let y := Scanned.read? b
  match x, y with
  | some (.finite m n d, _), some (.finite m' n' d', _) =>
    let value (negative : Bool) (n : Nat) : Int := if negative then -(n : Int) else n
    compare (value m (n * d')) (value m' (n' * d))
  | x, y => compare (rank x) (rank y)

/-- The number of the month with whose name a text begins. -/
def monthOf (text : Text) : Nat :=
  let name := String.ofList (((text.dropWhile isBlank).take 3).map Char.toUpper)
  (["JAN", "FEB", "MAR", "APR", "MAY", "JUN", "JUL", "AUG", "SEP", "OCT", "NOV",
    "DEC"].findIdx (· = name) + 1) % 13

/-- The rank of a character in a version. -/
def versionRank : Option Char → Int
  | none => -1
  | some c =>
    if c = '~' then -2 else if c.isDigit then 0 else if c.isAlpha then c.toNat else c.toNat + 256

/-- The order of two versions, texts and numbers in turn, in at most some rounds. -/
def compareParts : Nat → Text → Text → Ordering
  | 0, _, _ => .eq
  | rounds + 1, a, b =>
    if a.isEmpty ∧ b.isEmpty then .eq
    else
      let isText (c : Char) : Bool := !c.isDigit
      let x := a.takeWhile isText
      let y := b.takeWhile isText
      let order := (List.range (max x.length y.length)).foldl
        (fun order i ↦ order.then (compare (versionRank a[i]?) (versionRank b[i]?))) .eq
      if order ≠ .eq then order
      else
        let a := a.drop x.length
        let b := b.drop y.length
        let m := a.takeWhile Char.isDigit
        let n := b.takeWhile Char.isDigit
        let order := compare (Text.natOfDigits 10 m) (Text.natOfDigits 10 n)
        if order ≠ .eq then order
        else compareParts rounds (a.drop m.length) (b.drop n.length)

/-- Whether a text is endings of a file name, each a dot, a letter and letters and digits, in at most
some rounds. -/
def isEndings : Nat → Text → Bool
  | 0, _ => false
  | rounds + 1, text =>
    match text with
    | [] => true
    | '.' :: c :: rest =>
      (c.isAlpha || c = '~') && isEndings rounds (rest.dropWhile fun c ↦ c.isAlphanum || c = '~')
    | _ => false

/-- A file name without the endings that it has. At least one character is left. -/
def withoutEndings (text : Text) : Text :=
  let places := (List.range text.length).map (· + 1)
  text.take ((places.find? fun n ↦ isEndings (text.length + 1) (text.drop n)).getD text.length)

/-- The rank of a file name among others: hidden ones come first, the directory and the one above it
before the others of them. -/
def nameRank (text : Text) : Nat :=
  if text.isEmpty then 0 else if text = ['.'] then 1 else if text = ['.', '.'] then 2
  else if text.head? = some '.' then 3 else 4

/-- The order of two file names with versions in them. Their endings count last. -/
def compareVersions (a b : Text) : Ordering :=
  let rounds := a.length + b.length + 1
  (compare (nameRank a) (nameRank b)).then <|
    (compareParts rounds (withoutEndings a) (withoutEndings b)).then (compareParts rounds a b)

/-- A key as it counts. -/
def Style.reduced (style : Style) (text : Text) : Text :=
  let text := if style.dictionary then text.filter fun c ↦ c.isAlphanum || isBlank c else text
  let text := if style.printing then text.filter fun c ↦ ' ' ≤ c && c ≤ '~' else text
  if style.folds then text.map Char.toUpper else text

/-- How two keys are compared, if not by their characters. -/
def Style.manner? (style : Style) : Option Manner :=
  (mannerLetters.map Prod.snd).find? style.manners.contains

/-- What the order without any meaning comes from. -/
inductive Salt where
  /-- A number, from which a key leads to another number. -/
  | number (n : Nat)
  /-- Octets, whose digest with a key counts. -/
  | octets (text : Text)

/-- The order of two keys that has no meaning. -/
def Salt.compare (salt : Salt) (a b : Text) : Ordering :=
  let order :=
    match salt with
    | .number n =>
      let ofKey (key : Text) : Nat :=
        key.foldl (fun (n : Nat) (c : Char) ↦ (n ^^^ c.toNat) * 1099511628211 % 18446744073709551616) n
      Ord.compare (ofKey a) (ofKey b)
    | .octets text =>
      let ofKey (key : Text) : List Nat := Digest.Md5.digest ((text ++ key).map Char.toNat)
      compareOfLessAndEq (ofKey a) (ofKey b)
  order.then (compareTexts a b)

/-- The order of two keys. -/
def Style.compare (style : Style) (salt : Salt) (a b : Text) : Ordering :=
  let a := style.reduced a
  let b := style.reduced b
  let order :=
    match style.manner? with
    | none => compareTexts a b
    | some .random => salt.compare a b
    | some .numeric => compareNumbers a b
    | some .general => compareGeneral a b
    | some .units => compareUnits a b
    | some .month => Ord.compare (monthOf a) (monthOf b)
    | some .version => compareVersions a b
  if style.reverse then order.swap else order

/-- How lines are sorted. -/
structure Plan where
  /-- The keys. -/
  keys : List Key
  /-- What separates fields. -/
  separator : Option Char
  /-- Whether lines with like keys are alike. -/
  keysOnly : Bool
  /-- Whether the order of whole lines is reversed. -/
  reverse : Bool
  /-- What the order without any meaning comes from. -/
  salt : Salt := .number 0

/-- The order of two lines by their keys. -/
def Plan.compareKeys (plan : Plan) (a b : Text) : Ordering :=
  plan.keys.foldl
    (fun order key ↦
      order.then
        (key.style.compare plan.salt (key.of plan.separator a) (key.of plan.separator b)))
    .eq

/-- The order of two lines. -/
def Plan.compare (plan : Plan) (a b : Text) : Ordering :=
  let order := plan.compareKeys a b
  if order ≠ .eq ∨ plan.keysOnly ∧ ¬ plan.keys.isEmpty then order
  else
    let order := compareTexts a b
    if plan.reverse then order.swap else order

end Sorting

end AlignmentTally.Command
