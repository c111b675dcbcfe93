import AlignmentTally.Command.Options
import AlignmentTally.Digest.Blake2
import AlignmentTally.Digest.Md5
import AlignmentTally.Digest.Sha
import AlignmentTally.Digest.Sm3
import AlignmentTally.Digest.Sum

/-!
# Digests and sums of files

Commands that write digests or sums of files, and those that check digests that were written before.
A name with a line end or a backslash in it is written with escapes, which a backslash at the start
of the line announces.
-/

namespace AlignmentTally.Command

open Machine

namespace Checksum

/-- A way to a digest or a sum. -/
inductive Algorithm where
  /-- The sum of octets. -/
  | plainSum
  /-- The sum of octets that is turned before each of them. -/
  | turningSum
  /-- The rest of a division of polynomials. -/
  | cyclic
  /-- The digest of 128 bits. -/
  | md5
  /-- The digest of 160 bits. -/
  | sha1
  /-- The digest of 256 bits with two permutations. -/
  | sm3
  /-- The digest of 224 bits. -/
  | sha224
  /-- The digest of 256 bits. -/
  | sha256
  /-- The digest of 384 bits. -/
  | sha384
  /-- The digest of 512 bits. -/
  | sha512
  /-- The digest of some octets, at most 64. -/
  | blake2b (length : Nat)
  deriving DecidableEq, Repr

/-- The algorithms by the names under which they are chosen. -/
def algorithms : List (String × Algorithm) :=
  [("bsd", .turningSum), ("sysv", .plainSum), ("crc", .cyclic), ("md5", .md5), ("sha1", .sha1),
    ("sha224", .sha224), ("sha256", .sha256), ("sha384", .sha384), ("sha512", .sha512),
    ("blake2b", .blake2b 64), ("sm3", .sm3)]

namespace Algorithm

/-- The name in front of a digest. -/
def title : Algorithm → Text
  | .plainSum => "SYSV"
  | .turningSum => "BSD"
  | .cyclic => "CRC"
  | .md5 => "MD5"
  | .sha1 => "SHA1"
  | .sm3 => "SM3"
  | .sha224 => "SHA224"
  | .sha256 => "SHA256"
  | .sha384 => "SHA384"
  | .sha512 => "SHA512"
  | .blake2b length =>
    if length = 64 then "BLAKE2b" else "BLAKE2b-".toList ++ Text.ofNat (8 * length)

/-- Whether the result is a sum. -/
def isSum : Algorithm → Bool
  | .plainSum | .turningSum | .cyclic => true
  | _ => false

/-- The octets of the digest of a message. -/
def digest (algorithm : Algorithm) (message : List Nat) : List Nat :=
  match algorithm with
  | .plainSum => Digest.Order.mostFirst.octets 2 (Digest.Sum.plain message)
  | .turningSum => Digest.Order.mostFirst.octets 2 (Digest.Sum.turning message)
  | .cyclic => Digest.Order.mostFirst.octets 4 (Digest.Sum.cyclic message)
  | .md5 => Digest.Md5.digest message
  | .sha1 => Digest.Sha1.digest message
  | .sm3 => Digest.Sm3.digest message
  | .sha224 => Digest.Sha2.digest224 message
  | .sha256 => Digest.Sha2.digest256 message
  | .sha384 => Digest.Sha2.digest384 message
  | .sha512 => Digest.Sha2.digest512 message
  | .blake2b length => Digest.Blake2.digest length message

/-- The hexadecimal digits of a digest, if its length is fixed. -/
def digits? : Algorithm → Option Nat
  | .md5 => some 32
  | .sha1 => some 40
  | .sm3 => some 64
  | .sha224 => some 56
  | .sha256 => some 64
  | .sha384 => some 96
  | .sha512 => some 128
  | _ => none

end Algorithm

/-- Octets as hexadecimal digits. -/
def hexadecimal (octets : List Nat) : Text :=
  octets.flatMap fun octet ↦ [Nat.digitChar (octet / 16), Nat.digitChar (octet % 16)]

/-- The digits of a base of 64 digits. -/
def digits64 : Text :=
  "ABCDEFGHIJKLMNOPQRSTUVWXYZabcdefghijklmnopqrstuvwxyz0123456789+/"

/-- Octets as digits of a base of 64 digits, four for three octets. -/
def base64 (octets : List Nat) : Text :=
  (Digest.pieces 3 octets).flatMap fun group ↦
    let n := Digest.ofOctets (group ++ List.replicate (3 - group.length) 0)
    let digits := [n / 262144, n / 4096 % 64, n / 64 % 64, n % 64].map fun d ↦ digits64.getD d 'A'
    digits.take (group.length + 1) ++ List.replicate (3 - group.length) '='

/-! ### Names -/

/-- Whether a name is written with escapes. -/
def needsEscapes (name : Text) : Bool := name.any fun c ↦ c = '\\' || c = '\n' || c = '\r'

/-- A name with escapes. -/
def escaped (name : Text) : Text :=
  name.flatMap fun c ↦
    match c with
    | '\\' => ['\\', '\\']
    | '\n' => ['\\', 'n']
    | '\r' => ['\\', 'r']
    | c => [c]

/-- The name that is written with escapes. -/
def unescaped? : Text → Option Text
  | [] => some []
  | '\\' :: 'n' :: rest => (unescaped? rest).map ('\n' :: ·)
  | '\\' :: 'r' :: rest => (unescaped? rest).map ('\r' :: ·)
  | '\\' :: '\\' :: rest => (unescaped? rest).map ('\\' :: ·)
  | '\\' :: _ => none
  | c :: rest => (unescaped? rest).map (c :: ·)

/-! ### Writing -/

/-- How digests are written. -/
structure Form where
  /-- The algorithm. -/
  algorithm : Algorithm
  /-- Whether the name of the algorithm comes first. -/
  tagged : Bool := false
  /-- The sign in front of a name that follows a digest. -/
  sign : Char := ' '
  /-- What a line ends in. -/
  ending : Char := '\n'
  /-- Whether the digits are those of a base of 64 digits. -/
  isBase64 : Bool := false
  /-- Whether the octets are written themselves. -/
  isRaw : Bool := false
  /-- Whether names are shown after sums. -/
  hasNames : Bool := true

/-- The line about a file. -/
def line (form : Form) (name text : Text) : Text :=
  let message := text.map Char.toNat
  let octets := form.algorithm.digest message
  if form.isRaw then octets.map Char.ofNat
  else if form.algorithm.isSum then
    let sum := Digest.ofOctets octets
    let blocks (size : Nat) : Text := Text.ofNat ((message.length + size - 1) / size)
    let numbers : Text :=
      match form.algorithm with
      | .turningSum =>
        Text.padLeft '0' 5 (Text.ofNat sum) ++ ' ' :: Text.padLeft ' ' 5 (blocks 1024)
      | .plainSum => Text.ofNat sum ++ ' ' :: blocks 512
      | _ => Text.ofNat sum ++ ' ' :: Text.ofNat message.length
    numbers ++ (if form.hasNames then ' ' :: name else []) ++ [form.ending]
  else
    let digits := if form.isBase64 then base64 octets else hexadecimal octets
    let escapes := form.ending = '\n' ∧ needsEscapes name
    let shown := if escapes then escaped name else name
    let mark : Text := if escapes then ['\\'] else []
    if form.tagged then
      mark ++ form.algorithm.title ++ " (".toList ++ shown ++ ") = ".toList ++ digits ++
        [form.ending]
    else mark ++ digits ++ [' ', form.sign] ++ shown ++ [form.ending]

/-- Writes the digests of files. -/
def putAll (form : Form) (names : List Text) : Work Unit := do
  let form := { form with hasNames := !names.isEmpty }
  for name in if names.isEmpty then [['-']] else names do
    match ← Work.readFile? name with
    | some text => Work.put (line form name text)
    | none => pure ()

/-! ### Checking -/

/-- What a line says that is to be checked. -/
structure Entry where
  /-- The algorithm. -/
  algorithm : Algorithm
  /-- The name of the file. -/
  name : Text
  /-- The digest as it is written. -/
  digest : Text

/-- Whether a character is a hexadecimal digit. -/
def isHex (c : Char) : Bool :=
  c.isDigit || ('a' ≤ c && c ≤ 'f') || ('A' ≤ c && c ≤ 'F')

/-- Whether a text is a digest of an algorithm in digits of a base of 16 or 64 digits. -/
def isDigest (algorithm : Algorithm) (text : Text) : Bool :=
  match algorithm.digits? with
  | some count =>
    (text.length = count && text.all isHex) ||
      (text.length = (count / 2 + 2) / 3 * 4 && text.all fun c ↦ c = '=' || digits64.contains c)
  | none =>
    match algorithm with
    | .blake2b length => text.length = 2 * length && text.all isHex
    | _ => false

/-- The name of a tag and what follows its bracket, if a text begins with a tag. -/
def tag? (text : Text) : Option (Text × Text) :=
  let name := text.takeWhile fun c ↦ c.isAlphanum || c = '-'
  match text.drop name.length with
  | ' ' :: '(' :: rest | '(' :: rest => some (name, rest)
  | _ => none

/-- The algorithm with a tag out of some. -/
def ofTag? (allowed : List Algorithm) (name : Text) : Option Algorithm :=
  match allowed.find? (·.title = name) with
  | some algorithm => some algorithm
  | none =>
    if name.take 8 = "BLAKE2b-".toList then
      match Text.toNat? (name.drop 8) with
      | some bits =>
        if bits % 8 = 0 ∧ 0 < bits ∧ bits ≤ 512 ∧
          (allowed.any fun algorithm ↦ algorithm.title.take 7 = "BLAKE2b".toList) then
          some (.blake2b (bits / 8))
        else none
      | none => none
    else none

/-- The entry that a line is. `allowed` are the algorithms that may be tagged, and `usual` is the one
of lines without a tag. -/
def entry? (allowed : List Algorithm) (usual : Option Algorithm) (line : Text) : Option Entry := do
  let line := line.dropWhile fun c ↦ c = ' ' || c = '\t'
  let (escapes, line) := match line with
    | '\\' :: rest => (true, rest)
    | line => (false, line)
  let nameOf (name : Text) : Option Text := if escapes then unescaped? name else some name
  let tagged? : Option Entry := do
    let (title, rest) ← tag? line
    let algorithm ← ofTag? allowed title
    -- the last closing bracket ends the name
    let reversed := rest.reverse
    let after := reversed.takeWhile (· ≠ ')')
    if after.length = reversed.length then none
    let name ← nameOf (reversed.drop (after.length + 1)).reverse
    let isBlank (c : Char) : Bool := c = ' ' || c = '\t'
    match after.reverse.dropWhile isBlank with
    | '=' :: digest =>
      let digest := digest.dropWhile isBlank
      if isDigest algorithm digest then some ⟨algorithm, name, digest⟩ else none
    | _ => none
  match tagged? with
  | some entry => some entry
  | none =>
    let algorithm ← usual
    let digest := line.takeWhile fun c ↦ c ≠ ' ' && c ≠ '\t'
    let algorithm := match algorithm with
      | .blake2b _ => .blake2b (digest.length / 2)
      | algorithm => algorithm
    if ¬ isDigest algorithm digest then none
    match line.drop digest.length with
    | _ :: ' ' :: name | _ :: '*' :: name => return ⟨algorithm, ← nameOf name, digest⟩
    | _ :: name => return ⟨algorithm, ← nameOf name, digest⟩
    | [] => none

/-- How digests are checked. -/
structure Check where
  /-- The algorithms that may be tagged. -/
  allowed : List Algorithm
  /-- The algorithm of lines without a tag. -/
  usual : Option Algorithm
  /-- Whether files that are not there count. -/
  skipsMissing : Bool := false
  /-- Whether files that have not changed are left out. -/
  isQuiet : Bool := false
  /-- Whether nothing is shown. -/
  isSilent : Bool := false
  /-- Whether wrong lines count. -/
  isStrict : Bool := false
  /-- Whether wrong lines are shown. -/
  warns : Bool := false

/-- What came of a check. -/
structure Outcome where
  /-- The lines that are entries. -/
  proper : Nat := 0
  /-- The lines that are none. -/
  improper : Nat := 0
  /-- The files that could not be read. -/
  unread : Nat := 0
  /-- The files that have changed. -/
  changed : Nat := 0
  /-- The files that have not changed. -/
  same : Nat := 0

/-- Whether two digests are the same. -/
def isSame (entry : Entry) (octets : List Nat) : Bool :=
  let written := entry.digest
  if written.length = 2 * octets.length then written.map Char.toLower = hexadecimal octets
  else written = base64 octets

/-- Checks an entry. -/
def checkEntry (check : Check) (entry : Entry) (outcome : Outcome) : Work Outcome := do
  let outcome := { outcome with proper := outcome.proper + 1 }
  let shown := if needsEscapes entry.name then '\\' :: escaped entry.name else entry.name
  let report (words : String) : Work Unit := do
    if ¬ check.isSilent then Work.put (shown ++ ": ".toList ++ words.toList ++ ['\n'])
  let read : Work (Except SystemError Text) := do
    match ← Work.open_ entry.name with
    | .error error => return .error error
    | .ok stream =>
      let answer ← Routine.readAll stream
      Work.close stream
      return answer
  match ← read with
  | .error error =>
    if check.skipsMissing ∧ error = .notFound then return outcome
    Work.complainOf entry.name error
    report "FAILED open or read"
    return { outcome with unread := outcome.unread + 1 }
  | .ok text =>
    if isSame entry (entry.algorithm.digest (text.map Char.toNat)) then
      if ¬ check.isQuiet then report "OK"
      return { outcome with same := outcome.same + 1 }
    else
      report "FAILED"
      return { outcome with changed := outcome.changed + 1 }

/-- Warns of a number of things, if there are any. -/
def warnOf (count : Nat) (one many : String) : Work Unit := do
  if count ≠ 0 then
    Work.warn <| "WARNING: ".toList ++ Text.ofNat count ++ ' ' ::
      (if count = 1 then one else many).toList

/-- Checks the entries of a file. -/
def checkFile (check : Check) (path : Text) : Work Unit := do
  let name : Text := if path = ['-'] then "standard input" else path
  let some text ← Work.readFile? path | return
  let mut outcome : Outcome := {}
  let lines := Text.splitOn '\n' text
  let lines := if lines.getLast? = some [] then lines.dropLast else lines
  for (line, i) in lines.zipIdx do
    let line := if line.getLast? = some '\r' then line.dropLast else line
    if line.head? ≠ some '#' ∧ ¬ line.isEmpty then
      match entry? check.allowed check.usual line with
      | some entry => outcome ← checkEntry check entry outcome
      | none =>
        outcome := { outcome with improper := outcome.improper + 1 }
        if check.warns then
          let kind := ((check.usual.map (·.title)).getD "CRC".toList)
          Work.warn <| Quoted.name name ++ ": " ++ Text.ofNat (i + 1) ++ ": improperly formatted " ++ kind ++
            " checksum line"
  if outcome.proper = 0 then
    Work.complain (Quoted.name name ++ ": no properly formatted checksum lines found")
  else
    if ¬ check.isSilent then
      warnOf outcome.improper "line is improperly formatted" "lines are improperly formatted"
      warnOf outcome.unread "listed file could not be read" "listed files could not be read"
      warnOf outcome.changed "computed checksum did NOT match"
        "computed checksums did NOT match"
      if check.skipsMissing ∧ outcome.same + outcome.changed = 0 then
        Work.warn (Quoted.name name ++ ": no file was verified")
    if outcome.same = 0 ∨ outcome.changed ≠ 0 ∨ outcome.unread ≠ 0 ∨
      (check.isStrict ∧ outcome.improper ≠ 0) then Work.setStatus 1

/-! ### The commands -/

/-- The words of the options on checking. -/
def checkWords : List (String × Char) :=
  [("check", 'c'), ("ignore-missing", 'I'), ("quiet", 'Q'), ("status", 'S'), ("strict", 'X'),
    ("warn", 'w'), ("zero", 'z'), ("tag", 'T')]

/-- Refuses options that do not go together. -/
def refuseMixed (chosen : List Chosen) (tagged : Bool) : Work Unit := do
  let checks := has chosen 'c'
  let meaningless (words : String) : Work Unit :=
    Work.misuse ("the ".toList ++ words.toList ++ " when verifying checksums") 1
  let only (letter : Char) (word : String) : Work Unit := do
    if has chosen letter ∧ ¬ checks then
      meaningless ("--" ++ word ++ " option is meaningful only")
  if tagged ∧ lastOf? chosen "bt" = some 't' then
    Work.misuse "--tag does not support --text mode" 1
  if has chosen 'z' ∧ checks then meaningless "--zero option is not supported"
  if tagged ∧ checks then meaningless "--tag option is meaningless"
  if (has chosen 'b' ∨ has chosen 't') ∧ checks then
    meaningless "--binary and --text options are meaningless"
  only 'I' "ignore-missing"
  only 'S' "status"
  only 'w' "warn"
  only 'Q' "quiet"
  only 'X' "strict"

/-- Writes or checks what options ask for. -/
def run (form : Form) (check : Check) (chosen : List Chosen) (names : List Text) : Work Unit := do
  if has chosen 'c' then
    let check := { check with
      skipsMissing := has chosen 'I'
      isQuiet := lastOf? chosen "QSw" = some 'Q'
      isSilent := lastOf? chosen "QSw" = some 'S'
      isStrict := has chosen 'X'
      warns := lastOf? chosen "QSw" = some 'w' }
    for name in if names.isEmpty then [['-']] else names do
      checkFile check name
  else putAll form names

/-- Writes or checks digests of an algorithm. -/
def digestCommand (algorithm : Algorithm) (arguments : List Text) : Work Unit := do
  let isVariable := algorithm = .blake2b 64
  let (chosen, names) ← Choices.take
    { letters := if isVariable then "bctwzl:" else "bctwz"
      words := [("binary", 'b'), ("text", 't')] ++ checkWords ++
        if isVariable then [("length=", 'l')] else [] } arguments
  let mut algorithm := algorithm
  if let some text := last? chosen 'l' then
    let refuse (words : String) : Work Unit := do
      Work.warn ("invalid length: " ++ Quoted.word text)
      Work.fail words.toList 1
    match Text.toNat? text with
    | none => Work.fail ("invalid length: " ++ Quoted.word text) 1
    | some bits =>
      if 512 < bits then
        refuse "maximum digest length for 'BLAKE2b' is 512 bits"
      if bits % 8 ≠ 0 then refuse "length is not a multiple of 8"
      if bits ≠ 0 then algorithm := .blake2b (bits / 8)
  let tagged := has chosen 'T'
  refuseMixed chosen tagged
  let form : Form :=
    { algorithm, tagged
      sign := if lastOf? chosen "bt" = some 'b' then '*' else ' '
      ending := if has chosen 'z' then '\x00' else '\n' }
  run form { allowed := [algorithm], usual := some algorithm } chosen names

/-- Writes or checks digests or sums of an algorithm that an option names. -/
def cksum (arguments : List Text) : Work Unit := do
  let (chosen, names) ← Choices.take
    { letters := "a:bctwzl:"
      words := [("algorithm=", 'a'), ("base64", 'B'), ("raw", 'R'), ("untagged", 'U'),
        ("length=", 'l'), ("debug", 'D'), ("binary", 'b'), ("text", 't')] ++ checkWords } arguments
  let mut algorithm : Algorithm := .cyclic
  if let some name := last? chosen 'a' then
    algorithm ← fullMeaningOf "--algorithm" algorithms name
  if let some text := last? chosen 'l' then
    match Text.toNat? text with
    | none => Work.fail ("invalid length: " ++ Quoted.word text) 1
    | some bits =>
      if bits % 8 ≠ 0 then
        Work.warn ("invalid length: " ++ Quoted.word text)
        Work.fail "length is not a multiple of 8" 1
      if algorithm ≠ .blake2b 64 then
        Work.fail "--length is only supported with --algorithm=blake2b" 1
      if 512 < bits then
        Work.warn ("invalid length: " ++ Quoted.word text)
        Work.fail "maximum digest length for 'BLAKE2b' is 512 bits" 1
      if bits ≠ 0 then algorithm := .blake2b (bits / 8)
  if algorithm.isSum ∧ has chosen 'a' ∧ has chosen 'c' then
    Work.fail "--check is not supported with --algorithm=\x7bbsd,sysv,crc\x7d" 1
  if has chosen 'B' ∧ has chosen 'R' then
    Work.misuse "--base64 and --raw are mutually exclusive" 1
  let tagged := lastOf? chosen "TU" ≠ some 'U' && !has chosen 'c'
  refuseMixed chosen (lastOf? chosen "TU" = some 'T')
  if has chosen 'R' ∧ 1 < names.length then
    Work.fail "the --raw option is not supported with multiple files" 1
  let form : Form :=
    { algorithm, tagged
      sign := if lastOf? chosen "bt" = some 'b' then '*' else ' '
      ending := if has chosen 'z' then '\x00' else '\n'
      isBase64 := has chosen 'B'
      isRaw := has chosen 'R' }
  let digests := (algorithms.map Prod.snd).filter (!·.isSum)
  let check : Check :=
    if has chosen 'a' then { allowed := [algorithm], usual := some algorithm }
    else { allowed := digests, usual := none }
  run form check chosen names

/-- Writes sums of sixteen bits. -/
def sum (arguments : List Text) : Work Unit := do
  let (chosen, names) ← Choices.take { letters := "rs", words := [("sysv", 's')] } arguments
  let algorithm := if lastOf? chosen "rs" = some 's' then .plainSum else .turningSum
  putAll { algorithm } names

end Checksum

end AlignmentTally.Command
