import SqlWeave.Text.Decimal

/-!
# IPv6 addresses

Eight groups of sixteen bits. Two colons next to each other stand for a run of zero groups, and the
last two groups may be written as four decimal numbers. An address is written with the longest run
of at least two zero groups left out.
-/
namespace SqlWeave.Url

/-- The parts of a text between separators. -/
def splitAt (separator : Char) : List Char → List (List Char)
  | [] => [[]]
  | c :: text =>
    match splitAt separator text with
    | [] => [[]]
    | part :: parts => if c = separator then [] :: part :: parts else (c :: part) :: parts

def readGroup? (text : List Char) : Option Nat :=
  if 1 ≤ text.length ∧ text.length ≤ 4 then Text.readHex? text else none

/-- A decimal number below 256 without zeros in front. -/
def readOctet? (text : List Char) : Option Nat :=
  if 1 < text.length ∧ text.head? = some '0' then none
  else (Text.readDecimal? text).filter (· < 256)

def readOctets? (text : List Char) : Option (List Nat) := do
  match ← (splitAt '.' text).mapM readOctet? with
  | [a, b, c, d] => some [a * 256 + b, c * 256 + d]
  | _ => none

/-- The last group, or four decimal numbers in its place where they are allowed. -/
def readLastGroup? (octets : Bool) (text : List Char) : Option (List Nat) :=
  if octets ∧ text.contains '.' then readOctets? text else (readGroup? text).map ([·])

/-- Groups with a colon between each two; there may be none. -/
def readGroups? (octets : Bool) (text : List Char) : Option (List Nat) :=
  if text.isEmpty then some []
  else do
    let parts := splitAt ':' text
    let groups ← parts.dropLast.mapM readGroup?
    let last ← readLastGroup? octets (parts.getLast?.getD [])
    some (groups ++ last)

/-- Cuts a text at its first pair of colons. -/
def cutAtPair : List Char → Option (List Char × List Char)
  | ':' :: ':' :: text => some ([], text)
  | c :: text => (cutAtPair text).map fun (before, after) => (c :: before, after)
  | [] => none

def readIpv6? (text : List Char) : Option (List Nat) :=
  match cutAtPair text with
  | none => (readGroups? true text).filter (·.length = 8)
  | some (before, after) => do
    let front ← readGroups? false before
    let back ← readGroups? true after
    let known := front.length + back.length
    if known ≤ 7 then some (front ++ List.replicate (8 - known) 0 ++ back) else none

def zerosInFront (groups : List Nat) : Nat := (groups.takeWhile (· = 0)).length

/-- The place and length of the longest run of zeros, the first one if there are several. -/
def longestZeros (groups : List Nat) : Nat × Nat :=
  (List.range groups.length).foldl (fun best i =>
    let length := zerosInFront (groups.drop i)
    if best.2 < length then (i, length) else best) (0, 0)

/-- Groups in hexadecimal without zeros in front, a colon between each two. -/
def groupsText (groups : List Nat) : List Char :=
  [':'].intercalate (groups.map fun group => Nat.toDigits 16 group)

def ipv6Text (groups : List Nat) : List Char :=
  let (start, length) := longestZeros groups
  if length < 2 then groupsText groups
  else groupsText (groups.take start) ++ ':' :: ':' :: groupsText (groups.drop (start + length))

end SqlWeave.Url
