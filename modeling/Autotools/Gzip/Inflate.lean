import Autotools.Gzip.Huffman

/-! Unpacking compressed data: a sequence of blocks, each stored as it is, or written in a code that
has words for bytes and for repetitions of what came before. -/

namespace Autotools.Gzip

/-- A range of numbers that one symbol stands for: the least of them, and how many bits tell which
one is meant. -/
structure Step where
  base : Nat
  extra : Nat
deriving DecidableEq, Inhabited, Repr

/-- The ranges of some sizes, one after the other. -/
def steps (base : Nat) : List Nat → List Step
  | [] => []
  | extra :: rest => ⟨base, extra⟩ :: steps (base + 1 <<< extra) rest

/-- The lengths of repetitions. The longest has a symbol of its own. -/
def lengthSteps : List Step :=
  steps 3 [0, 0, 0, 0, 0, 0, 0, 0, 1, 1, 1, 1, 2, 2, 2, 2, 3, 3, 3, 3, 4, 4, 4, 4, 5, 5, 5, 5]
    ++ [⟨258, 0⟩]

/-- How far back a repetition begins. -/
def distanceSteps : List Step :=
  steps 1 [0, 0, 0, 0, 1, 1, 2, 2, 3, 3, 4, 4, 5, 5, 6, 6, 7, 7, 8, 8, 9, 9, 10, 10, 11, 11, 12, 12,
    13, 13]

/-- The number that a symbol and the bits after it stand for. -/
def stepNumber (table : List Step) (symbol : Nat) : Reader Nat :=
  match table[symbol]? with
  | none => throw .corrupt
  | some step => return step.base + (← number step.extra)

/-- What was unpacked so far, the last byte first, with bytes from some distance back repeated.
Before the first byte there are zeros. -/
def again (distance : Nat) : Nat → List UInt8 → List UInt8
  | 0, out => out
  | n + 1, out => again distance n ((out[distance - 1]?.getD 0) :: out)

/-- The two codes of a block. -/
structure Codes where
  content : CodeTree
  distance : CodeTree

/-- The symbol that ends a block; those below are bytes, and those above are repetitions. -/
def endSymbol : Nat := 256

/-- A repetition, from the symbol of its length on. -/
def repetition (codes : Codes) (symbol : Nat) (out : List UInt8) : Reader (List UInt8) := do
  let length ← stepNumber lengthSteps (symbol - endSymbol - 1)
  let far ← codes.distance.symbol
  let distance ← stepNumber distanceSteps far
  return again distance length out

/-- The content of a coded block, of at most so many symbols. -/
def coded (codes : Codes) : Nat → List UInt8 → Reader (List UInt8)
  | 0, _ => throw .truncated
  | fuel + 1, out => do
    let symbol ← codes.content.symbol
    if symbol < endSymbol then coded codes fuel (symbol.toUInt8 :: out)
    else if symbol = endSymbol then return out
    else coded codes fuel (← repetition codes symbol out)

/-- The content of a stored block: its size, the same with every bit turned, and its bytes. -/
def stored (out : List UInt8) : Reader (List UInt8) := do
  align
  let size ← number 16
  let turned ← number 16
  if size + turned = 0xFFFF then return (← bytes size).reverse ++ out else throw .corrupt

/-- The codes of a block that does not bring its own. -/
def fixedCodes : Except Failure Codes := do
  let lengths := List.replicate 144 8 ++ List.replicate 112 9 ++ List.replicate 24 7
    ++ List.replicate 8 8
  return ⟨← code lengths, ← code (List.replicate 32 5)⟩

/-- The order in which the lengths of the code for lengths are given. -/
def lengthOrder : List Nat := [16, 17, 18, 0, 8, 7, 9, 6, 10, 5, 11, 4, 12, 3, 13, 2, 14, 1, 15]

/-- The lengths of the code for lengths, from so many that are given. -/
def metaLengths (count : Nat) : Reader (List Nat) := do
  let placed := lengthOrder.zip (← numbers 3 count)
  return (List.range lengthOrder.length).map fun symbol => (placed.lookup symbol).getD 0

/-- A run of lengths: one length, the last one again, or zeros. -/
def lengthRun (symbol : Nat) (last : Option Nat) : Reader (List Nat) :=
  match symbol, last with
  | 16, none => throw .corrupt
  | 16, some n => return List.replicate ((← number 2) + 3) n
  | 17, _ => return List.replicate ((← number 3) + 3) 0
  | 18, _ => return List.replicate ((← number 7) + 11) 0
  | n, _ => return [n]

/-- So many lengths in the code for lengths, after those that were read. Every run gives at least
one, so they are read in at most as many runs. -/
def codedLengths (tree : CodeTree) (count : Nat) : Nat → List Nat → Reader (List Nat)
  | 0, _ => throw .corrupt
  | fuel + 1, lengths =>
    if lengths.length = count then return lengths
    else if count < lengths.length then throw .corrupt
    else do
      let symbol ← tree.symbol
      codedLengths tree count fuel (lengths ++ (← lengthRun symbol lengths.getLast?))

/-- The codes that a block brings along. -/
def ownCodes : Reader Codes := do
  let contentCount := (← number 5) + 257
  let distanceCount := (← number 5) + 1
  let given := (← number 4) + 4
  if contentCount > 286 || distanceCount > 30 then throw .corrupt
  else
    let tree ← code (← metaLengths given)
    let count := contentCount + distanceCount
    let lengths ← codedLengths tree count (count + 1) []
    return ⟨← code (lengths.take contentCount), ← code (lengths.drop contentCount)⟩

/-- The content of a block of some kind. Every symbol takes a bit at least. -/
def block (kind : Nat) (out : List UInt8) : Reader (List UInt8) :=
  match kind with
  | 0 => stored out
  | 1 => do coded (← fixedCodes) ((← left) + 1) out
  | 2 => do coded (← ownCodes) ((← left) + 1) out
  | _ => throw .corrupt

/-- The blocks up to the last one, of at most so many. -/
def blocks : Nat → List UInt8 → Reader (List UInt8)
  | 0, _ => throw .truncated
  | fuel + 1, out => do
    let isLast ← bit
    let kind ← number 2
    let out ← block kind out
    if isLast then return out else blocks fuel out

/-- What compressed data unpacks to. -/
def inflate : Reader (List UInt8) := do
  return (← blocks ((← left) + 1) []).reverse

end Autotools.Gzip
