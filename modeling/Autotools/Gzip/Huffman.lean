import Autotools.Gzip.Bits

/-! Prefix codes. A code is given by the length of the code word of every symbol: shorter words come
first, and words of one length in the order of their symbols. -/

namespace Autotools.Gzip

/-- A code as a tree: the bits of a code word lead from the root to its symbol. -/
inductive CodeTree where
  | empty
  | leaf (symbol : Nat)
  | node (zero one : CodeTree)
deriving DecidableEq, Inhabited, Repr

namespace CodeTree

/-- The tree with a symbol at the end of a path. -/
def insert (symbol : Nat) : List Bool → CodeTree → CodeTree
  | [], _ => .leaf symbol
  | false :: path, .node zero one => .node (insert symbol path zero) one
  | true :: path, .node zero one => .node zero (insert symbol path one)
  | false :: path, _ => .node (insert symbol path .empty) .empty
  | true :: path, _ => .node .empty (insert symbol path .empty)

/-- The symbol whose code word comes next. -/
def symbol : CodeTree → Reader Nat
  | .empty => throw .corrupt
  | .leaf symbol => return symbol
  | .node zero one => do if ← bit then one.symbol else zero.symbol

end CodeTree

/-- A code word as a number of so many bits, and its symbol. -/
structure CodeWord where
  symbol : Nat
  length : Nat
  code : Nat
deriving DecidableEq, Inhabited, Repr

/-- The path of a code word: its highest bit comes first. -/
def CodeWord.path (w : CodeWord) : List Bool :=
  ((List.range w.length).map w.code.testBit).reverse

/-- The code words of symbols in the order of their words, from a number that is free at a
length. -/
def assign (free length : Nat) : List (Nat × Nat) → List CodeWord
  | [] => []
  | (symbol, n) :: rest =>
    let code := free <<< (n - length)
    ⟨symbol, n, code⟩ :: assign (code + 1) n rest

/-- The longest code word. -/
def maxLength : Nat := 15

/-- The symbols that have a code word, in the order of the words. -/
def used (lengths : List Nat) : List (Nat × Nat) :=
  let symbols := lengths.mapIdx fun symbol n => (symbol, n)
  (symbols.filter (·.2 ≠ 0)).mergeSort fun a b => a.2 ≤ b.2

/-- How much of the space of code words some lengths take. -/
def taken (lengths : List Nat) : Nat :=
  lengths.foldl (fun total n => if n = 0 then total else total + 1 <<< (maxLength - n)) 0

/-- Whether lengths fill the space of code words exactly. A code of a single word need not. -/
def isComplete (lengths : List Nat) : Bool :=
  taken lengths = 1 <<< maxLength || (used lengths).length ≤ 1

/-- The code of some lengths. -/
def code (lengths : List Nat) : Except Failure CodeTree :=
  if isComplete lengths then
    .ok ((assign 0 0 (used lengths)).foldl (fun tree w => tree.insert w.symbol w.path) .empty)
  else
    .error .corrupt

end Autotools.Gzip
