/-!
# Sets of characters

A set of characters is kept as the ascending code points at which membership
changes, starting from outside. All Boolean operations on two sets are one merge
of their boundaries, with the operation applied to the two memberships.
-/

namespace ScopeQuery

/-- A set of characters by its boundaries: a character belongs to the set when
an odd number of boundaries are at most its code point. -/
structure CharSet where
  /-- The code points at which membership changes, in ascending order. -/
  bounds : List Nat
deriving DecidableEq

namespace CharSet

/-- Membership after the boundaries up to `n`, from a given start. -/
def insideAt (n : Nat) : Bool → List Nat → Bool
  | inside, [] => inside
  | inside, bound :: rest => if n < bound then inside else insideAt n (!inside) rest

/-- Whether a character belongs to the set. -/
def contains (set : CharSet) (c : Char) : Bool := insideAt c.toNat false set.bounds

/-- One code point past the last. -/
def codeEnd : Nat := 0x110000

/-- No character. -/
def empty : CharSet := ⟨[]⟩

/-- Every character. -/
def full : CharSet := ⟨[0]⟩

/-- The characters from one code point to another, both included. -/
def range (first last : Nat) : CharSet := ⟨[first, last + 1]⟩

/-- One character. -/
def single (c : Char) : CharSet := range c.toNat c.toNat

/-- The characters outside the set. -/
def complement (set : CharSet) : CharSet :=
  match set.bounds with
  | 0 :: rest => ⟨rest⟩
  | bounds => ⟨0 :: bounds⟩

/-- The boundaries of a combination, given the memberships before them and the
membership of the combination that was last written. The fuel bounds the number
of boundaries. -/
def mergeBounds (op : Bool → Bool → Bool) :
    Nat → Bool → Bool → Bool → List Nat → List Nat → List Nat
  | 0, _, _, _, _, _ => []
  | _ + 1, _, _, _, [], [] => []
  | fuel + 1, inLeft, inRight, written, left, right =>
    let (position, inLeft, inRight, left, right) : Nat × Bool × Bool × List Nat × List Nat :=
      match left, right with
      | [], [] => (0, inLeft, inRight, [], [])
      | b :: left, [] => (b, !inLeft, inRight, left, [])
      | [], b :: right => (b, inLeft, !inRight, [], right)
      | a :: left, b :: right =>
        if a < b then (a, !inLeft, inRight, left, b :: right)
        else if b < a then (b, inLeft, !inRight, a :: left, right)
        else (a, !inLeft, !inRight, left, right)
    let inside := op inLeft inRight
    let rest := mergeBounds op fuel inLeft inRight inside left right
    if inside == written then rest else position :: rest

/-- The set of the characters for which the operation on the two memberships is
true; it has to be false when both are. -/
def combine (op : Bool → Bool → Bool) (left right : CharSet) : CharSet :=
  ⟨mergeBounds op (left.bounds.length + right.bounds.length + 1) false false false
    left.bounds right.bounds⟩

/-- The characters of either set. -/
def union (left right : CharSet) : CharSet := combine (· || ·) left right

/-- The characters of both sets. -/
def inter (left right : CharSet) : CharSet := combine (· && ·) left right

/-- The characters of the first set only. -/
def diff (left right : CharSet) : CharSet := combine (fun a b => a && !b) left right

/-- The characters of exactly one set. -/
def symmDiff (left right : CharSet) : CharSet := combine xor left right

/-- The stretches of a list of boundaries, first and last code point included. -/
def stretches : List Nat → List (Nat × Nat)
  | [] => []
  | [first] => [(first, codeEnd - 1)]
  | first :: past :: rest => (first, past - 1) :: stretches rest

/-- The set as stretches of neighbouring code points. -/
def ranges (set : CharSet) : List (Nat × Nat) := stretches set.bounds

/-- How many code points the set has. -/
def size (set : CharSet) : Nat :=
  set.ranges.foldl (fun n (first, last) => n + (last + 1 - first)) 0

end CharSet

end ScopeQuery
