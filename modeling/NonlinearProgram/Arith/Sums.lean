import NonlinearProgram.Arith.Basic

/-!
# Sums over vectors

Inner products and largest magnitudes, with the order of the additions and comparisons fixed. An
inner product adds up blocks of eight products in eight lanes, joins the lanes, and then adds the
products that are left over.
-/

namespace NonlinearProgram

variable {R : Type} [Arith R]

/-- One running sum per position in a block of eight. -/
abbrev Lanes (R : Type) := Vector R 8

namespace Lanes

def zero : Lanes R := .replicate 8 0

/-- Adds a block of products, one to each lane. -/
def add (lanes : Lanes R) (block : Vector (R × R) 8) : Lanes R :=
  lanes.zipWith (fun sum (left, right) => sum + left * right) block

/-- Joins the lanes: each of the first four with its counterpart among the last four. -/
def join (lanes : Lanes R) : R :=
  (0 : R) + (lanes[0] + lanes[4]) + (lanes[1] + lanes[5]) + (lanes[2] + lanes[6]) +
    (lanes[3] + lanes[7])

end Lanes

/-- Sum of products: blocks of eight go to the lanes, the rest is added one by one. -/
def sumProducts (lanes : Lanes R) : List (R × R) → R
  | a :: b :: c :: d :: e :: f :: g :: h :: rest =>
      sumProducts (lanes.add #v[a, b, c, d, e, f, g, h]) rest
  | rest => rest.foldl (fun sum (left, right) => sum + left * right) lanes.join

def dot {n : Nat} (left right : Vector R n) : R := sumProducts .zero (left.zip right).toList

/-- Largest magnitude of the entries, zero if there are none. -/
def largest {n : Nat} (values : Vector R n) : R :=
  match values.toList with
  | [] => 0
  | first :: rest =>
      rest.foldl (fun most value => if Arith.abs value ≤ most then most else Arith.abs value)
        (Arith.abs first)

def difference {n : Nat} (left right : Vector R n) : Vector R n :=
  left.zipWith (fun left right => left - right) right

end NonlinearProgram
