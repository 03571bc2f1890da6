import JobControl.Decimal.Text

/-!
# Resources

Processors are doubles, memory and disk are whole megabytes in 64 bits. Views add up with sums
that stay at the ends of the range; admission adds up with sums that report that the range is
left, so that a demand never seems smaller than it is.
-/

namespace JobControl

/-- An amount of processors, memory and disk. -/
structure Resources where
  numCpus : Float
  ramMb : Int64
  diskMb : Int64
  deriving BEq, Repr, Inhabited

namespace Resources

def empty : Resources := ⟨0, 0, 0⟩

/-- The 64-bit number nearest to a whole number. -/
def saturated (n : Int) : Int64 := Int64.ofIntClamp n

/-- A whole number, if it fits in 64 bits. -/
def checked (n : Int) : Option Int64 :=
  if Int64.minValue.toInt ≤ n ∧ n ≤ Int64.maxValue.toInt then some (Int64.ofInt n) else none

/-- The amount of so many equal shares, at most the largest that can be written. -/
def scale (r : Resources) (factor : Int32) : Resources where
  numCpus := r.numCpus * Float.ofInt factor.toInt
  ramMb := saturated (r.ramMb.toInt * factor.toInt)
  diskMb := saturated (r.diskMb.toInt * factor.toInt)

/-- The amount of so many equal shares, if it can be written. -/
def scale? (r : Resources) (factor : Int32) : Option Resources := do
  let ramMb ← checked (r.ramMb.toInt * factor.toInt)
  let diskMb ← checked (r.diskMb.toInt * factor.toInt)
  return ⟨r.numCpus * Float.ofInt factor.toInt, ramMb, diskMb⟩

/-- The sum, at most the largest that can be written. -/
def add (a b : Resources) : Resources where
  numCpus := a.numCpus + b.numCpus
  ramMb := saturated (a.ramMb.toInt + b.ramMb.toInt)
  diskMb := saturated (a.diskMb.toInt + b.diskMb.toInt)

instance : Add Resources := ⟨add⟩

/-- The sum, if it can be written. -/
def add? (a b : Resources) : Option Resources := do
  let ramMb ← checked (a.ramMb.toInt + b.ramMb.toInt)
  let diskMb ← checked (a.diskMb.toInt + b.diskMb.toInt)
  return ⟨a.numCpus + b.numCpus, ramMb, diskMb⟩

/-- The sum of a list, from left to right. -/
def sum (rs : List Resources) : Resources :=
  rs.foldl add empty

/-- Some part is larger than the limit's. -/
def exceeds (r limit : Resources) : Bool :=
  r.numCpus > limit.numCpus || r.ramMb > limit.ramMb || r.diskMb > limit.diskMb

/-- Some part is below zero. -/
def hasNegative (r : Resources) : Bool :=
  r.numCpus < 0 || r.ramMb < 0 || r.diskMb < 0

def text (r : Resources) : String :=
  "ResourceAggregate(numCpus: " ++ Decimal.plain r.numCpus ++ ", ramMb: " ++ toString r.ramMb
    ++ ", diskMb: " ++ toString r.diskMb ++ ")"

end Resources

end JobControl
