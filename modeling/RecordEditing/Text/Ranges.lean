/-!
Character classes given as ranges of code points.
-/
namespace RecordEditing

abbrev CodeRange := Nat × Nat

def CodeRange.has (r : CodeRange) (c : Char) : Bool := r.1 ≤ c.toNat && c.toNat ≤ r.2

def inRanges (rs : List CodeRange) (c : Char) : Bool := rs.any (·.has c)

end RecordEditing
