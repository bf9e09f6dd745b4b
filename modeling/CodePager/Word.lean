/-! # Numbers of 64 bits

Which integers a word of 64 bits can hold: without a sign (`IsCount`), or with one (`IsSigned`). -/

namespace CodePager

/-- An integer that fits 64 bits without a sign. -/
abbrev IsCount (n : Int) : Prop := 0 ≤ n ∧ n < 0x10000000000000000

/-- An integer that fits 64 bits with a sign. -/
abbrev IsSigned (n : Int) : Prop := -0x8000000000000000 ≤ n ∧ n < 0x8000000000000000

/-- The largest number of 64 bits without a sign. -/
def maxCount : Nat := 0xFFFFFFFFFFFFFFFF

/-- The largest number of 64 bits with a sign. -/
def maxSigned : Nat := 0x7FFFFFFFFFFFFFFF

/-- A signed word holds such an integer: `IsSigned n.toInt`. -/
theorem isSigned_toInt (n : Int64) : IsSigned n.toInt := ⟨n.le_toInt, n.toInt_lt⟩

end CodePager
