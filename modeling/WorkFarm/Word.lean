/-!
# Words

Ids, counts and the integers of a record are words of a fixed number of bits.

## Main definitions

* `wordCount` — how many words of so many bits there are
-/

namespace WorkFarm

/-- The number of words of so many bits; the words themselves are the smaller natural numbers. -/
def wordCount (bits : Nat) : Nat := Nat.pow 2 bits

end WorkFarm
