import SmpClient.Bytes.Basic

/-!
# Access by index

Bytes that are taken by their indexes must be there, and an index is a number of 64 bits that is
never negative.  Here both are checked at every step, so that a reader which is written with these
operations, and never comes to nothing, stays within its input.
-/

namespace SmpClient

namespace Size

/-- The difference, if it is not negative. -/
def sub? (first second : Nat) : Option Nat :=
  if second ≤ first then some (first - second) else none

theorem sub?_of_le {first second : Nat} (le : second ≤ first) :
    sub? first second = some (first - second) :=
  if_pos le

/-- Comes to nothing if a number does not have 64 bits. -/
def check? (number : Nat) : Option Unit :=
  if number < 0x10000000000000000 then some () else none

theorem check?_of_lt {number : Nat} (small : number < 0x10000000000000000) :
    check? number = some () :=
  if_pos small

end Size

namespace Bytes

/-- The bytes from `start` up to `stop`, if all of them are there. -/
def range? (bytes : Bytes) (start stop : Nat) : Option Bytes :=
  if start ≤ stop ∧ stop ≤ bytes.length then some (bytes.slice start (stop - start)) else none

theorem range?_of_le {bytes : Bytes} {start stop : Nat} (ordered : start ≤ stop)
    (within : stop ≤ bytes.length) :
    bytes.range? start stop = some (bytes.slice start (stop - start)) :=
  if_pos ⟨ordered, within⟩

theorem range?_of_lt {bytes : Bytes} {start stop : Nat} (beyond : bytes.length < stop) :
    bytes.range? start stop = none :=
  if_neg fun inside => Nat.not_lt.mpr inside.2 beyond

end Bytes

end SmpClient
