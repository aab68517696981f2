/-!
Rounding of quotients to whole numbers.
-/
namespace StorageConsole.Number

/-- The natural nearest to `num / den`, a tie going to the even one. -/
def roundDiv (num den : Nat) : Nat :=
  let q := num / den
  let twice := 2 * (num % den)
  if twice > den || (twice == den && q % 2 == 1) then q + 1 else q

end StorageConsole.Number
