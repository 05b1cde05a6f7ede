/-!
# Tickets

A ticket tells requests apart that a limiter logs at one instant.  It is a 128-bit number, written
as 32 hexadecimal digits in five groups.
-/

namespace Throttle.Ticket

def bound : Nat := Nat.pow 2 128

/-- The lowest `count` hexadecimal digits of a number. -/
def lowDigits (count n : Nat) : List Char :=
  (List.range count).reverse.map fun i => Nat.digitChar (n / Nat.pow 16 i % 16)

def ofNat (n : Nat) : String :=
  String.ofList (
    lowDigits 8 (n / Nat.pow 16 24) ++ ['-'] ++ lowDigits 4 (n / Nat.pow 16 20) ++ ['-'] ++
    lowDigits 4 (n / Nat.pow 16 16) ++ ['-'] ++ lowDigits 4 (n / Nat.pow 16 12) ++ ['-'] ++
    lowDigits 12 n)

end Throttle.Ticket
