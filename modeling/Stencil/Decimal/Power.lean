/-!
# Powers of two and of ten

The numbers by which binary and decimal places are counted.
-/
namespace Stencil

def twoTo (n : Nat) : Nat := Nat.pow 2 n

def tenTo (n : Nat) : Nat := Nat.pow 10 n

end Stencil
