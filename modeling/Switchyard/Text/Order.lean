/-
The order of a dictionary.
-/
namespace Switchyard.Text

/-- Whether a list comes before another: where they first differ, its element comes first, or it ends. -/
def precedes {α : Type} (less : α → α → Bool) : List α → List α → Bool
  | [], ys => !ys.isEmpty
  | _ :: _, [] => false
  | x :: xs, y :: ys => less x y || (!less y x && precedes less xs ys)

/-- The order of texts by the numbers of their characters. -/
def textPrecedes (a b : String) : Bool := precedes (fun c d => c.toNat < d.toNat) a.toList b.toList

end Switchyard.Text
