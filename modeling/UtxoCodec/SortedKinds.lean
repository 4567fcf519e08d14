import UtxoCodec.Error

/-!
# Collections sorted by kind

The unlock conditions and the features of an output hold at most one element of a kind, in increasing
order of kinds.
-/

namespace UtxoCodec.SortedKinds

variable {α : Type}

/-- Checks that kinds strictly increase. -/
def verifyOrder (kind : α → UInt8) (what : String) : List α → Except EncodingError Unit
  | a :: b :: rest =>
    if kind a = kind b then .error (.duplicate what (toString (kind a).toNat))
    else if kind b < kind a then .error (.unsorted what)
    else verifyOrder kind what (b :: rest)
  | _ => .ok ()

/-- Checks the count and that kinds strictly increase. -/
def verify (kind : α → UInt8) (what : String) (greatest : Nat) (items : List α) :
    Except EncodingError Unit :=
  if greatest < items.length then .error (.invalidCount what items.length greatest)
  else verifyOrder kind what items

/-- Sorts items by kind; items of one kind keep their order. -/
def sort (kind : α → UInt8) (items : List α) : List α :=
  items.mergeSort fun a b => kind a ≤ kind b

end UtxoCodec.SortedKinds
