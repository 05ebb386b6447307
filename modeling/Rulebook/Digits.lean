/-
  Rulebook.Digits

  The number that digits write in some base.  Neighbours are joined in pairs, so that
  only few of the numbers on the way are large; `ofDigits_eq` says that this is what
  adding one digit after the other gives.
-/

namespace Rulebook

/-- Join neighbouring digits in pairs, of which the first is the lower one. -/
def joinPairs (base : Nat) : List Nat → List Nat
  | low :: high :: rest => (low + base * high) :: joinPairs base rest
  | short => short

/-- Join digits until there is one.  `fuel` bounds how often pairs are joined. -/
def joinAll : Nat → Nat → List Nat → Nat
  | _, _, [] => 0
  | _, _, [digit] => digit
  | 0, base, digits => digits.foldr (fun digit n => digit + base * n) 0
  | fuel + 1, base, digits => joinAll fuel (base * base) (joinPairs base digits)

/-- The number that digits write in a base, the lowest first. -/
def ofDigits (base : Nat) (digits : List Nat) : Nat := joinAll digits.length base digits

theorem foldr_joinPairs (base : Nat) (digits : List Nat) :
    (joinPairs base digits).foldr (fun digit n => digit + base * base * n) 0 =
      digits.foldr (fun digit n => digit + base * n) 0 := by
  fun_induction joinPairs base digits with
  | case1 low high rest ih =>
    rw [List.foldr_cons, ih, List.foldr_cons, List.foldr_cons, Nat.mul_add, Nat.mul_assoc,
      Nat.add_assoc]
  | case2 short h =>
    match short, h with
    | [], _ => rfl
    | [digit], _ => simp only [List.foldr_cons, List.foldr_nil, Nat.mul_zero]
    | low :: high :: rest, h => exact absurd rfl (h low high rest)

theorem joinAll_eq (fuel base : Nat) (digits : List Nat) :
    joinAll fuel base digits = digits.foldr (fun digit n => digit + base * n) 0 := by
  fun_induction joinAll fuel base digits with
  | case1 => rfl
  | case2 => simp only [List.foldr_cons, List.foldr_nil, Nat.mul_zero, Nat.add_zero]
  | case3 => rfl
  | case4 fuel base digits _ _ ih => rw [ih, foldr_joinPairs]

theorem ofDigits_eq (base : Nat) (digits : List Nat) :
    ofDigits base digits = digits.foldr (fun digit n => digit + base * n) 0 :=
  joinAll_eq digits.length base digits

end Rulebook
