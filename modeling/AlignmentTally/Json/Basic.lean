import AlignmentTally.Number.Binary64

/-!
# JSON values

A value keeps integers apart from binary64 numbers: `10` and `10.0` are different values. The
members of an object are a list of keys with values. Reading a text gives objects in normal form
(`Json.Normal`): the keys strictly ascending, so that no key stands twice and two objects with the
same members are equal.
-/

namespace AlignmentTally

/-- A JSON value. -/
inductive Json where
  | null
  | bool (value : Bool)
  /-- A number without fraction and exponent that fits 64 bits. -/
  | integer (value : Int)
  /-- Any other number, by sign and magnitude. -/
  | float (negative : Bool) (magnitude : Binary64)
  | string (value : String)
  | array (items : List Json)
  | object (members : List (String × Json))
  deriving Repr, Inhabited

namespace Json

/-- The members of an object after `key` has been given `value`: it replaces the member of that
key, or takes its place in ascending order. -/
def insertMember (key : String) (value : Json) :
    List (String × Json) → List (String × Json)
  | [] => [(key, value)]
  | (k, v) :: rest =>
    if key = k then (key, value) :: rest
    else if key < k then (key, value) :: (k, v) :: rest
    else (k, v) :: insertMember key value rest

/-- The object with the given members, of which the last one of each key counts. -/
def ofMembers (members : List (String × Json)) : Json :=
  .object (members.foldl (fun sorted member ↦ insertMember member.1 member.2 sorted) [])

/-- The member of an object under a key. Values other than objects have no members. -/
def member? (key : String) : Json → Option Json
  | object members => members.lookup key
  | _ => none

mutual

/-- Objects, at every depth, have strictly ascending keys. -/
def Normal : Json → Prop
  | array items => NormalItems items
  | object members => (members.map Prod.fst).Pairwise (· < ·) ∧ NormalMembers members
  | _ => True

/-- Each item is in normal form. -/
def NormalItems : List Json → Prop
  | [] => True
  | item :: rest => Normal item ∧ NormalItems rest

/-- The value of each member is in normal form. -/
def NormalMembers : List (String × Json) → Prop
  | [] => True
  | (_, value) :: rest => Normal value ∧ NormalMembers rest

end

/-! ### Members after an insertion -/

theorem lookup_insertMember_self (key : String) (value : Json) (members : List (String × Json)) :
    (insertMember key value members).lookup key = some value := by
  fun_induction insertMember key value members with
  | case1 => simp
  | case2 => simp
  | case3 => simp
  | case4 k v rest hne _ ih => simp [List.lookup_cons, ih, beq_eq_false_iff_ne.2 hne]

theorem lookup_insertMember_of_ne {key other : String} (h : other ≠ key) (value : Json)
    (members : List (String × Json)) :
    (insertMember key value members).lookup other = members.lookup other := by
  fun_induction insertMember key value members with
  | case1 => simp [List.lookup_cons, beq_eq_false_iff_ne.2 h]
  | case2 v rest => simp [List.lookup_cons, beq_eq_false_iff_ne.2 h]
  | case3 k v rest _ _ => simp [List.lookup_cons, beq_eq_false_iff_ne.2 h]
  | case4 k v rest _ _ ih => simp only [List.lookup_cons, ih]

end Json

end AlignmentTally
