import SyntaxOutline.Value.Basic

/-
  Values as keys, and tables in order of first use.

  Two values are the same key when they are equal as numbers,
  truth values counting as one and zero, or else equal in
  kind and content.  A number that is no number is the same key
  only as itself.  Lists, sets and mappings are no keys.  A
  table remembers under which spelling a key came first.

  Key definitions include:
    * `Key`
    * `Value.key`
    * `Table`
    * `Table.get?`
    * `Table.put`
-/

------------------------------------------------------------
-- Keys
------------------------------------------------------------

namespace SyntaxOutline

/- What a value is as a key: equal values have one key. -/
inductive Key where
  | null
  | int (n : Int)
  | float (x : Binary64)
  | nan (origin : String) (place : Nat)
  | str (s : String)
  | halved (points : List Nat)
  | bytes (bs : List UInt8)
  | day (date : CalendarDate)
  | local (date : CalendarDate) (hour minute second micro : Nat)
  | instant (micros : Int)
  | pair (first second : Key)
  deriving DecidableEq, Repr

/- A value of this kind cannot serve as a key. -/
structure Unhashable where
  kind : String
  deriving DecidableEq, Repr

namespace Unhashable

/- The text of the failure. -/
def message
    (u : Unhashable) : String :=
  "unhashable type: '" ++ u.kind ++ "'"

end Unhashable

namespace Value

/- The key of a value. -/
def key : Value → Except Unhashable Key
  | .null => .ok .null
  | .bool b => .ok (.int (if b then 1 else 0))
  | .int n => .ok (.int n)
  | .float x =>
      match x.toInt? with
      | some n => .ok (.int n)
      | none => .ok (.float x)
  | .nan origin place => .ok (.nan origin place)
  | .str s => .ok (.str s)
  | .halved points => .ok (.halved points)
  | .bytes bs => .ok (.bytes bs)
  | .moment (.day d) => .ok (.day d)
  | .moment (.time d hour minute second micro none) =>
      .ok (.local d hour minute second micro)
  | .moment (.time d hour minute second micro (some offset)) =>
      .ok (.instant
        (Moment.instant d hour minute second micro offset))
  | .pair a b => do
      let first ← a.key
      let second ← b.key
      return .pair first second
  | .list items => .error ⟨(Value.list items).kindName⟩
  | .set items => .error ⟨(Value.set items).kindName⟩
  | .map entries => .error ⟨(Value.map entries).kindName⟩
  | .tied _ body => .error ⟨body.kindName⟩
  | .loop label => .error ⟨(Value.loop label).kindName⟩

end Value

------------------------------------------------------------
-- Tables
------------------------------------------------------------

/- One line of a table. -/
structure Table.Line (β : Type) where
  key : Key
  spelling : Value
  item : β

/- Items under keys, in order of first use. -/
abbrev Table (β : Type) :=
  List (Table.Line β)

namespace Table

variable {β : Type}

/- The item under a key. -/
def get?
    (t : Table β)
    (k : Key) : Option β :=
  (t.find? (·.key = k)).map (·.item)

/- The table holds the key. -/
def has
    (t : Table β)
    (k : Key) : Bool :=
  (t.get? k).isSome

/-
  The table with an item under a key.  A key that is already
  there keeps its place and its spelling.
-/
def put
    (k : Key)
    (spelling : Value)
    (item : β) :
    Table β → Table β
  | [] => [⟨k, spelling, item⟩]
  | line :: rest =>
      if line.key = k then { line with item := item } :: rest
      else line :: put k spelling item rest

/- The keys as they were first spelled, in order. -/
def spellings
    (t : Table β) : List Value :=
  t.map (·.spelling)

/- The item just put under a key is found there. -/
theorem get?_put_self
    (t : Table β)
    (k : Key)
    (spelling : Value)
    (item : β) :
    get? (put k spelling item t) k = some item := by
  induction t with
  | nil => simp [put, get?]
  | cons line rest ih =>
      by_cases h : line.key = k
      · simp [put, get?, h]
      · simpa [put, get?, h] using ih

/- Putting an item leaves all other keys alone. -/
theorem get?_put_ne
    (t : Table β)
    {j k : Key}
    (h : j ≠ k)
    (spelling : Value)
    (item : β) :
    get? (put k spelling item t) j = get? t j := by
  induction t with
  | nil => simp [put, get?, h.symm]
  | cons line rest ih =>
      by_cases hk : line.key = k
      · simp [put, get?, hk, h.symm]
      · by_cases hj : line.key = j
        · subst hj
          simp [put, get?, hk]
        · simpa [put, get?, hk, hj] using ih

end Table

------------------------------------------------------------
-- Mappings And Sets
------------------------------------------------------------

namespace Value

/-
  A mapping from entries whose keys are known: the last item
  under a key wins, the first spelling stays.
-/
def mapOf
    (entries : List (Key × Value × Value)) : Value :=
  let table : Table Value :=
    entries.foldl (fun t (k, spelling, item) => Table.put k spelling item t) []
  .map (table.map fun line => (line.spelling, line.item))

/- The distinct elements among values whose keys are known. -/
def distinct
    (items : List (Key × Value)) : List Value :=
  Table.spellings
    (items.foldl (fun t (k, spelling) => Table.put k spelling () t) [])

/- The values that a value is made of, when it has such parts. -/
def parts?
    (value : Value) : Option (List Value) :=
  match value.content with
  | .str s => some (s.toList.map fun c => .str (String.singleton c))
  | .halved points => some (points.map fun n => ofPoints [n])
  | .bytes bs => some (bs.map fun b => .int b.toNat)
  | .pair a b => some [a, b]
  | .list items => some items
  | .set items => some items
  | .map entries => some (entries.map (·.1))
  | _ => none

/- The key of a number that is no number. -/
def isNanKey : Key → Bool
  | .float x => x = .nan
  | .nan .. => true
  | _ => false

/-
  The values differ.  A number that is no number differs from
  itself, though it is one key.
-/
def differs
    (a b : Value) : Bool :=
  match a.key, b.key with
  | .ok x, .ok y => x ≠ y || isNanKey x
  | _, _ => true

end Value

end SyntaxOutline
