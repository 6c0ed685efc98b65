import SyntaxOutline.Proofs.Registry.History
import Mathlib.Data.List.Induction

/-
  Tables that are written over.

  A key that is put again keeps its place and its spelling and
  gets the new item.  So of many lines for one key the last one
  tells the item, whatever was put in between.  Putting the same
  lines a second time moves items away and back again, and in
  the end nothing has changed.

  Key definitions include:
    * `Table.putAll`

  Main statements:
    * `Table.get?_putAll`
    * `Table.putAll_put`
    * `Table.putAll_putAll`
-/

------------------------------------------------------------
-- Lines Put Into A Table
------------------------------------------------------------

namespace SyntaxOutline

namespace Table

variable {β : Type}

/- An item that is there already is put without a change. -/
theorem put_eq_self
    {t : Table β}
    {k : Key}
    {item : β}
    (hItem : t.get? k = some item)
    (spelling : Value) :
    put k spelling item t = t := by
  induction t with
  | nil => cases hItem
  | cons line rest ih =>
      rw [put]
      by_cases hKey : line.key = k
      · have hSame : line.item = item := by
          simpa [get?, hKey] using hItem
        rw [if_pos hKey, ← hSame]
      · have hRest : get? rest k = some item := by
          simpa [get?, hKey] using hItem
        rw [if_neg hKey, ih hRest]

/- Of two items under a key that is there, the second stays. -/
theorem put_put_self
    {t : Table β}
    {k : Key}
    (hThere : t.has k = true)
    (spelling other : Value)
    (item second : β) :
    put k other second (put k spelling item t) =
      put k other second t := by
  induction t with
  | nil => cases hThere
  | cons line rest ih =>
      by_cases hKey : line.key = k
      · simp [put, hKey]
      · have hRest : has rest k = true := by
          simpa [has, get?, hKey] using hThere
        simp [put, hKey, ih hRest]

/- Items under different keys, one of them there, can be swapped. -/
theorem put_comm
    {t : Table β}
    {j k : Key}
    (hThere : t.has j = true)
    (hKeys : j ≠ k)
    (spelling other : Value)
    (item second : β) :
    put k other second (put j spelling item t) =
      put j spelling item (put k other second t) := by
  induction t with
  | nil => cases hThere
  | cons line rest ih =>
      by_cases hFirst : line.key = j
      · have hOther : line.key ≠ k :=
          fun h => hKeys (hFirst.symm.trans h)
        simp [put, hFirst, hKeys]
      · have hRest : has rest j = true := by
          simpa [has, get?, hFirst] using hThere
        by_cases hSecond : line.key = k
        · simp [put, hSecond, hKeys.symm]
        · simp [put, hFirst, hSecond, ih hRest]

/- Put lines into a table, one after the other. -/
def putAll
    (lines : List (Line β))
    (t : Table β) : Table β :=
  lines.foldl
    (fun t line => put line.key line.spelling line.item t) t

@[simp] theorem putAll_nil
    (t : Table β) :
    putAll [] t = t := rfl

@[simp] theorem putAll_cons
    (line : Line β)
    (lines : List (Line β))
    (t : Table β) :
    putAll (line :: lines) t =
      putAll lines
        (put line.key line.spelling line.item t) := rfl

theorem putAll_append
    (front back : List (Line β))
    (t : Table β) :
    putAll (front ++ back) t =
      putAll back (putAll front t) := by
  simp [putAll]

/- The last line for a key wins. -/
theorem get?_putAll
    (lines : List (Line β))
    (t : Table β)
    (k : Key) :
    get? (putAll lines t) k =
      ((latest? (·.key = k) lines).map (·.item)).or
        (get? t k) := by
  induction lines using List.reverseRecOn with
  | nil => rfl
  | append_singleton lines line ih =>
      rw [putAll_append, putAll_cons, putAll_nil, get?_put,
        latest?_append_singleton]
      by_cases hKey : line.key = k
      · rw [if_pos hKey.symm, if_pos hKey]
        rfl
      · have hOther : k ≠ line.key := fun h => hKey h.symm
        rw [if_neg hOther, if_neg hKey, ih]

/- A line that a later one overrides can be left out. -/
theorem putAll_put
    {lines : List (Line β)}
    {line later : Line β}
    {t : Table β}
    (hThere : t.has line.key = true)
    (hMem : later ∈ lines)
    (hKey : later.key = line.key) :
    putAll lines
        (put line.key line.spelling line.item t) =
      putAll lines t := by
  induction lines generalizing t with
  | nil => cases hMem
  | cons first lines ih =>
      rw [putAll_cons, putAll_cons]
      by_cases hFirst : first.key = line.key
      · rw [hFirst, put_put_self hThere]
      · have hRest : later ∈ lines := by
          rcases List.mem_cons.mp hMem with rfl | hRest
          · exact absurd hKey hFirst
          · exact hRest
        have hStill :
            has (put first.key first.spelling first.item t)
              line.key = true := by
          rw [has, get?_put_ne t (Ne.symm hFirst)]
          exact hThere
        rw [put_comm hThere (Ne.symm hFirst),
          ih hStill hRest]

/- Lines that a table has already are put without a change. -/
theorem putAll_eq_self
    {lines : List (Line β)}
    {t : Table β}
    (hLines :
      ∀ line ∈ lines,
        t.get? line.key =
          (latest? (·.key = line.key) lines).map
            (·.item)) :
    putAll lines t = t := by
  -- The first line is overridden by a later one, or it is the
  -- last for its key and therefore there.
  induction lines with
  | nil => rfl
  | cons line lines ih =>
      have hRest :
          ∀ later ∈ lines,
            t.get? later.key =
              (latest? (·.key = later.key) lines).map
                (·.item) := by
        intro later hMem
        rw [hLines later (List.mem_cons_of_mem _ hMem),
          ← List.singleton_append, latest?_append]
        cases hLast :
            latest? (·.key = later.key) lines with
        | some last => rfl
        | none =>
            exact absurd rfl
              ((latest?_eq_none_iff _ _).mp hLast later hMem)
      rw [putAll_cons]
      by_cases hLater : ∃ later ∈ lines, later.key = line.key
      · rcases hLater with ⟨later, hMem, hKey⟩
        have hThere : t.has line.key = true := by
          rw [has, ← hKey, hRest later hMem,
            Option.isSome_map, Option.isSome_iff_ne_none]
          intro hNone
          exact (latest?_eq_none_iff _ _).mp hNone later hMem
            rfl
        rw [putAll_put hThere hMem hKey, ih hRest]
      · have hNone :
            latest? (·.key = line.key) lines = none := by
          rw [latest?_eq_none_iff]
          intro later hMem hKey
          exact hLater ⟨later, hMem, hKey⟩
        have hItem : t.get? line.key = some line.item := by
          rw [hLines line List.mem_cons_self,
            ← List.singleton_append, latest?_append, hNone]
          simp [latest?]
        rw [put_eq_self hItem, ih hRest]

/- Putting lines twice is putting them once. -/
theorem putAll_putAll
    (lines : List (Line β))
    (t : Table β) :
    putAll lines (putAll lines t) = putAll lines t := by
  apply putAll_eq_self
  intro line hMem
  rw [get?_putAll]
  cases hLast : latest? (·.key = line.key) lines with
  | some last => rfl
  | none =>
      exact absurd rfl
        ((latest?_eq_none_iff _ _).mp hLast line hMem)

end Table

end SyntaxOutline
