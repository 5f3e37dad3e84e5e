/-!
# Tables in order of arrival

A table is a list of keys with values, in the order in which the keys first arrived.

* `get?` — the value of a key;
* `put` — a present key keeps its place and takes the new value, a new key goes to the end;
* `erase` — without a key;
* `get?_put_self`, `get?_put_of_ne`, `put_of_not_mem` — **PROVED**: what `put` does to values, and
  to a table without the key.
-/

namespace Allotment.Assoc

variable {κ α : Type} [DecidableEq κ]

/-- The value of a key. -/
def get? (key : κ) : List (κ × α) → Option α
  | [] => none
  | (k, v) :: rest => if k = key then some v else get? key rest

/-- Set the value of a key. -/
def put (key : κ) (value : α) : List (κ × α) → List (κ × α)
  | [] => [(key, value)]
  | (k, v) :: rest => if k = key then (k, value) :: rest else (k, v) :: put key value rest

/-- A table without a key. -/
def erase (key : κ) (table : List (κ × α)) : List (κ × α) :=
  table.filter fun entry => decide (entry.1 ≠ key)

/-- The keys in order. -/
def keys (table : List (κ × α)) : List κ := table.map Prod.fst

/-- A table with the entries of a list put in one after the other. -/
def ofList (entries : List (κ × α)) : List (κ × α) :=
  entries.foldl (fun table entry => put entry.1 entry.2 table) []

/-! ### Laws of tables -/

omit [DecidableEq κ] in
theorem keys_cons (entry : κ × α) (table : List (κ × α)) :
    keys (entry :: table) = entry.1 :: keys table := rfl

theorem get?_eq_none_iff {key : κ} {table : List (κ × α)} :
    get? key table = none ↔ key ∉ keys table := by
  induction table with
  | nil => simp [get?, keys]
  | cons entry rest ih =>
    obtain ⟨k, v⟩ := entry
    rw [keys_cons, get?]
    by_cases h : k = key
    · simp [h]
    · rw [if_neg h, ih]
      simp [Ne.symm h]

theorem get?_put_self (key : κ) (value : α) (table : List (κ × α)) :
    get? key (put key value table) = some value := by
  induction table with
  | nil => simp [put, get?]
  | cons entry rest ih =>
    obtain ⟨k, v⟩ := entry
    by_cases h : k = key
    · simp [put, get?, h]
    · simp [put, get?, h, ih]

theorem get?_put_of_ne {key other : κ} (h : other ≠ key) (value : α) (table : List (κ × α)) :
    get? other (put key value table) = get? other table := by
  induction table with
  | nil => simp [put, get?, Ne.symm h]
  | cons entry rest ih =>
    obtain ⟨k, v⟩ := entry
    by_cases hk : k = key
    · subst hk
      simp [put, get?, Ne.symm h]
    · simp [put, get?, hk, ih]

theorem put_of_not_mem {key : κ} {table : List (κ × α)} (h : key ∉ keys table) (value : α) :
    put key value table = table ++ [(key, value)] := by
  induction table with
  | nil => rfl
  | cons entry rest ih =>
    obtain ⟨k, v⟩ := entry
    rw [keys_cons, List.mem_cons, not_or] at h
    rw [put, if_neg (Ne.symm h.1), ih h.2]
    rfl

theorem get?_erase_self (key : κ) (table : List (κ × α)) : get? key (erase key table) = none := by
  rw [get?_eq_none_iff]
  simp [erase, keys]

theorem get?_erase_of_ne {key other : κ} (h : other ≠ key) (table : List (κ × α)) :
    get? other (erase key table) = get? other table := by
  induction table with
  | nil => rfl
  | cons entry rest ih =>
    obtain ⟨k, v⟩ := entry
    unfold erase at ih ⊢
    by_cases hk : k = key
    · subst hk
      rw [List.filter_cons_of_neg (by simp), ih, get?, if_neg (Ne.symm h)]
    · rw [List.filter_cons_of_pos (by simpa using hk), get?, get?, ih]

end Allotment.Assoc
