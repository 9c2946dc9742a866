/-!
# Maps in the order of their keys

A `SortedMap` is a list of pairs whose keys increase, so it holds each key once.

## Results

* `get?_insert`, `get?_erase`: what a look-up gives after a change.
* `mem_toList`: the pairs of the list are what look-ups find.
* `insert_perm`: a pair with a new key comes to the others.
* `ext_get?`: maps in which every look-up gives the same are equal.
-/
namespace Stencil

/-- An order that puts any two different keys one before the other. -/
class KeyOrder (κ : Type) [LT κ] : Prop where
  irrefl : ∀ a : κ, ¬ a < a
  trans : ∀ a b c : κ, a < b → b < c → a < c
  trichotomy : ∀ a b : κ, a < b ∨ a = b ∨ b < a

instance : KeyOrder String where
  irrefl _ := Std.lt_irrefl
  trans _ _ _ := Std.lt_trans
  trichotomy := Std.lt_trichotomy

instance : KeyOrder (List String) where
  irrefl _ := Std.lt_irrefl
  trans _ _ _ := Std.lt_trans
  trichotomy := Std.lt_trichotomy

/-- A map as the list of its pairs, in the order of the keys. -/
structure SortedMap (κ α : Type) [LT κ] where
  toList : List (κ × α)
  sorted : toList.Pairwise fun x y => x.1 < y.1

namespace SortedMap
variable {κ α : Type} [LT κ]

def empty : SortedMap κ α := ⟨[], List.Pairwise.nil⟩

def keys (m : SortedMap κ α) : List κ := m.toList.map (·.1)

def size (m : SortedMap κ α) : Nat := m.toList.length

/-- The value in the first pair with a key. -/
def find? [DecidableEq κ] (key : κ) : List (κ × α) → Option α
  | [] => none
  | (k, v) :: rest => if k = key then some v else find? key rest

def get? [DecidableEq κ] (m : SortedMap κ α) (key : κ) : Option α := find? key m.toList

def contains [DecidableEq κ] (m : SortedMap κ α) (key : κ) : Bool := (m.get? key).isSome

/-- Puts a pair to its place; a pair with the same key gives way. -/
def put [DecidableLT κ] (key : κ) (value : α) : List (κ × α) → List (κ × α)
  | [] => [(key, value)]
  | (k, v) :: rest =>
    if key < k then (key, value) :: (k, v) :: rest
    else if k < key then (k, v) :: put key value rest
    else (key, value) :: rest

theorem key_of_mem_put [DecidableLT κ] {key : κ} {value : α} {l : List (κ × α)} {x : κ × α}
    (h : x ∈ put key value l) : x = (key, value) ∨ x ∈ l := by
  fun_induction put key value l with grind

theorem mem_put_of_lt [DecidableLT κ] {key : κ} {value : α} {l : List (κ × α)}
    {bound : κ} (h : ∀ x ∈ l, bound < x.1) (hk : bound < key) :
    ∀ x ∈ put key value l, bound < x.1 := by
  intro x hx
  rcases key_of_mem_put hx with rfl | hx
  · exact hk
  · exact h x hx

theorem sorted_put [DecidableLT κ] [KeyOrder κ] {key : κ} {value : α} {l : List (κ × α)}
    (h : l.Pairwise fun x y => x.1 < y.1) : (put key value l).Pairwise fun x y => x.1 < y.1 := by
  fun_induction put key value l with
  | case1 => simp
  | case2 k v rest hlt =>
    refine List.pairwise_cons.2 ⟨fun x hx => ?_, h⟩
    rcases List.mem_cons.1 hx with rfl | hx
    · exact hlt
    · exact KeyOrder.trans _ _ _ hlt ((List.pairwise_cons.1 h).1 x hx)
  | case3 k v rest _ hgt ih =>
    have h := List.pairwise_cons.1 h
    exact List.pairwise_cons.2 ⟨mem_put_of_lt h.1 hgt, ih h.2⟩
  | case4 k v rest h₁ h₂ =>
    obtain rfl : k = key := (KeyOrder.trichotomy k key).elim (absurd · h₂) (·.elim id (absurd · h₁))
    have h := List.pairwise_cons.1 h
    exact List.pairwise_cons.2 ⟨h.1, h.2⟩

def insert [DecidableLT κ] [KeyOrder κ] (m : SortedMap κ α) (key : κ) (value : α) :
    SortedMap κ α :=
  ⟨put key value m.toList, sorted_put m.sorted⟩

def erase [DecidableEq κ] (m : SortedMap κ α) (key : κ) : SortedMap κ α :=
  ⟨m.toList.filter fun x => x.1 ≠ key, m.sorted.filter _⟩

/-! ## Look-ups -/

section
variable [DecidableEq κ]

@[simp] theorem get?_empty (key : κ) : (empty : SortedMap κ α).get? key = none := rfl

theorem find?_put [DecidableLT κ] [KeyOrder κ] (key key' : κ) (value : α) (l : List (κ × α)) :
    find? key' (put key value l) = if key = key' then some value else find? key' l := by
  fun_induction put key value l with
  | case1 => simp [find?]
  | case2 => simp [find?]
  | case3 k v rest _ hgt ih =>
    by_cases h : k = key'
    · subst h
      have : ¬ key = k := fun e => KeyOrder.irrefl _ (e ▸ hgt)
      simp [find?, this]
    · simp [find?, h, ih]
  | case4 k v rest h₁ h₂ =>
    obtain rfl : k = key := (KeyOrder.trichotomy k key).elim (absurd · h₂) (·.elim id (absurd · h₁))
    by_cases h : k = key' <;> simp [find?, h]

theorem get?_insert [DecidableLT κ] [KeyOrder κ] (m : SortedMap κ α) (key key' : κ) (value : α) :
    (m.insert key value).get? key' = if key = key' then some value else m.get? key' :=
  find?_put key key' value m.toList

theorem get?_erase (m : SortedMap κ α) (key key' : κ) :
    (m.erase key).get? key' = if key = key' then none else m.get? key' := by
  obtain ⟨l, h⟩ := m
  simp only [erase, get?]
  clear h
  induction l with
  | nil => simp [find?]
  | cons x rest ih =>
    obtain ⟨k, v⟩ := x
    by_cases hk : k = key
    · subst hk
      by_cases h : k = key' <;> simp_all [find?]
    · by_cases h : key = key'
      · simp_all [find?]
      · by_cases h' : k = key' <;> simp_all [find?]

theorem find?_eq_some_iff [KeyOrder κ] {l : List (κ × α)}
    (h : l.Pairwise fun x y => x.1 < y.1) (key : κ) (value : α) :
    find? key l = some value ↔ (key, value) ∈ l := by
  induction l with
  | nil => simp [find?]
  | cons x rest ih =>
    obtain ⟨k, v⟩ := x
    have h := List.pairwise_cons.1 h
    by_cases hk : k = key
    · subst hk
      have : ∀ w : α, (k, w) ∉ rest := fun w hw => KeyOrder.irrefl _ (h.1 (k, w) hw)
      simp [find?, this, eq_comm]
    · simp [find?, hk, ih h.2, Ne.symm hk]

theorem mem_toList [KeyOrder κ] (m : SortedMap κ α) (key : κ) (value : α) :
    (key, value) ∈ m.toList ↔ m.get? key = some value :=
  (find?_eq_some_iff m.sorted key value).symm

omit [DecidableEq κ] in
theorem eq_of_mem_iff [KeyOrder κ] {l l' : List (κ × α)} (h : l.Pairwise fun x y => x.1 < y.1)
    (h' : l'.Pairwise fun x y => x.1 < y.1) (same : ∀ x, x ∈ l ↔ x ∈ l') : l = l' := by
  induction l generalizing l' with
  | nil =>
    cases l' with
    | nil => rfl
    | cons y rest => exact absurd ((same y).2 List.mem_cons_self) List.not_mem_nil
  | cons x rest ih =>
    cases l' with
    | nil => exact absurd ((same x).1 List.mem_cons_self) List.not_mem_nil
    | cons y rest' =>
      have hx := List.pairwise_cons.1 h
      have hy := List.pairwise_cons.1 h'
      obtain rfl : x = y := by
        rcases List.mem_cons.1 ((same x).1 List.mem_cons_self) with e | hmem
        · exact e
        · rcases List.mem_cons.1 ((same y).2 List.mem_cons_self) with e | hmem'
          · exact e.symm
          · exact absurd (KeyOrder.trans _ _ _ (hx.1 y hmem') (hy.1 x hmem)) (KeyOrder.irrefl _)
      have more : rest = rest' := ih hx.2 hy.2 fun z => by
        constructor
        · intro hz
          rcases List.mem_cons.1 ((same z).1 (List.mem_cons_of_mem _ hz)) with rfl | hz'
          · exact absurd (hx.1 z hz) (KeyOrder.irrefl _)
          · exact hz'
        · intro hz
          rcases List.mem_cons.1 ((same z).2 (List.mem_cons_of_mem _ hz)) with rfl | hz'
          · exact absurd (hy.1 z hz) (KeyOrder.irrefl _)
          · exact hz'
      rw [more]

theorem contains_iff [KeyOrder κ] (m : SortedMap κ α) (key : κ) :
    m.contains key ↔ key ∈ m.keys := by
  simp [contains, Option.isSome_iff_exists, ← mem_toList, keys]

omit [DecidableEq κ] in
theorem put_perm [DecidableLT κ] [KeyOrder κ] {key : κ} {l : List (κ × α)}
    (h : ∀ x ∈ l, x.1 ≠ key) (value : α) : (put key value l).Perm ((key, value) :: l) := by
  fun_induction put key value l with
  | case1 => exact .refl _
  | case2 => exact .refl _
  | case3 k v rest _ _ ih =>
    exact ((ih fun x hx => h x (List.mem_cons_of_mem _ hx)).cons (k, v)).trans (.swap _ _ _)
  | case4 k v rest h₁ h₂ =>
    have same : k = key := (KeyOrder.trichotomy k key).elim (absurd · h₂) (·.elim id (absurd · h₁))
    exact absurd same (h _ List.mem_cons_self)

omit [DecidableEq κ] in
/-- A pair with a new key comes to the others. -/
theorem insert_perm [DecidableLT κ] [KeyOrder κ] {m : SortedMap κ α} {key : κ}
    (h : key ∉ m.keys) (value : α) :
    (m.insert key value).toList.Perm ((key, value) :: m.toList) :=
  put_perm (fun x hx e => h (List.mem_map.2 ⟨x, hx, e⟩)) value

theorem ext_get? [KeyOrder κ] {m m' : SortedMap κ α} (h : ∀ key, m.get? key = m'.get? key) :
    m = m' := by
  have : m.toList = m'.toList := eq_of_mem_iff m.sorted m'.sorted fun x => by
    rw [mem_toList, mem_toList, h]
  cases m; cases m'; simp_all

end
end SortedMap
end Stencil
