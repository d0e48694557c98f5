import LineShell.Limits
import LineShell.Log

/-! Variables of the interpreter. A store binds each name at most once; a name is nonempty, and
names and values are bounded in length. A rejected binding leaves no store behind. -/

namespace LineShell

/-- Why a binding is rejected. Lengths are in bytes. -/
inductive StoreError
  | emptyName
  | nameTooLong (size : Nat)
  | valueTooLong (size : Nat)
  deriving DecidableEq, Repr

def StoreError.message : StoreError → Text
  | emptyName => "empty variable name".toList
  | nameTooLong n =>
    "variable name too long (".toList ++ Text.ofNat n ++ " bytes, max ".toList ++
      Text.ofNat maxName ++ [')']
  | valueTooLong n =>
    "variable value too long (".toList ++ Text.ofNat n ++ " bytes, max ".toList ++
      Text.ofNat maxValue ++ [')']

/-- Variables with their values, no name twice. -/
structure Store where
  bindings : List (Text × Text)
  distinct : (bindings.map Prod.fst).Nodup

namespace Store

/-- The store without variables. -/
def empty : Store := ⟨[], List.nodup_nil⟩

instance : Inhabited Store := ⟨empty⟩

/-- The value of a variable. -/
def get? (s : Store) (name : Text) : Option Text := s.bindings.lookup name

/-- The number of variables. -/
def size (s : Store) : Nat := s.bindings.length

/-- Removes a variable if it is there. -/
def erase (s : Store) (name : Text) : Store where
  bindings := s.bindings.filter (·.1 ≠ name)
  distinct := s.distinct.sublist (List.filter_sublist.map Prod.fst)

theorem not_mem_erase (s : Store) (name : Text) :
    name ∉ (s.erase name).bindings.map Prod.fst := by
  simp [erase]

/-- Binds a variable, in place of any earlier binding. -/
def insert (s : Store) (name value : Text) : Store where
  bindings := (name, value) :: (s.erase name).bindings
  distinct := List.nodup_cons.mpr ⟨s.not_mem_erase name, (s.erase name).distinct⟩

/-- A look-up skips what a filter on names takes out, and finds all else. -/
theorem lookup_filter_ne (bindings : List (Text × Text)) (name other : Text) :
    (bindings.filter (·.1 ≠ name)).lookup other =
      if other = name then none else bindings.lookup other := by
  induction bindings with
  | nil => simp
  | cons b rest ih =>
    obtain ⟨key, value⟩ := b
    by_cases hk : key = name
    · subst hk
      rw [List.filter_cons_of_neg (by simp), ih, List.lookup_cons]
      by_cases ho : other = key
      · rw [if_pos ho, if_pos ho]
      · rw [if_neg ho, if_neg ho, beq_false_of_ne ho]
    · rw [List.filter_cons_of_pos (by simpa using hk), List.lookup_cons, List.lookup_cons, ih]
      by_cases ho : other = name
      · rw [if_pos ho, if_pos ho, ho, beq_false_of_ne (Ne.symm hk)]
      · rw [if_neg ho, if_neg ho]

theorem get?_erase (s : Store) (name other : Text) :
    (s.erase name).get? other = if other = name then none else s.get? other :=
  lookup_filter_ne s.bindings name other

theorem get?_insert (s : Store) (name value other : Text) :
    (s.insert name value).get? other = if other = name then some value else s.get? other := by
  by_cases ho : other = name
  · simp [get?, insert, ho]
  · have h := s.get?_erase name other
    rw [if_neg ho] at h ⊢
    rw [← h]
    simp [get?, insert, List.lookup_cons, beq_false_of_ne ho]

/-- Checks a binding: first that the name is nonempty, then its length, then that of the value. -/
def check (name value : Text) : Except StoreError Unit :=
  if name = [] then .error .emptyName
  else if name.size > maxName then .error (.nameTooLong name.size)
  else if value.size > maxValue then .error (.valueTooLong value.size)
  else .ok ()

/-- Binds a variable if the binding is acceptable. -/
def set (s : Store) (name value : Text) : Except StoreError Store :=
  (check name value).map fun _ => s.insert name value

/-- The log of an accepted binding: the value that it replaces, if there is one. -/
def setEvents (s : Store) (name : Text) : List Event :=
  match s.get? name with
  | some old => [.replaced name old]
  | none => []

/-- The log of a removal: a record if there was nothing to remove. -/
def unsetEvents (s : Store) (name : Text) : List Event :=
  match s.get? name with
  | some _ => []
  | none => [.notBound name]

end Store

end LineShell
