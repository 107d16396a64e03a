import Recrawl.Path

/-!
A directory of plain files.
-/
namespace Recrawl

/-- What files hold, by name; every name is there once. -/
structure Directory (α : Type) where
  files : List (String × α) := []

namespace Directory

variable {α : Type}

def read? (d : Directory α) (name : String) : Option α :=
  d.files.lookup name

def remove (d : Directory α) (name : String) : Directory α :=
  ⟨d.files.filter fun file => file.1 != name⟩

/-- The directory with a file, in place of one of the same name. -/
def write (d : Directory α) (name : String) (content : α) : Directory α :=
  ⟨d.files.filter (fun file => file.1 != name) ++ [(name, content)]⟩

theorem lookup_cons_eq_if (first other : String) (content : α) (rest : List (String × α)) :
    ((first, content) :: rest).lookup other =
      if other = first then some content else rest.lookup other := by
  rw [List.lookup_cons]
  by_cases h : other = first
  · simp [h]
  · simp [h, beq_false_of_ne h]

theorem lookup_filter (files : List (String × α)) (name other : String) :
    (files.filter fun file => file.1 != name).lookup other =
      if other = name then none else files.lookup other := by
  induction files with
  | nil => simp
  | cons file rest ih =>
    obtain ⟨first, content⟩ := file
    by_cases hfirst : first = name
    · subst hfirst
      simp only [List.filter_cons, bne_self_eq_false, Bool.false_eq_true, if_false, ih,
        lookup_cons_eq_if]
      split <;> rfl
    · have hkept : (first != name) = true := by simpa using hfirst
      simp only [List.filter_cons, hkept, if_true, ih, lookup_cons_eq_if]
      by_cases hother : other = first
      · simp [hother, hfirst]
      · simp [hother]

@[simp] theorem read?_remove (d : Directory α) (name other : String) :
    (d.remove name).read? other = if other = name then none else d.read? other :=
  lookup_filter d.files name other

@[simp] theorem read?_write (d : Directory α) (name other : String) (content : α) :
    (d.write name content).read? other = if other = name then some content else d.read? other := by
  unfold read? write
  rw [List.lookup_append, lookup_filter, lookup_cons_eq_if]
  by_cases h : other = name <;> simp [h]

def place (d : Directory α) (path : String) : Except FileFault String :=
  Path.placeAmong (fun name => (d.read? name).isSome) path

def put (d : Directory α) (path : String) (content : α) : Except FileFault (Directory α) :=
  (d.place path).map fun name => d.write name content

/-- The files in the order of their names. -/
def sorted (d : Directory α) : List (String × α) :=
  d.files.mergeSort fun a b => a.1 ≤ b.1

def names (d : Directory α) : List String :=
  d.sorted.map (·.1)

end Directory

end Recrawl
