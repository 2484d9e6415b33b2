/-!
# Registers

Named places that each hold one thing. Storing under a name replaces what was
there.
-/

namespace LamApp

/-- Named places, each with what it holds. -/
structure Registers (α : Type) where
  entries : List (String × α)

namespace Registers

variable {α : Type}

def empty : Registers α :=
  ⟨[]⟩

/-- What a register holds. -/
def get? (registers : Registers α) (name : String) : Option α :=
  registers.entries.lookup name

/-- Empties a register. -/
def erase (registers : Registers α) (name : String) : Registers α :=
  ⟨registers.entries.filter fun entry => entry.1 != name⟩

/-- Stores under a name. -/
def set (registers : Registers α) (name : String) (content : α) :
    Registers α :=
  ⟨(name, content) :: (registers.erase name).entries⟩

/-- Stores under a name, if there is one. -/
def setIf (registers : Registers α) (name? : Option String) (content : α) :
    Registers α :=
  match name? with
  | some name => registers.set name content
  | none => registers

@[simp] theorem get?_empty
    (name : String) :
    (empty : Registers α).get? name = none :=
  rfl

theorem lookup_filter_ne
    {name other : String} (hne : other ≠ name)
    (entries : List (String × α)) :
    (entries.filter fun entry => entry.1 != name).lookup other =
      entries.lookup other := by
  induction entries with
  | nil => rfl
  | cons entry entries ih =>
    obtain ⟨key, content⟩ := entry
    by_cases hkey : key = name
    · subst hkey
      have hother : (other == key) = false := by simpa using hne
      simp [List.lookup_cons, hother, ih]
    · simp [List.lookup_cons, hkey, ih]

theorem lookup_filter_self
    (name : String) (entries : List (String × α)) :
    (entries.filter fun entry => entry.1 != name).lookup name = none := by
  induction entries with
  | nil => rfl
  | cons entry entries ih =>
    obtain ⟨key, content⟩ := entry
    by_cases hkey : key = name
    · simp [hkey, ih]
    · have hname : (name == key) = false := by simpa using Ne.symm hkey
      simp [List.lookup_cons, hkey, hname, ih]

/-- A register holds what was stored last. -/
@[simp] theorem get?_set
    (registers : Registers α) (name : String) (content : α) :
    (registers.set name content).get? name = some content := by
  simp [get?, set]

/-- Storing leaves the other registers alone. -/
theorem get?_set_of_ne
    {name other : String} (hne : other ≠ name)
    (registers : Registers α) (content : α) :
    (registers.set name content).get? other = registers.get? other := by
  have hother : (other == name) = false := by simpa using hne
  simp [get?, set, erase, List.lookup_cons, hother, lookup_filter_ne hne]

/-- An emptied register holds nothing. -/
@[simp] theorem get?_erase
    (registers : Registers α) (name : String) :
    (registers.erase name).get? name = none :=
  lookup_filter_self name registers.entries

/-- Emptying a register leaves the others alone. -/
theorem get?_erase_of_ne
    {name other : String} (hne : other ≠ name)
    (registers : Registers α) :
    (registers.erase name).get? other = registers.get? other :=
  lookup_filter_ne hne registers.entries

end Registers
end LamApp
