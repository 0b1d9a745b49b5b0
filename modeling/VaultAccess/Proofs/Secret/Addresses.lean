import VaultAccess.Secret.Reference

/-!
# What addresses say of encryption

An address asks for encryption with some key if it names both an engine and a key. That an address
names both, and that names are missing, are two readings of the same two fields; here they are shown
to be complements (`transit_eq_none_iff`), so that a ciphertext is either decrypted or refused with
something to say.
-/

namespace VaultAccess.SecretReference

variable {r : SecretReference} {value : Option String} {engine key name s : String}

/-- An address names an engine and a key, neither of them empty. -/
def Names (r : SecretReference) (engine key : String) : Prop :=
  (r.transitEngine = some engine ∧ engine ≠ "") ∧ r.transitKey = some key ∧ key ≠ ""

/-- An address does not name what a property is for. -/
def Lacks (r : SecretReference) (property : String) : Prop :=
  property = Property.transitEngine ∧ (r.transitEngine = none ∨ r.transitEngine = some "") ∨
    property = Property.transitKey ∧ (r.transitKey = none ∨ r.transitKey = some "")

theorem nonEmpty_eq_some_iff : nonEmpty value = some s ↔ value = some s ∧ s ≠ "" := by
  simp [nonEmpty, Option.filter_eq_some_iff]

theorem nonEmpty_eq_none_iff : nonEmpty value = none ↔ value = none ∨ value = some "" := by
  cases value <;> simp [nonEmpty, Option.filter_eq_none_iff]

/-- An address asks for encryption with what it names. -/
theorem transit_eq_some_iff : r.transit = some (engine, key) ↔ r.Names engine key := by
  rw [Names, ← nonEmpty_eq_some_iff, ← nonEmpty_eq_some_iff, transit]
  cases nonEmpty r.transitEngine <;> cases nonEmpty r.transitKey <;> simp

/-- What is missing is what an address lacks. -/
theorem mem_missingTransit_iff : name ∈ r.missingTransit ↔ r.Lacks name := by
  rw [Lacks, missingTransit, ← nonEmpty_eq_none_iff, ← nonEmpty_eq_none_iff, List.mem_append]
  cases nonEmpty r.transitEngine <;> cases nonEmpty r.transitKey <;> simp

/-- An address that does not ask for encryption lacks a name, and the other way round. -/
theorem transit_eq_none_iff : r.transit = none ↔ r.missingTransit ≠ [] := by
  rw [transit, missingTransit]
  cases nonEmpty r.transitEngine <;> cases nonEmpty r.transitKey <;> simp

theorem transit_eq_none_of_not_names (h : ∀ engine key, ¬ r.Names engine key) :
    r.transit = none := by
  rw [Option.eq_none_iff_forall_ne_some]
  rintro ⟨engine, key⟩ htransit
  exact h engine key (transit_eq_some_iff.1 htransit)

end VaultAccess.SecretReference
