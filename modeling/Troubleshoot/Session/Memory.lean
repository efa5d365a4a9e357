import Troubleshoot.Json.Basic

namespace Troubleshoot

abbrev Memory := List String

namespace Memory

-- The memory without a symptom, and whether that changed it.
def solve (m : Memory) (id : String) : Memory × Bool :=
  let kept := m.filter (· ≠ id)
  (kept, kept.length ≠ m.length)

-- The memory with a symptom, and whether that changed it.
def add (m : Memory) (id : String) : Memory × Bool :=
  if m.contains id then (m, false) else (m ++ [id], true)

def toJson (m : Memory) : Json :=
  .ofStrings m

-- Something is left out just if the symptom was there.
theorem solve_changed (m : Memory) (id : String) : (m.solve id).2 = m.contains id := by
  simp [solve]

theorem solve_changed_iff {m : Memory} {id : String} : (m.solve id).2 ↔ (m.solve id).1 ≠ m := by
  rw [solve_changed]
  simp [solve, List.filter_eq_self]

theorem add_changed_iff {m : Memory} {id : String} : (m.add id).2 ↔ (m.add id).1 ≠ m := by
  unfold add
  split <;> simp_all

end Memory
end Troubleshoot
