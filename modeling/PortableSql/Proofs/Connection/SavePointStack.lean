import PortableSql.Proofs.Connection.Server

namespace PortableSql.Server

open ServerCommand

variable {σ : Type}

/-- The newest savepoint of each open level holds what that level saved, and above it are only
savepoints of deeper levels, left over from transactions that have ended. -/
inductive Stacked : List (List Char × σ) → List σ → Prop
  | base (stack : List (List Char × σ)) : Stacked stack []
  | level {above below : List (List Char × σ)} {data : σ} {saved : List σ} :
      (∀ e ∈ above, ∀ n ≤ saved.length + 1, e.1 ≠ levelName n) → Stacked below saved →
      Stacked (above ++ (levelName (saved.length + 1), data) :: below) (data :: saved)

/-- Savepoints of deeper levels may be left on top. -/
theorem Stacked.append {stack more : List (List Char × σ)} {saved : List σ}
    (h : Stacked stack saved) (deeper : ∀ e ∈ more, ∀ n ≤ saved.length, e.1 ≠ levelName n) :
    Stacked (more ++ stack) saved := by
  cases h with
  | base => exact .base _
  | level above rest =>
    rw [← List.append_assoc]
    refine .level ?_ rest
    intro e he n hn
    rcases List.mem_append.mp he with he | he
    · exact deeper e he n hn
    · exact above e he n hn

theorem find?_append {name : List Char} {above below : List (List Char × σ)} {data : σ}
    (h : ∀ e ∈ above, e.1 ≠ name) :
    find? name (above ++ (name, data) :: below) = some (data, below) := by
  induction above with
  | nil => simp [find?]
  | cons e above ih =>
    have hne : e.1 ≠ name := h e (by simp)
    simp only [List.cons_append, find?, hne, if_false]
    exact ih fun e he => h e (by simp [he])

theorem Stacked.find? {stack : List (List Char × σ)} {data : σ} {saved : List σ}
    (h : Stacked stack (data :: saved)) :
    ∃ below, Server.find? (levelName (saved.length + 1)) stack = some (data, below) ∧
      Stacked below saved := by
  cases h with
  | level above rest => exact ⟨_, find?_append fun e he => above e he _ (Nat.le_refl _), rest⟩

/-- The savepoint that a rollback keeps is no longer that of an open level. -/
theorem Stacked.keep {below : List (List Char × σ)} {saved : List σ} (h : Stacked below saved)
    (data : σ) : Stacked ((levelName (saved.length + 1), data) :: below) saved := by
  have deeper : ∀ e ∈ [(levelName (saved.length + 1), data)], ∀ n ≤ saved.length,
      e.1 ≠ levelName n := by
    intro e he n hn heq
    obtain rfl := List.mem_singleton.mp he
    have hlevel := levelName_inj heq
    omega
  exact h.append deeper

/-- A stack that holds one level more holds the levels outside it. -/
theorem Stacked.outer {stack : List (List Char × σ)} {data : σ} {saved : List σ}
    (h : Stacked stack (data :: saved)) : Stacked stack saved := by
  cases h with
  | level above rest =>
    exact (rest.keep data).append fun e he n hn => above e he n (by omega)

end PortableSql.Server
