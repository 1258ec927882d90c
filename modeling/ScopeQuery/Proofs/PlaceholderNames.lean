import ScopeQuery.Sql.Placeholder

/-!
# Placeholder names are distinct

The letters of a name give its number back, since the last letter is the last digit
and the letters before it are those of a smaller number.
-/

namespace ScopeQuery

/-- The letters of digits below 26 differ. -/
theorem placeholderLetter_injective {m n : Nat} (hm : m < 26) (hn : n < 26)
    (h : placeholderLetter m = placeholderLetter n) : m = n := by
  have hdistinct : ∀ i : Fin 26, ∀ j : Fin 26,
      placeholderLetter i = placeholderLetter j → i = j := by decide
  exact congrArg Fin.val (hdistinct ⟨m, hm⟩ ⟨n, hn⟩ h)

/-- The letters of numbers differ. -/
theorem placeholderLetters_injective (m n : Nat)
    (h : placeholderLetters m = placeholderLetters n) : m = n := by
  cases m with
  | zero =>
    cases n with
    | zero => rfl
    | succ n => simp [placeholderLetters] at h
  | succ m =>
    cases n with
    | zero => simp [placeholderLetters] at h
    | succ n =>
      rw [placeholderLetters, placeholderLetters] at h
      obtain ⟨hinit, hlast⟩ := List.append_inj' h rfl
      have hquotient := placeholderLetters_injective (m / 26) (n / 26) hinit
      have hdigit := placeholderLetter_injective (Nat.mod_lt m (by decide))
        (Nat.mod_lt n (by decide)) (List.cons.inj hlast).1
      omega
termination_by m
decreasing_by omega

/-- No two parameters of a query go by one name. -/
theorem placeholderName_injective {m n : Nat} (h : placeholderName m = placeholderName n) :
    m = n := by
  have hletters := congrArg String.toList h
  unfold placeholderName at hletters
  rw [String.toList_ofList, String.toList_ofList] at hletters
  exact Nat.succ.inj (placeholderLetters_injective _ _ hletters)

end ScopeQuery
