import ScopeQuery.Entity.Related

/-!
# Paths over hops

A path is its hops and a field, with slashes between them. Splitting off the first
hop leaves the path of the others. The links of the hops form a trail from table to
table, and the tables go by aliases that tell their depths, so that no two agree.
-/

namespace ScopeQuery

/-- The path over hops to a field. -/
def hopPath (field : String) : List String → String
  | [] => field
  | hop :: rest => hop ++ "/" ++ hopPath field rest

/-- The first separator splits a text. -/
theorem splitFirst?_append {separator : Char} {before after : List Char}
    (h : separator ∉ before) :
    splitFirst? separator (before ++ separator :: after) = some (before, after) := by
  induction before with
  | nil => simp [splitFirst?]
  | cons c before ih =>
    have hc : c ≠ separator := fun hc => h (by simp [hc])
    have hbefore : separator ∉ before := fun hin => h (by simp [hin])
    rw [List.cons_append, splitFirst?, if_neg hc, ih hbefore]

/-- A text that is cut at a separator is the texts before and after it around it. -/
theorem splitFirst?_eq_some {separator : Char} {text before after : List Char}
    (h : splitFirst? separator text = some (before, after)) :
    text = before ++ separator :: after := by
  induction text generalizing before with
  | nil => simp [splitFirst?] at h
  | cons c rest ih =>
    rw [splitFirst?] at h
    split at h
    · rename_i hseparator
      obtain ⟨rfl, rfl⟩ : [] = before ∧ rest = after := by simpa using h
      rw [hseparator, List.nil_append]
    · split at h
      · rename_i found following hfound
        obtain ⟨rfl, rfl⟩ : c :: found = before ∧ following = after := by simpa using h
        rw [ih hfound, List.cons_append]
      · simp at h

/-- A text without the separator has no split. -/
theorem splitFirst?_eq_none {separator : Char} {text : List Char} (h : separator ∉ text) :
    splitFirst? separator text = none := by
  induction text with
  | nil => rfl
  | cons c text ih =>
    have hc : c ≠ separator := fun hc => h (by simp [hc])
    have htext : separator ∉ text := fun hin => h (by simp [hin])
    rw [splitFirst?, if_neg hc, ih htext]

/-- A path without hops has no first hop. -/
theorem splitHop?_of_field {field : String} (h : hasHop field = false) :
    splitHop? field = none := by
  have hfield : hopSeparator ∉ field.toList := by simpa [hasHop] using h
  rw [splitHop?, splitFirst?_eq_none hfield]

/-- A path over a hop splits into the hop and the path after it. -/
theorem splitHop?_of_hop {hop : String} (h : hasHop hop = false) (rest : String) :
    splitHop? (hop ++ "/" ++ rest) = some (hop, rest) := by
  have hhop : hopSeparator ∉ hop.toList := by simpa [hasHop] using h
  have htext : (hop ++ "/" ++ rest).toList = hop.toList ++ hopSeparator :: rest.toList := by
    simp [String.toList_append, hopSeparator]
  rw [splitHop?, htext, splitFirst?_append hhop]
  simp

/-- No path over hops counts the rows of its first hop, unless its field is the count. -/
theorem hopPath_ne_count {field : String} (h : field ≠ countSegment) (hops : List String) :
    hopPath field hops ≠ countSegment := by
  cases hops with
  | nil => exact h
  | cons hop rest =>
    intro hcount
    have hslash : hopSeparator ∈ (hopPath field (hop :: rest)).toList := by
      simp [hopPath, String.toList_append, hopSeparator]
    rw [hcount] at hslash
    exact absurd hslash (by decide)

/-- The links of hops, each from the table the one before leads to. -/
def Links.trail (links : Links) (entity : String) : List String → Option (List Link)
  | [] => some []
  | hop :: rest =>
    match links.get? entity hop with
    | none => none
    | some link => (links.trail link.table rest).map (link :: ·)

/-- A trail has a link for each hop. -/
theorem Links.trail_length {links : Links} {entity : String} {hops : List String}
    {trail : List Link} (h : links.trail entity hops = some trail) :
    trail.length = hops.length := by
  induction hops generalizing entity trail with
  | nil =>
    obtain rfl := Option.some.inj h
    rfl
  | cons hop rest ih =>
    rw [Links.trail] at h
    split at h
    · simp at h
    · rename_i link hlink
      obtain ⟨tail, htail, rfl⟩ := Option.map_eq_some_iff.1 h
      simp [ih htail]

/-- The aliases of the tables hops lead to, from a parent of some depth. -/
def hopAliases (depth : Nat) : List String → List String
  | [] => []
  | hop :: rest => Entity.hopAlias hop (depth + 1) :: hopAliases (depth + 1) rest

/-- There is an alias for each hop. -/
theorem hopAliases_length (depth : Nat) (hops : List String) :
    (hopAliases depth hops).length = hops.length := by
  induction hops generalizing depth with
  | nil => rfl
  | cons hop rest ih => simp [hopAliases, ih]

/-- An alias tells the depth of its table. -/
theorem Entity.hopAlias_depth {hop other : String} {depth deep : Nat}
    (h : hopAlias hop depth = hopAlias other deep) : depth = deep := by
  have hletters := congrArg String.toList h
  unfold hopAlias at hletters
  rw [String.toList_ofList, String.toList_ofList] at hletters
  have hdigits := (List.cons.inj (List.cons.inj hletters).2).2
  have hvalue := congrArg (Nat.ofDigitChars 10 · 0) hdigits
  simpa [Nat.ofDigitChars_ten_toDigits] using hvalue

/-- The aliases along hops tell depths beyond that of the parent. -/
theorem hopAliases_deeper {depth : Nat} {hops : List String} {aliasName : String}
    (h : aliasName ∈ hopAliases depth hops) :
    ∃ hop deep, depth < deep ∧ aliasName = Entity.hopAlias hop deep := by
  induction hops generalizing depth with
  | nil => simp [hopAliases] at h
  | cons hop rest ih =>
    cases List.mem_cons.1 h with
    | inl hfirst => exact ⟨hop, depth + 1, by omega, hfirst⟩
    | inr hlater =>
      obtain ⟨later, deep, hdeep, hname⟩ := ih hlater
      exact ⟨later, deep, by omega, hname⟩

/-- No two tables along hops go by one alias, even when a hop is taken again. -/
theorem hopAliases_nodup (depth : Nat) (hops : List String) :
    (hopAliases depth hops).Nodup := by
  induction hops generalizing depth with
  | nil => simp [hopAliases]
  | cons hop rest ih =>
    rw [hopAliases, List.nodup_cons]
    refine ⟨fun h => ?_, ih (depth + 1)⟩
    obtain ⟨later, deep, hdeep, hname⟩ := hopAliases_deeper h
    have := Entity.hopAlias_depth hname
    omega

end ScopeQuery
