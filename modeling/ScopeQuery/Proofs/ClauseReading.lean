import ScopeQuery.Proofs.TracedPredicates

/-!
# Reading joined fragments

How SQL reads fragments with junctions between them. A text is characters with indivisible
fragments among them, and it is cut into fragments, junctions and parentheses. The grammar
says what these mean, "and" binding tighter than "or", and a reader that goes through them
once from left to right finds the meaning, so no text has two. An operand is a stretch of
text that means one thing wherever it stands, and operands with one junction between them
make up a chain.
-/

namespace ScopeQuery

/-- A statement made up of atoms. -/
inductive Formula (α : Type) where
  /-- A statement that is not made up of others. -/
  | atom (a : α)
  /-- Two statements joined. -/
  | joined (junction : Junction) (left right : Formula α)

/-- The truth of a statement, given that of the atoms. -/
def Formula.holds {α : Type} (truth : α → Bool) : Formula α → Bool
  | .atom a => truth a
  | .joined junction left right => junction.decides [left.holds truth, right.holds truth]

/-- Statements joined from left to right. -/
def Formula.chain {α : Type} (junction : Junction) (first : Formula α) (rest : List (Formula α)) :
    Formula α :=
  rest.foldl (.joined junction) first

/-- A chain is as true as its parts joined. -/
theorem Formula.holds_chain {α : Type} (junction : Junction) (truth : α → Bool)
    (first : Formula α) (rest : List (Formula α)) :
    (Formula.chain junction first rest).holds truth =
      junction.decides ((first :: rest).map (holds truth)) := by
  induction rest generalizing first with
  | nil => cases junction <;> simp [chain, Junction.decides]
  | cons next rest ih =>
    calc (Formula.chain junction first (next :: rest)).holds truth
        = junction.decides ((joined junction first next :: rest).map (holds truth)) := ih _
      _ = junction.decides ((first :: next :: rest).map (holds truth)) := by
        cases junction <;> simp [holds, Junction.decides, Bool.and_assoc, Bool.or_assoc]

/-- A part of a text with fragments in it. -/
inductive Symbol (α : Type) where
  /-- A character between the fragments. -/
  | char (c : Char)
  /-- A fragment and what is written for it. -/
  | atom (a : α) (text : String)

namespace Symbol

variable {α : Type}

/-- The text that symbols are written as. -/
def spelled : List (Symbol α) → String
  | [] => ""
  | .char c :: rest => String.singleton c ++ spelled rest
  | .atom _ text :: rest => text ++ spelled rest

/-- The fragments among symbols, in order. -/
def atoms : List (Symbol α) → List (α × String)
  | [] => []
  | .char _ :: rest => atoms rest
  | .atom a text :: rest => (a, text) :: atoms rest

/-- The symbols of a text without fragments. -/
def ofText (text : String) : List (Symbol α) := text.toList.map .char

/-- Symbols one after another are written one after another. -/
theorem spelled_append (symbols rest : List (Symbol α)) :
    spelled (symbols ++ rest) = spelled symbols ++ spelled rest := by
  induction symbols with
  | nil => simp [spelled]
  | cons symbol symbols ih => cases symbol <;> simp [spelled, ih, String.append_assoc]

/-- The fragments of symbols one after another. -/
theorem atoms_append (symbols rest : List (Symbol α)) :
    atoms (symbols ++ rest) = atoms symbols ++ atoms rest := by
  induction symbols with
  | nil => rfl
  | cons symbol symbols ih => cases symbol <;> simp [atoms, ih]

/-- A text without fragments is written as it is. -/
theorem spelled_ofText (text : String) : spelled (ofText text : List (Symbol α)) = text := by
  have hchars (chars : List Char) :
      spelled (chars.map .char : List (Symbol α)) = String.ofList chars := by
    induction chars with
    | nil => rfl
    | cons c chars ih =>
      rw [List.map_cons, spelled, ih, ← String.toList_inj]
      simp
  rw [ofText, hchars, String.ofList_toList]

/-- A text without fragments has none. -/
theorem atoms_ofText (text : String) : atoms (ofText text : List (Symbol α)) = [] := by
  rw [ofText]
  induction text.toList with
  | nil => rfl
  | cons c chars ih => exact ih

end Symbol

/-- What the reader of a text sees. -/
inductive Token (α : Type) where
  /-- A fragment. -/
  | atom (a : α)
  /-- A junction. -/
  | junction (junction : Junction)
  /-- An opening parenthesis. -/
  | opening
  /-- A closing parenthesis. -/
  | closing

namespace Symbol

variable {α : Type}

/-- The tokens of a text; other characters have no reading. -/
def tokens? : List (Symbol α) → Option (List (Token α))
  | [] => some []
  | .atom a _ :: rest => (tokens? rest).map (.atom a :: ·)
  | .char '(' :: rest => (tokens? rest).map (.opening :: ·)
  | .char ')' :: rest => (tokens? rest).map (.closing :: ·)
  | .char ' ' :: .char 'a' :: .char 'n' :: .char 'd' :: .char ' ' :: rest =>
    (tokens? rest).map (.junction .and :: ·)
  | .char ' ' :: .char 'o' :: .char 'r' :: .char ' ' :: rest =>
    (tokens? rest).map (.junction .or :: ·)
  | _ => none

/-- Symbols are tokens whatever follows them. -/
def LexAs (symbols : List (Symbol α)) (tokens : List (Token α)) : Prop :=
  ∀ rest, tokens? (symbols ++ rest) = (tokens? rest).map (tokens ++ ·)

/-- Symbols one after another have the tokens of both. -/
theorem LexAs.append {symbols rest : List (Symbol α)} {tokens following : List (Token α)}
    (h : LexAs symbols tokens) (hrest : LexAs rest following) :
    LexAs (symbols ++ rest) (tokens ++ following) := by
  intro tail
  rw [List.append_assoc, h, hrest]
  cases tokens? tail <;> simp

/-- A fragment is one token. -/
theorem LexAs.atom (a : α) (text : String) : LexAs [.atom a text] [.atom a] := fun _ => rfl

/-- An opening parenthesis is one token. -/
theorem LexAs.opening : LexAs (ofText "(" : List (Symbol α)) [.opening] := fun _ => rfl

/-- A closing parenthesis is one token. -/
theorem LexAs.closing : LexAs (ofText ")" : List (Symbol α)) [.closing] := fun _ => rfl

/-- A junction between blanks is one token. -/
theorem LexAs.junction (junction : Junction) :
    LexAs (ofText (" " ++ junction.sql ++ " ") : List (Symbol α)) [.junction junction] := by
  cases junction <;> exact fun rest => rfl

end Symbol

/-- How tight the statements of a text are bound. -/
inductive Binding where
  /-- A fragment, or anything in parentheses. -/
  | operand
  /-- Operands with "and" between them. -/
  | conjunction
  /-- Conjunctions with "or" between them. -/
  | disjunction

/-- What tokens mean, taken as bound this tight. -/
inductive Means {α : Type} : Binding → List (Token α) → Formula α → Prop where
  /-- A fragment means itself. -/
  | atom (a : α) : Means .operand [.atom a] (.atom a)
  /-- Anything stands in parentheses. -/
  | parenthesized {tokens : List (Token α)} {formula : Formula α}
      (h : Means .disjunction tokens formula) :
      Means .operand ([.opening] ++ tokens ++ [.closing]) formula
  /-- An operand is a conjunction. -/
  | conjunction {tokens : List (Token α)} {formula : Formula α}
      (h : Means .operand tokens formula) : Means .conjunction tokens formula
  /-- An operand is added to a conjunction. -/
  | and {tokens following : List (Token α)} {left right : Formula α}
      (hleft : Means .conjunction tokens left) (hright : Means .operand following right) :
      Means .conjunction (tokens ++ [.junction .and] ++ following) (.joined .and left right)
  /-- A conjunction is a disjunction. -/
  | disjunction {tokens : List (Token α)} {formula : Formula α}
      (h : Means .conjunction tokens formula) : Means .disjunction tokens formula
  /-- A conjunction is added to a disjunction. -/
  | or {tokens following : List (Token α)} {left right : Formula α}
      (hleft : Means .disjunction tokens left) (hright : Means .conjunction following right) :
      Means .disjunction (tokens ++ [.junction .or] ++ following) (.joined .or left right)

/-- A statement joined to those before it, if there are any. -/
def Formula.after {α : Type} (junction : Junction) : Option (Formula α) → Formula α → Formula α
  | none, formula => formula
  | some earlier, formula => .joined junction earlier formula

/-- What has been read on one level of parentheses before the next operand. -/
structure Level (α : Type) where
  /-- What the operand is an alternative to. -/
  alternatives : Option (Formula α)
  /-- What is required together with the operand. -/
  requirements : Option (Formula α)

namespace Level

variable {α : Type}

/-- The level on which nothing has been read. -/
def start : Level α := ⟨none, none⟩

/-- What the level says when it ends with an operand. -/
def close (level : Level α) (operand : Formula α) : Formula α :=
  .after .or level.alternatives (.after .and level.requirements operand)

/-- The level after an operand and a junction; "or" ends what is required together. -/
def next (level : Level α) (operand : Formula α) : Junction → Level α
  | .and => ⟨level.alternatives, some (.after .and level.requirements operand)⟩
  | .or => ⟨some (level.close operand), none⟩

end Level

mutual

/-- The formula of tokens that go on with an operand, given what has been read on this level
and on the levels around it. -/
def readOperand {α : Type} (outer : List (Level α)) (level : Level α) :
    List (Token α) → Option (Formula α)
  | .atom a :: rest => readJunction outer level (.atom a) rest
  | .opening :: rest => readOperand (level :: outer) .start rest
  | _ => none

/-- The formula of tokens that go on after an operand. -/
def readJunction {α : Type} (outer : List (Level α)) (level : Level α) (operand : Formula α) :
    List (Token α) → Option (Formula α)
  | [] =>
    match outer with
    | [] => some (level.close operand)
    | _ :: _ => none
  | .junction junction :: rest => readOperand outer (level.next operand junction) rest
  | .closing :: rest =>
    match outer with
    | [] => none
    | around :: outer => readJunction outer around (level.close operand) rest
  | _ => none

end

/-- The formula that a text is read as. -/
def Symbol.read {α : Type} (symbols : List (Symbol α)) : Option (Formula α) :=
  (Symbol.tokens? symbols).bind (readOperand [] .start)

example : Symbol.read (.atom 1 "p" :: Symbol.ofText " or " ++ .atom 2 "q" ::
    Symbol.ofText " and " ++ [.atom 3 "r"]) =
    some (.joined .or (.atom 1) (.joined .and (.atom 2) (.atom 3))) := rfl

/-- What the reader makes of tokens that are bound this tight, whatever follows them. -/
def ReadBy {α : Type} (tokens : List (Token α)) (formula : Formula α) : Binding → Prop
  | .operand => ∀ outer level rest,
    readOperand outer level (tokens ++ rest) = readJunction outer level formula rest
  | .conjunction => ∀ outer alternatives, ∃ before last,
    Formula.after .and before last = formula ∧ ∀ rest,
      readOperand outer ⟨alternatives, none⟩ (tokens ++ rest) =
        readJunction outer ⟨alternatives, before⟩ last rest
  | .disjunction => ∀ outer, ∃ level last,
    Level.close level last = formula ∧ ∀ rest,
      readOperand outer .start (tokens ++ rest) = readJunction outer level last rest

/-- The reader finds what tokens mean, however tight they are bound. -/
theorem Means.readBy {α : Type} {binding : Binding} {tokens : List (Token α)}
    {formula : Formula α} (h : Means binding tokens formula) : ReadBy tokens formula binding := by
  induction h with
  | atom a => exact fun outer level rest => rfl
  | parenthesized h ih =>
    intro outer level rest
    obtain ⟨inner, last, hclose, hread⟩ := ih (level :: outer)
    rw [List.append_assoc, List.append_assoc, List.singleton_append, readOperand, hread,
      List.singleton_append, readJunction, hclose]
  | conjunction h ih => exact fun outer alternatives => ⟨none, _, rfl, ih outer _⟩
  | and hleft hright ihleft ihright =>
    intro outer alternatives
    obtain ⟨before, last, hformula, hread⟩ := ihleft outer alternatives
    refine ⟨some _, _, rfl, fun rest => ?_⟩
    rw [List.append_assoc, List.append_assoc, hread, List.singleton_append, readJunction,
      Level.next, hformula, ihright]
  | disjunction h ih =>
    intro outer
    obtain ⟨before, last, hformula, hread⟩ := ih outer none
    exact ⟨⟨none, before⟩, last, hformula, hread⟩
  | or hleft hright ihleft ihright =>
    intro outer
    obtain ⟨level, last, hclose, hread⟩ := ihleft outer
    obtain ⟨before, final, hformula, hfinal⟩ := ihright outer (some (level.close last))
    refine ⟨⟨some (level.close last), before⟩, final, ?_, fun rest => ?_⟩
    · rw [Level.close, hformula, hclose]
      rfl
    · rw [List.append_assoc, List.append_assoc, hread, List.singleton_append, readJunction,
        Level.next, hfinal]

/-- A text that means something is read as what it means. -/
theorem Symbol.read_of_means {α : Type} {symbols : List (Symbol α)} {tokens : List (Token α)}
    {formula : Formula α} (hlex : LexAs symbols tokens)
    (hmeans : Means .disjunction tokens formula) : read symbols = some formula := by
  have htokens := hlex []
  obtain ⟨level, last, hclose, hread⟩ := hmeans.readBy []
  have hread := hread []
  rw [List.append_nil] at htokens hread
  rw [read, htokens, tokens?, Option.map_some, List.append_nil, Option.bind_some, hread,
    readJunction, hclose]

/-- Symbols that mean one thing wherever they stand. -/
def OperandOf {α : Type} (symbols : List (Symbol α)) (formula : Formula α) : Prop :=
  ∃ tokens, Symbol.LexAs symbols tokens ∧ Means .operand tokens formula

/-- A fragment is an operand. -/
theorem OperandOf.atom {α : Type} (a : α) (text : String) :
    OperandOf [.atom a text] (.atom a) :=
  ⟨[.atom a], .atom a text, .atom a⟩

/-- Operands with one junction between neighbours. -/
def chained {α : Type} (junction : Junction) : List (List (Symbol α)) → List (Symbol α)
  | [] => []
  | [operand] => operand
  | operand :: next :: rest =>
    operand ++ Symbol.ofText (" " ++ junction.sql ++ " ") ++ chained junction (next :: rest)

/-- The text of a chain. -/
theorem Symbol.spelled_chained {α : Type} (junction : Junction)
    (operands : List (List (Symbol α))) :
    spelled (chained junction operands) =
      Text.joined (" " ++ junction.sql ++ " ") (operands.map spelled) := by
  fun_induction chained junction operands with
  | case1 => rfl
  | case2 operand => rfl
  | case3 operand next rest ih =>
    rw [spelled_append, spelled_append, spelled_ofText, ih]
    rfl

/-- The fragments of a chain. -/
theorem Symbol.atoms_chained {α : Type} (junction : Junction) (operands : List (List (Symbol α))) :
    atoms (chained junction operands) = operands.flatMap atoms := by
  fun_induction chained junction operands with
  | case1 => rfl
  | case2 operand => simp
  | case3 operand next rest ih => simp [atoms_append, atoms_ofText, ih]

/-- A chain in parentheses. -/
def parenthesizedChain {α : Type} (junction : Junction) (operands : List (List (Symbol α))) :
    List (Symbol α) :=
  Symbol.ofText "(" ++ chained junction operands ++ Symbol.ofText ")"

/-- The text of a chain in parentheses. -/
theorem Symbol.spelled_parenthesizedChain {α : Type} (junction : Junction)
    (operands : List (List (Symbol α))) :
    spelled (parenthesizedChain junction operands) =
      "(" ++ Text.joined (" " ++ junction.sql ++ " ") (operands.map spelled) ++ ")" := by
  rw [parenthesizedChain, spelled_append, spelled_append, spelled_ofText, spelled_ofText,
    spelled_chained]

/-- The fragments of a chain in parentheses. -/
theorem Symbol.atoms_parenthesizedChain {α : Type} (junction : Junction)
    (operands : List (List (Symbol α))) :
    atoms (parenthesizedChain junction operands) = operands.flatMap atoms := by
  rw [parenthesizedChain, atoms_append, atoms_append, atoms_ofText, atoms_ofText, atoms_chained,
    List.nil_append, List.append_nil]

section Chains

variable {α : Type}

/-- A chain may be cut after its second operand. -/
theorem chained_cons_cons (junction : Junction) (first second : List (Symbol α))
    (rest : List (List (Symbol α))) :
    chained junction (first :: second :: rest) =
      chained junction
        ((first ++ Symbol.ofText (" " ++ junction.sql ++ " ") ++ second) :: rest) := by
  cases rest with
  | nil => rfl
  | cons third rest => simp only [chained, List.append_assoc]

/-- How tight the operands of a chain are bound together. -/
def Junction.binding : Junction → Binding
  | .and => .conjunction
  | .or => .disjunction

namespace Means

variable {junction : Junction} {tokens following : List (Token α)} {left right : Formula α}

/-- An operand is a chain. -/
theorem of_operand (h : Means .operand tokens left) : Means junction.binding tokens left := by
  cases junction with
  | and => exact .conjunction h
  | or => exact .disjunction (.conjunction h)

/-- An operand is added to a chain. -/
theorem add (hleft : Means junction.binding tokens left) (hright : Means .operand following right) :
    Means junction.binding (tokens ++ [.junction junction] ++ following)
      (.joined junction left right) := by
  cases junction with
  | and => exact .and hleft hright
  | or => exact .or hleft (.conjunction hright)

/-- A chain is a disjunction. -/
theorem of_chain (h : Means junction.binding tokens left) : Means .disjunction tokens left := by
  cases junction with
  | and => exact .disjunction h
  | or => exact h

end Means

/-- A chain whose first part is a chain already means what its parts say together. -/
theorem OperandOf.extend_chain (junction : Junction) (symbols : List (Symbol α))
    (tokens : List (Token α)) (formula : Formula α)
    (rest : List (List (Symbol α) × Formula α)) (hlex : Symbol.LexAs symbols tokens)
    (hmeans : Means junction.binding tokens formula)
    (hoperands : ∀ operand ∈ rest, OperandOf operand.1 operand.2) :
    ∃ all, Symbol.LexAs (chained junction (symbols :: rest.map (·.1))) all ∧
      Means junction.binding all (Formula.chain junction formula (rest.map (·.2))) := by
  induction rest generalizing symbols tokens formula with
  | nil => exact ⟨tokens, hlex, hmeans⟩
  | cons next rest ih =>
    obtain ⟨following, hfollowing, hnext⟩ := hoperands next (by simp)
    rw [List.map_cons, chained_cons_cons]
    exact ih _ _ _ ((hlex.append (.junction junction)).append hfollowing) (hmeans.add hnext)
      fun operand hoperand => hoperands operand (List.mem_cons_of_mem _ hoperand)

/-- A chain of operands means what they say together. -/
theorem OperandOf.chain_means (junction : Junction) (first : List (Symbol α) × Formula α)
    (rest : List (List (Symbol α) × Formula α))
    (hoperands : ∀ operand ∈ first :: rest, OperandOf operand.1 operand.2) :
    ∃ tokens, Symbol.LexAs (chained junction ((first :: rest).map (·.1))) tokens ∧
      Means .disjunction tokens (Formula.chain junction first.2 (rest.map (·.2))) := by
  obtain ⟨firstTokens, hfirst, hmeans⟩ := hoperands first (by simp)
  obtain ⟨tokens, hlex, hchain⟩ := extend_chain junction first.1 firstTokens first.2 rest hfirst
    hmeans.of_operand fun operand hoperand =>
      hoperands operand (List.mem_cons_of_mem _ hoperand)
  exact ⟨tokens, hlex, hchain.of_chain⟩

/-- A chain in parentheses is an operand. -/
theorem OperandOf.parenthesized (junction : Junction) (first : List (Symbol α) × Formula α)
    (rest : List (List (Symbol α) × Formula α))
    (hoperands : ∀ operand ∈ first :: rest, OperandOf operand.1 operand.2) :
    OperandOf (parenthesizedChain junction ((first :: rest).map (·.1)))
      (Formula.chain junction first.2 (rest.map (·.2))) := by
  obtain ⟨tokens, hlex, hmeans⟩ := chain_means junction first rest hoperands
  exact ⟨_, (Symbol.LexAs.opening.append hlex).append .closing, .parenthesized hmeans⟩

/-- A chain alone is read as what its parts say together. -/
theorem Symbol.read_chained (junction : Junction) (first : List (Symbol α) × Formula α)
    (rest : List (List (Symbol α) × Formula α))
    (hoperands : ∀ operand ∈ first :: rest, OperandOf operand.1 operand.2) :
    read (chained junction ((first :: rest).map (·.1))) =
      some (Formula.chain junction first.2 (rest.map (·.2))) := by
  obtain ⟨tokens, hlex, hmeans⟩ := OperandOf.chain_means junction first rest hoperands
  exact read_of_means hlex hmeans

end Chains

end ScopeQuery
