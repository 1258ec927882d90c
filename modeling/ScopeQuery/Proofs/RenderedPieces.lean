import Mathlib.Tactic.Choose
import ScopeQuery.Sql.Render

/-!
# Pieces of rendered text

What a node renders to is settled before any session starts: it fails with one error
in every session of a dialect, or it is a list of fixed texts and values that the
session writes in order. Only writing a value depends on the session, which either
binds it under the next name or puts its literal in place.
-/

namespace ScopeQuery

/-- A part of a rendered text. -/
inductive Piece where
  /-- A text that is the same in every session. -/
  | text (text : String)
  /-- A value that the session binds or writes in place. -/
  | value (value : Value)

namespace Session

/-- The text of pieces, and the session after it. -/
def write (session : Session) : List Piece → String × Session
  | [] => ("", session)
  | .text text :: rest =>
    let (tail, session) := session.write rest
    (text ++ tail, session)
  | .value value :: rest =>
    let (text, session) := session.bind value
    let (tail, session) := session.write rest
    (text ++ tail, session)

/-- The texts of several lists of pieces, and the session after them. -/
def writeAll (session : Session) : List (List Piece) → List String × Session
  | [] => ([], session)
  | pieces :: rest =>
    let (text, session) := session.write pieces
    let (texts, session) := session.writeAll rest
    (text :: texts, session)

/-- Binding a value keeps the dialect. -/
theorem bind_dialect (session : Session) (value : Value) :
    (session.bind value).2.dialect = session.dialect := by
  unfold bind
  split <;> rfl

/-- Writing keeps the dialect. -/
theorem write_dialect (session : Session) (pieces : List Piece) :
    (session.write pieces).2.dialect = session.dialect := by
  induction pieces generalizing session with
  | nil => rfl
  | cons piece rest ih =>
    cases piece with
    | text text => exact ih session
    | value value => exact (ih _).trans (bind_dialect session value)

/-- Writing several lists of pieces keeps the dialect. -/
theorem writeAll_dialect (session : Session) (groups : List (List Piece)) :
    (session.writeAll groups).2.dialect = session.dialect := by
  induction groups generalizing session with
  | nil => rfl
  | cons pieces rest ih => exact (ih _).trans (write_dialect session pieces)

/-- A single text is written as it is. -/
theorem write_text (session : Session) (text : String) :
    session.write [.text text] = (text, session) := by
  simp [write]

/-- A single value is bound. -/
theorem write_value (session : Session) (value : Value) :
    session.write [.value value] = session.bind value := by
  simp [write]

/-- Pieces one after another are written one after another. -/
theorem write_append (session : Session) (pieces rest : List Piece) :
    session.write (pieces ++ rest) =
      ((session.write pieces).1 ++ ((session.write pieces).2.write rest).1,
        ((session.write pieces).2.write rest).2) := by
  induction pieces generalizing session with
  | nil => simp [write]
  | cons piece pieces ih =>
    cases piece with
    | text text =>
      rw [List.cons_append, write, write, ih session]
      simp only [String.append_assoc]
    | value value =>
      rw [List.cons_append, write, write]
      cases session.bind value with
      | mk name after =>
        dsimp only
        rw [ih after]
        simp only [String.append_assoc]

end Session

/-- Pieces in parentheses. -/
def parenthesized (pieces : List Piece) : List Piece := .text "(" :: (pieces ++ [.text ")"])

/-- Parentheses are written around the text. -/
theorem Session.write_parenthesized (session : Session) (pieces : List Piece) :
    session.write (parenthesized pieces) =
      ("(" ++ (session.write pieces).1 ++ ")", (session.write pieces).2) := by
  rw [parenthesized, write, write_append, write_text]
  simp only [String.append_assoc]

/-- Several lists of pieces with a separator between neighbours. -/
def joinedPieces (separator : String) : List (List Piece) → List Piece
  | [] => []
  | [pieces] => pieces
  | pieces :: next :: rest => pieces ++ .text separator :: joinedPieces separator (next :: rest)

/-- Joined pieces are written as the joined texts. -/
theorem Session.write_joinedPieces (session : Session) (separator : String)
    (groups : List (List Piece)) :
    session.write (joinedPieces separator groups) =
      (Text.joined separator (session.writeAll groups).1, (session.writeAll groups).2) := by
  induction groups generalizing session with
  | nil => rfl
  | cons pieces rest ih =>
    cases rest with
    | nil => simp [joinedPieces, writeAll, Text.joined]
    | cons next rest =>
      rw [joinedPieces, write_append, write, ih]
      simp [writeAll, Text.joined, String.append_assoc]

/-- Several bound values are written as pieces of their own. -/
theorem Session.bindAll_eq_writeAll (session : Session) (values : List Value) :
    session.bindAll values = session.writeAll (values.map fun value => [.value value]) := by
  induction values generalizing session with
  | nil => rfl
  | cons value rest ih =>
    rw [List.map_cons, bindAll, writeAll, write_value]
    cases session.bind value with
    | mk name after =>
      dsimp only
      rw [ih after]

/-- The pieces of a value in the place of a tag. -/
def valuePieces (dialect : Dialect) : TagStyle → Value → List Piece
  | .param, .array items =>
    parenthesized (joinedPieces ", " (items.map fun value => [.value value]))
  | .param, value => [.value value]
  | .identifier, value => [.text (quoteIdentifier dialect value.text)]
  | .soft, value => [.text (softIdentifier dialect value.text)]

/-- A value in the place of a tag is written by its pieces. -/
theorem Session.writeValue_eq_write (session : Session) (style : TagStyle) (value : Value) :
    session.writeValue style value = session.write (valuePieces session.dialect style value) := by
  cases style with
  | param =>
    cases value with
    | array items =>
      rw [writeValue, valuePieces, write_parenthesized, write_joinedPieces, bindAll_eq_writeAll]
    | _ => exact (write_value session _).symm
  | identifier => cases value <;> exact (write_text session _).symm
  | soft => cases value <;> exact (write_text session _).symm

/-! ### Outcomes of renderings -/

/-- A rendering comes to an outcome, an error or pieces to write, in every session of the
dialect. -/
def Settles (dialect : Dialect) (render : Session → Rendering)
    (outcome : Except QueryError (List Piece)) : Prop :=
  ∀ session, session.dialect = dialect → render session = outcome.map session.write

/-- The rendering of several items comes to an outcome in every session of the dialect. -/
def ItemsSettle (dialect : Dialect)
    (render : Session → Except QueryError (List String × Session))
    (outcome : Except QueryError (List (List Piece))) : Prop :=
  ∀ session, session.dialect = dialect → render session = outcome.map session.writeAll

/-- The outcome of two steps one after another, the second after the first has succeeded. -/
def inTurn {α β γ : Type} (combine : α → β → γ) (first : Except QueryError α)
    (second : Except QueryError β) : Except QueryError γ :=
  match first with
  | .error error => .error error
  | .ok a => second.map (combine a)

/-- The pieces of a template's segments, given those of each tag. -/
def filled (written : TagTarget → TagStyle → Except QueryError (List Piece)) :
    List Segment → Except QueryError (List Piece)
  | [] => .ok []
  | .text text :: rest => (filled written rest).map (.text text :: ·)
  | .tag target style :: rest => inTurn (· ++ ·) (written target style) (filled written rest)

namespace Settles

variable {dialect : Dialect}

/-- Failing at once. -/
theorem fail (error : QueryError) : Settles dialect (fun _ => .error error) (.error error) :=
  fun _ _ => rfl

/-- The same rendering in the sessions of the dialect has the same outcome. -/
theorem congr {render other : Session → Rendering} {outcome : Except QueryError (List Piece)}
    (h : Settles dialect other outcome)
    (heq : ∀ session, session.dialect = dialect → render session = other session) :
    Settles dialect render outcome :=
  fun session hdialect => (heq session hdialect).trans (h session hdialect)

/-- A rendering put in parentheses. -/
theorem parenthesize {render other : Session → Rendering}
    {outcome : Except QueryError (List Piece)} (h : Settles dialect other outcome)
    (heq : ∀ session, render session =
      (other session).map fun (text, after) => ("(" ++ text ++ ")", after)) :
    Settles dialect render (outcome.map parenthesized) := by
  intro session hdialect
  rw [heq session, h session hdialect]
  cases outcome with
  | error error => rfl
  | ok pieces => exact congrArg Except.ok (session.write_parenthesized pieces).symm

/-- A template is filled with what its tags come to, one after another. -/
theorem fill {renderTag : TagTarget → TagStyle → Session → Rendering}
    {written : TagTarget → TagStyle → Except QueryError (List Piece)}
    (h : ∀ target style, Settles dialect (renderTag target style) (written target style))
    (segments : List Segment) :
    Settles dialect (ScopeQuery.fill renderTag segments) (filled written segments) := by
  induction segments with
  | nil => exact fun _ _ => rfl
  | cons segment rest ih =>
    cases segment with
    | text text =>
      intro session hdialect
      rw [ScopeQuery.fill, ih session hdialect, filled]
      cases filled written rest <;> rfl
    | tag target style =>
      intro session hdialect
      rw [ScopeQuery.fill, h target style session hdialect, filled]
      cases written target style with
      | error error => rfl
      | ok pieces =>
        -- The rest is filled in the session the tag leaves, which is of the same dialect.
        have hrest := ih _ ((session.write_dialect pieces).trans hdialect)
        simp only [inTurn, Except.map] at hrest ⊢
        rw [hrest]
        cases filled written rest with
        | error error => rfl
        | ok tail => exact congrArg Except.ok (session.write_append pieces tail).symm

end Settles

/-- An item goes in front of those behind it. -/
theorem ItemsSettle.cons {dialect : Dialect} {argument : Session → Rendering}
    {items rest : Session → Except QueryError (List String × Session)}
    {outcome : Except QueryError (List Piece)}
    {following : Except QueryError (List (List Piece))}
    (hargument : Settles dialect argument outcome) (hrest : ItemsSettle dialect rest following)
    (hitems : ∀ session, items session = (argument session).bind fun (text, after) =>
      (rest after).map fun (texts, last) => (text :: texts, last)) :
    ItemsSettle dialect items (inTurn List.cons outcome following) := by
  intro session hdialect
  rw [hitems, hargument session hdialect]
  cases outcome with
  | error error => rfl
  | ok pieces =>
    have hafter := hrest _ ((session.write_dialect pieces).trans hdialect)
    simp only [Except.map, Except.bind] at hafter ⊢
    rw [hafter]
    cases following <;> rfl

/-- Rendering that is settled before the session starts: in every session of the dialect
it fails with the same error, or writes the same pieces. -/
def Settled (dialect : Dialect) (render : Session → Rendering) : Prop :=
  (∃ error, ∀ session, session.dialect = dialect → render session = .error error) ∨
    ∃ pieces, ∀ session, session.dialect = dialect → render session = .ok (session.write pieces)

/-- What comes to an outcome is settled. -/
theorem Settles.settled {dialect : Dialect} {render : Session → Rendering}
    {outcome : Except QueryError (List Piece)} (h : Settles dialect render outcome) :
    Settled dialect render := by
  cases outcome with
  | error error => exact .inl ⟨error, h⟩
  | ok pieces => exact .inr ⟨pieces, h⟩

/-- What is settled comes to an outcome. -/
theorem Settled.exists_outcome {dialect : Dialect} {render : Session → Rendering}
    (h : Settled dialect render) : ∃ outcome, Settles dialect render outcome := by
  obtain ⟨error, herror⟩ | ⟨pieces, hpieces⟩ := h
  · exact ⟨.error error, herror⟩
  · exact ⟨.ok pieces, hpieces⟩

/-- Failing at once is settled. -/
theorem Settled.fail (dialect : Dialect) (error : QueryError) :
    Settled dialect fun _ => .error error :=
  (Settles.fail error).settled

/-- Sessions of the dialect are the only ones that count. -/
theorem Settled.congr {dialect : Dialect} {render other : Session → Rendering}
    (h : Settled dialect other)
    (heq : ∀ session, session.dialect = dialect → render session = other session) :
    Settled dialect render := by
  obtain ⟨outcome, houtcome⟩ := h.exists_outcome
  exact (houtcome.congr heq).settled

/-- Filling a template is settled when every tag is. -/
theorem fill_settled {dialect : Dialect} {renderTag : TagTarget → TagStyle → Session → Rendering}
    (h : ∀ target style, Settled dialect (renderTag target style)) (segments : List Segment) :
    Settled dialect (fill renderTag segments) := by
  choose written hwritten using fun target style => (h target style).exists_outcome
  exact (Settles.fill hwritten segments).settled

end ScopeQuery
