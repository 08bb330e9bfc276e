import Storyboard.Code.Grammar.Lead
import Storyboard.Code.Phrase

/-!
# Readers

A reader goes through code from the front, takes over what belongs to the form that it reads and
stops in front of the rest.  It fails where the form is broken.  What stands in brackets is read by
a reader of its own; if that stops before the end of the brackets, what is left over there is not a
reason to fail, but it is remembered.
-/

namespace Storyboard.Code

/-- How far reading has come. -/
structure Progress where
  /-- The pieces that have been taken over, the last one first. -/
  taken : List Code
  rest : Code
  /-- Whether nothing has been left over in brackets. -/
  isWhole : Bool
  /-- A number of pieces that the code has not exceeded since the beginning. -/
  limit : Nat

/-- The beginning of some code. -/
def Progress.start (code : Code) : Progress := ⟨[], code, true, code.size⟩

/-- The code that has been taken over. -/
def Progress.code (progress : Progress) : Code :=
  progress.taken.foldl (fun rest piece => piece ++ rest) done

/-- A reader whose result is a value of the given type. -/
abbrev Reader := StateT Progress Option

namespace Reader

/-- The code ahead. -/
def ahead : Reader Code := do return (← get).rest

/-- Whether the code ahead begins with a lead. -/
def sees (lead : Lead) : Reader Bool := do return (← ahead).begins lead

/-- Whether the code has been read to its end. -/
def atEnd : Reader Bool := do return (← ahead).isDone

/-- Takes the next piece over, whatever it is. -/
def piece : Reader Unit := fun progress =>
  match progress.rest with
  | done => none
  | token head rest =>
      some ((), { progress with taken := token head done :: progress.taken, rest := rest })
  | group bracket inner rest =>
      some ((), { progress with taken := group bracket inner done :: progress.taken, rest := rest })

/-- Takes some pieces over. -/
def pieces : Nat → Reader Unit
  | 0 => return
  | count + 1 => do
      piece
      pieces count

/-- Takes a lead over, which has to be there. -/
def take (lead : Lead) : Reader Unit := do
  match lead.length? (← ahead) with
  | some count => pieces count
  | none => failure

/-- Takes a lead over if it is there, and says whether it was. -/
def accept (lead : Lead) : Reader Bool := do
  match lead.length? (← ahead) with
  | some count =>
      pieces count
      return true
  | none => return false

/-- Passes over a lead without taking it over, if it is there. -/
def pass (lead : Lead) : Reader Unit := do
  let progress ← get
  if ← accept lead then
    set { progress with rest := (← ahead) }

/-- Takes over code instead of the next piece. -/
def replace (code : Code) : Reader Unit := fun progress =>
  match progress.rest with
  | done => none
  | token _ rest | group _ _ rest =>
      some ((), { progress with taken := code :: progress.taken, rest := rest })

/-- Reads what stands in the brackets ahead, which have to be of one kind. -/
def within {α : Type} (kind : Bracket) (reader : Reader α) : Reader α := fun progress =>
  match progress.rest with
  | group bracket inner rest =>
      if bracket = kind then
        (reader ⟨[], inner, true, progress.limit⟩).map fun (value, inside) =>
          (value,
            { taken := group bracket inside.code done :: progress.taken
              rest := rest
              isWhole := progress.isWhole && inside.isWhole && inside.rest.isDone
              limit := progress.limit })
      else none
  | _ => none

/-- Gives what a reader takes over as well, instead of taking it over. -/
def collected {α : Type} (reader : Reader α) : Reader (α × Code) := do
  let before ← get
  set { before with taken := [] }
  let value ← reader
  let reached ← get
  set { reached with taken := before.taken }
  return (value, reached.code)

/-- The code behind what a reader would take over, if it would not fail.  Nothing is taken over. -/
def codeBehind? (reader : Reader Unit) : Reader (Option Code) := fun progress =>
  some ((reader progress).map fun (_, reached) => reached.rest, progress)

/-! ## Repetition -/

/-- Goes on from a state as long as a step gives a next one, but at most `count` times. -/
def iterateUpTo {σ : Type} (step : σ → Reader (Option σ)) : Nat → σ → Reader σ
  | 0, _ => failure
  | count + 1, state => do
      match ← step state with
      | some next => iterateUpTo step count next
      | none => return state

/-- Goes on from a state as long as a step gives a next one.  A step that does so takes over at
least one piece, so there are no more steps than pieces. -/
def iterate {σ : Type} (step : σ → Reader (Option σ)) (state : σ) : Reader σ := do
  iterateUpTo step ((← get).limit + 1) state

/-- Repeats a reader as long as it asks for it. -/
def repeated (reader : Reader Bool) : Reader Unit :=
  iterate (fun _ => do return if ← reader then some () else none) ()

/-- Reads entries with commas between them and possibly behind them, up to where the list is
closed. -/
def entriesUpTo (closed : Code → Bool) (entry : Reader Unit) : Reader Unit :=
  repeated do
    if closed (← ahead) then return false
    entry
    if closed (← ahead) then return false
    take (.signs ",")
    return true

/-- Reads entries with commas between them and possibly behind them, up to the end. -/
def entries (entry : Reader Unit) : Reader Unit := entriesUpTo isDone entry

/-- An entry of a list, with the comma behind it if there is one. -/
structure ListEntry where
  isLabel : Bool
  hasComma : Bool
  code : Code

/-- Entries with the labels among them first.  A label that had no comma behind it gets one if
others follow it now. -/
def labelsFirst (entries : List ListEntry) : Code :=
  let (labels, others) := entries.partition (·.isLabel)
  let isParted := others.isEmpty || labels.all (·.hasComma)
  concat (labels.map (·.code)) ++ (if isParted then done else sign ',')
    ++ concat (others.map (·.code))

/-- Reads entries like `entriesUpTo`, where an entry tells whether it is a label, and takes the
labels over before the others. -/
def entriesLabelsFirst (closed : Code → Bool) (entry : Reader Bool) : Reader Unit := do
  let (entries, _) ← iterate (fun (entries, isOpen) => do
    if !isOpen || closed (← ahead) then return none
    let ((isLabel, hasComma), code) ← collected do
      let isLabel ← entry
      if closed (← ahead) then return (isLabel, false)
      take (.signs ",")
      return (isLabel, true)
    return some (entries ++ [⟨isLabel, hasComma, code⟩], hasComma)) ([], true)
  modify fun progress => { progress with taken := labelsFirst entries :: progress.taken }

end Reader

end Storyboard.Code
